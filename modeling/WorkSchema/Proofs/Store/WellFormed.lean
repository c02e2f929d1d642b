import Mathlib.Data.List.Chain
import Mathlib.Logic.Relation
import WorkSchema.Proofs.Engine.Validity

/-!
When the types of a catalog are well formed: each is one that the checks let
through, and the base links lead from type to type, never back, and not too far.
All that is about the links follows from one thing, which the operations can be
seen to keep: every stored type can be resolved.
-/

namespace WorkSchema

/-- What the checks of the engine ask of a type. -/
structure WorkItemType.Checked (type : WorkItemType) : Prop where
  named : Text.isBlank type.name = false
  fieldsNamed : ∀ name definition, type.fields.get? name = some definition →
    Text.isBlank name = false
  valid : type.fields.Valid

namespace Catalog

variable {catalog : Catalog} {max : Nat} {id base : TypeId}

/-- Whether a stored type extends the type of another id. -/
def Extends (catalog : Catalog) (id base : TypeId) : Prop :=
  ∃ type ∈ catalog.types.elements, type.id = id ∧ type.base? = some base

structure WellFormed (catalog : Catalog) (max : Nat) : Prop where
  checked : ∀ type ∈ catalog.types.elements, type.Checked
  based : ∀ id base, catalog.Extends id base → ∃ type ∈ catalog.types.elements, type.id = base
  acyclic : ∀ id, ¬ Relation.TransGen catalog.Extends id id
  bounded : ∀ id above, List.IsChain catalog.Extends (id :: above) → above.length ≤ max

/-- Whether every stored type has passed the checks and can be resolved. -/
structure Sound (catalog : Catalog) (max : Nat) : Prop where
  checked : ∀ type ∈ catalog.types.elements, type.Checked
  resolves : ∀ type ∈ catalog.types.elements, ∃ schema, catalog.flatten max type.id = .ok schema

namespace Sound

private theorem lineage (hsound : catalog.Sound max) (hextends : catalog.Extends id base) :
    ∃ type above, catalog.Lineage id (type :: above) ∧ catalog.Lineage base above ∧
      above.length ≤ max := by
  obtain ⟨type, hmem, rfl, hbase⟩ := hextends
  obtain ⟨schema, hschema⟩ := hsound.resolves type hmem
  obtain ⟨chain, hchain, _⟩ := flatten_eq_ok.mp hschema
  obtain ⟨hlineage, hlength⟩ := chain_eq_ok.mp hchain
  have hfound := type?_of_mem hmem
  cases hlineage with
  | root hfound' hnone =>
      rw [hfound] at hfound'
      cases hfound'
      rw [hbase] at hnone
      cases hnone
  | @link _ other above' above hfound' hsome habove =>
      rw [hfound] at hfound'
      cases hfound'
      rw [hbase] at hsome
      cases hsome
      exact ⟨type, above, .link hfound hbase habove, habove, by simpa using hlength⟩

/-- Every base link leads to a type whose lineage is shorter by one. -/
private theorem lineage_of_extends (hsound : catalog.Sound max)
    (hextends : catalog.Extends id base) {chain : List WorkItemType}
    (hlineage : catalog.Lineage id chain) :
    ∃ above, catalog.Lineage base above ∧ chain.length = above.length + 1 := by
  obtain ⟨type, above, hsame, habove, _⟩ := hsound.lineage hextends
  obtain rfl := hlineage.unique hsame
  exact ⟨above, habove, rfl⟩

private theorem length_lt_of_transGen (hsound : catalog.Sound max)
    (hreach : Relation.TransGen catalog.Extends id base) {chain : List WorkItemType}
    (hlineage : catalog.Lineage id chain) :
    ∃ above, catalog.Lineage base above ∧ above.length < chain.length := by
  induction hreach with
  | single hextends =>
      obtain ⟨above, habove, hlength⟩ := hsound.lineage_of_extends hextends hlineage
      exact ⟨above, habove, by omega⟩
  | tail _ hextends ih =>
      obtain ⟨middle, hmiddle, hless⟩ := ih
      obtain ⟨above, habove, hlength⟩ := hsound.lineage_of_extends hextends hmiddle
      exact ⟨above, habove, by omega⟩

private theorem length_lt_of_isChain (hsound : catalog.Sound max) {above : List TypeId}
    (hlinks : List.IsChain catalog.Extends (id :: above)) {chain : List WorkItemType}
    (hlineage : catalog.Lineage id chain) : above.length < chain.length := by
  induction above generalizing id chain with
  | nil =>
      obtain ⟨type, rest, rfl, _⟩ := hlineage.head
      simp
  | cons base above ih =>
      rw [List.isChain_cons_cons] at hlinks
      obtain ⟨rest, hrest, hlength⟩ := hsound.lineage_of_extends hlinks.1 hlineage
      have hless := ih hlinks.2 hrest
      rw [List.length_cons]
      omega

/-- Where every type can be resolved, the base links are in order. -/
theorem wellFormed (hsound : catalog.Sound max) : catalog.WellFormed max where
  checked := hsound.checked
  based id base hextends := by
    obtain ⟨_, above, _, habove, _⟩ := hsound.lineage hextends
    obtain ⟨type, rest, rfl, hid⟩ := habove.head
    exact ⟨type, mem_of_type? (hid ▸ habove.type?_of_mem List.mem_cons_self), hid⟩
  acyclic id hcycle := by
    obtain ⟨base, hextends, _⟩ := Relation.TransGen.head'_iff.mp hcycle
    obtain ⟨type, above, hlineage, _⟩ := hsound.lineage hextends
    obtain ⟨again, hagain, hless⟩ := hsound.length_lt_of_transGen hcycle hlineage
    rw [hagain.unique hlineage] at hless
    exact Nat.lt_irrefl _ hless
  bounded id above hlinks := by
    cases above with
    | nil => exact Nat.zero_le max
    | cons base above =>
        rw [List.isChain_cons_cons] at hlinks
        obtain ⟨_, rest, _, hrest, hbound⟩ := hsound.lineage hlinks.1
        have hless := hsound.length_lt_of_isChain hlinks.2 hrest
        rw [List.length_cons]
        omega

end Sound

end Catalog

end WorkSchema
