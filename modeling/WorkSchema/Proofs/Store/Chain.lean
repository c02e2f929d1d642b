import WorkSchema.Proofs.Collection.RankedList
import WorkSchema.Proofs.Identifier
import WorkSchema.Proofs.Outcome
import WorkSchema.Store.Catalog

/-!
The chain of a type is described by the base links alone: it is the one list of
stored types that follows them up to a type without a base. The walk returns
that list exactly if it exists and is not too long. That no type comes twice is
a consequence, for a list that came back to a type could not end.
-/

namespace WorkSchema

theorem WorkItemType.rank_eq_iff {a b : WorkItemType} : rank a = rank b ↔ a.id = b.id :=
  ⟨fun hrank => Identifier.rank_injective hrank, fun hid => congrArg (rank : TypeId → Nat) hid⟩

namespace Catalog

variable {catalog : Catalog} {id : TypeId} {type : WorkItemType}

theorem id_of_type? (hfound : catalog.type? id = some type) : type.id = id := by
  have hrank : rank type = rank id := RankedList.rank_of_find? hfound
  exact Identifier.rank_injective hrank

theorem mem_of_type? (hfound : catalog.type? id = some type) : type ∈ catalog.types.elements :=
  RankedList.mem_of_find? hfound

theorem type?_of_mem (hmem : type ∈ catalog.types.elements) : catalog.type? type.id = some type :=
  RankedList.find?_of_mem hmem

theorem load_eq_ok : catalog.load id = .ok type ↔ catalog.type? id = some type := by
  unfold load
  cases catalog.type? id <;> simp [pure, Except.pure, throw, throwThe, MonadExceptOf.throw]

theorem id_of_category? {id : CategoryId} {category : Category}
    (hfound : catalog.category? id = some category) : category.id = id := by
  have hrank : rank category = rank id := RankedList.rank_of_find? hfound
  exact Identifier.rank_injective hrank

theorem loadCategory_eq_ok {id : CategoryId} {category : Category} :
    catalog.loadCategory id = .ok category ↔ catalog.category? id = some category := by
  unfold loadCategory
  cases catalog.category? id <;> simp [pure, Except.pure, throw, throwThe, MonadExceptOf.throw]

theorem type?_save (catalog : Catalog) (type : WorkItemType) (id : TypeId) :
    (catalog.save type).type? id = if id = type.id then some type else catalog.type? id := by
  have hfind := RankedList.find?_insert catalog.types type (rank id)
  have hrank : rank id = rank type ↔ id = type.id := by
    constructor
    · exact Identifier.rank_injective
    · rintro rfl
      rfl
  simpa only [type?, save, hrank] using hfind

/-- The types that the base links lead through, from a type up to one that has
no base. -/
inductive Lineage (catalog : Catalog) : TypeId → List WorkItemType → Prop where
  | root {id : TypeId} {type : WorkItemType} :
      catalog.type? id = some type → type.base? = none → Lineage catalog id [type]
  | link {id base : TypeId} {type : WorkItemType} {above : List WorkItemType} :
      catalog.type? id = some type → type.base? = some base → Lineage catalog base above →
        Lineage catalog id (type :: above)

namespace Lineage

variable {chain : List WorkItemType}

theorem unique {other : List WorkItemType} (hchain : catalog.Lineage id chain)
    (hother : catalog.Lineage id other) : chain = other := by
  induction hchain generalizing other with
  | root hfound hbase =>
      cases hother with
      | root hfound' _ =>
          rw [hfound] at hfound'
          cases hfound'
          rfl
      | link hfound' hbase' _ =>
          rw [hfound] at hfound'
          cases hfound'
          rw [hbase] at hbase'
          cases hbase'
  | link hfound hbase _ ih =>
      cases hother with
      | root hfound' hbase' =>
          rw [hfound] at hfound'
          cases hfound'
          rw [hbase] at hbase'
          cases hbase'
      | link hfound' hbase' habove =>
          rw [hfound] at hfound'
          cases hfound'
          rw [hbase] at hbase'
          cases hbase'
          rw [ih habove]

theorem head (hchain : catalog.Lineage id chain) :
    ∃ type above, chain = type :: above ∧ type.id = id := by
  cases hchain with
  | root hfound _ => exact ⟨_, _, rfl, id_of_type? hfound⟩
  | link hfound _ _ => exact ⟨_, _, rfl, id_of_type? hfound⟩

/-- From each of its types on, a chain is the chain of that type. -/
theorem split (hchain : catalog.Lineage id chain) (hmem : type ∈ chain) :
    ∃ below above, chain = below ++ type :: above ∧ catalog.Lineage type.id (type :: above) := by
  induction hchain with
  | root hfound hbase =>
      obtain rfl := List.mem_singleton.mp hmem
      rw [id_of_type? hfound]
      exact ⟨[], [], rfl, .root hfound hbase⟩
  | link hfound hbase habove ih =>
      rcases List.mem_cons.mp hmem with rfl | hrest
      · rw [id_of_type? hfound]
        exact ⟨[], _, rfl, .link hfound hbase habove⟩
      · obtain ⟨below, above, rfl, hlineage⟩ := ih hrest
        exact ⟨_ :: below, above, rfl, hlineage⟩

theorem type?_of_mem (hchain : catalog.Lineage id chain) (hmem : type ∈ chain) :
    catalog.type? type.id = some type := by
  obtain ⟨_, above, _, hlineage⟩ := hchain.split hmem
  cases hlineage with
  | root hfound _ => exact hfound
  | link hfound _ _ => exact hfound

theorem nodup (hchain : catalog.Lineage id chain) : (chain.map (·.id)).Nodup := by
  induction hchain with
  | root => simp
  | @link id base type above hfound hbase habove ih =>
      rw [List.map_cons, List.nodup_cons]
      refine ⟨?_, ih⟩
      intro hmem
      obtain ⟨again, hagain, hid⟩ := List.mem_map.mp hmem
      obtain ⟨below, rest, hsplit, hlineage⟩ := habove.split hagain
      rw [hid, id_of_type? hfound] at hlineage
      have hsame := hlineage.unique (.link hfound hbase habove)
      rw [List.cons.injEq] at hsame
      have hlength := congrArg List.length hsplit
      rw [hsame.2, List.length_append, List.length_cons] at hlength
      omega

/-- Types can be exchanged under a chain as long as their base links stay. -/
theorem map {after : Catalog} {f : WorkItemType → WorkItemType}
    (hchain : catalog.Lineage id chain)
    (hfound : ∀ type ∈ chain, after.type? type.id = some (f type))
    (hbase : ∀ type ∈ chain, (f type).base? = type.base?) :
    after.Lineage id (chain.map f) := by
  induction hchain with
  | root htype hnone =>
      have hid := id_of_type? htype
      refine .root ?_ ((hbase _ (by simp)).trans hnone)
      rw [← hid]
      exact hfound _ (by simp)
  | link htype hsome _ ih =>
      have hid := id_of_type? htype
      refine .link ?_ ((hbase _ (by simp)).trans hsome) (ih ?_ ?_)
      · rw [← hid]
        exact hfound _ (by simp)
      · exact fun type hmem => hfound type (by simp [hmem])
      · exact fun type hmem => hbase type (by simp [hmem])

end Lineage

private theorem not_comesBack {below above : List WorkItemType}
    (hfound : catalog.type? id = some type)
    (hnodup : ((below ++ type :: above).map (·.id)).Nodup) : comesBack below id = false := by
  rw [Bool.eq_false_iff]
  intro hback
  have hmem : type.id ∈ below.map (·.id) := by
    simpa [comesBack, id_of_type? hfound] using hback
  rw [List.map_append, List.nodup_append] at hnodup
  exact hnodup.2.2 _ hmem _ (by simp) rfl

private theorem lineage_of_chainAbove {max budget : Nat} {below : List WorkItemType}
    {current : TypeId} {found : List WorkItemType}
    (hwalk : catalog.chainAbove max id below current budget = .ok found) :
    ∃ above, found = below ++ above ∧ catalog.Lineage current above ∧
      above.length ≤ budget := by
  induction budget generalizing below current with
  | zero =>
      unfold chainAbove at hwalk
      split at hwalk <;> cases hwalk
  | succ budget ih =>
      unfold chainAbove at hwalk
      split at hwalk
      · cases hwalk
      · obtain ⟨type, hload, hrest⟩ := Outcome.bind_eq_ok.mp hwalk
        have hfound := load_eq_ok.mp hload
        split at hrest
        · rename_i hbase
          cases hrest
          exact ⟨[type], rfl, .root hfound hbase, by simp⟩
        · rename_i base hbase
          obtain ⟨above, rfl, hlineage, hlength⟩ := ih hrest
          exact ⟨type :: above, by simp, .link hfound hbase hlineage, by simp; omega⟩

private theorem chainAbove_of_lineage {max budget : Nat} {below above : List WorkItemType}
    {current : TypeId} (hlineage : catalog.Lineage current above) (hlength : above.length ≤ budget)
    (hnodup : ((below ++ above).map (·.id)).Nodup) :
    catalog.chainAbove max id below current budget = .ok (below ++ above) := by
  induction hlineage generalizing below budget with
  | @root current type hfound hbase =>
      obtain ⟨budget, rfl⟩ : ∃ n, budget = n + 1 := ⟨budget - 1, by simp at hlength; omega⟩
      have hfresh := not_comesBack hfound hnodup
      simp only [chainAbove, hfresh, Bool.false_eq_true, if_false, Outcome.bind_eq_ok]
      refine ⟨type, load_eq_ok.mpr hfound, ?_⟩
      rw [hbase]
      rfl
  | @link current base type above hfound hbase _ ih =>
      obtain ⟨budget, rfl⟩ : ∃ n, budget = n + 1 := ⟨budget - 1, by simp at hlength; omega⟩
      have hfresh := not_comesBack hfound hnodup
      simp only [chainAbove, hfresh, Bool.false_eq_true, if_false, Outcome.bind_eq_ok]
      refine ⟨type, load_eq_ok.mpr hfound, ?_⟩
      rw [hbase]
      have hrest : catalog.chainAbove max id (below ++ [type]) base budget =
          .ok ((below ++ [type]) ++ above) :=
        ih (by simpa using hlength) (by simpa using hnodup)
      simpa using hrest

/-- The walk along the base links returns the lineage of a type if that has at
most `max` ancestors, and it returns nothing else. -/
theorem chain_eq_ok {max : Nat} {found : List WorkItemType} :
    catalog.chain max id = .ok found ↔ catalog.Lineage id found ∧ found.length ≤ max + 1 := by
  constructor
  · intro hwalk
    obtain ⟨above, rfl, hlineage, hlength⟩ := lineage_of_chainAbove hwalk
    exact ⟨hlineage, hlength⟩
  · rintro ⟨hlineage, hlength⟩
    exact chainAbove_of_lineage hlineage hlength hlineage.nodup

/-- A chain stays as long as all of its types do. -/
theorem chain_mono {after : Catalog} {max : Nat} {found : List WorkItemType}
    (hchain : catalog.chain max id = .ok found)
    (hkept : ∀ type ∈ found, catalog.type? type.id = some type →
      after.type? type.id = some type) : after.chain max id = .ok found := by
  obtain ⟨hlineage, hlength⟩ := chain_eq_ok.mp hchain
  have hsame : after.Lineage id (found.map fun type => type) := by
    refine hlineage.map ?_ (fun _ _ => rfl)
    intro type hmem
    exact hkept type hmem (hlineage.type?_of_mem hmem)
  rw [List.map_id'] at hsame
  exact chain_eq_ok.mpr ⟨hsame, hlength⟩

section Map

variable {after : Catalog} {f : WorkItemType → WorkItemType} {reaches : TypeId → Prop}

/-- The induction is on the budget, so it follows the walk where it fails too: the two walks
pass types of the same ids. -/
private theorem chainAbove_map (hid : ∀ type, (f type).id = type.id)
    (hfound : ∀ id, reaches id → after.type? id = (catalog.type? id).map f)
    (hbase : ∀ id type, catalog.type? id = some type → (f type).base? = type.base?)
    (hclosed : ∀ id type base, reaches id → catalog.type? id = some type →
      type.base? = some base → reaches base)
    {max budget : Nat} (below : List WorkItemType) {current : TypeId}
    (hreaches : reaches current) :
    after.chainAbove max id (below.map f) current budget =
      (catalog.chainAbove max id below current budget).map (List.map f) := by
  have hback : ∀ (below : List WorkItemType) (current : TypeId),
      comesBack (below.map f) current = comesBack below current := by
    intro below current
    simp [comesBack, List.any_map, Function.comp_def, hid]
  have hcycle : ∀ (below : List WorkItemType) (current : TypeId),
      cycleError (below.map f) current = cycleError below current := by
    intro below current
    simp [cycleError, List.map_map, Function.comp_def, hid]
  induction budget generalizing below current with
  | zero =>
      simp only [chainAbove, hback, hcycle]
      split <;> rfl
  | succ budget ih =>
      simp only [chainAbove, hback, hcycle]
      split
      · rfl
      · cases htype : catalog.type? current with
        | none =>
            have habsent : after.type? current = none := by rw [hfound current hreaches, htype]; rfl
            rw [load, load, htype, habsent]
            rfl
        | some type =>
            have hmapped : after.type? current = some (f type) := by
              rw [hfound current hreaches, htype]
              rfl
            rw [load_eq_ok.mpr htype, load_eq_ok.mpr hmapped, Outcome.ok_bind, Outcome.ok_bind,
              hbase current type htype]
            cases hnext : type.base? with
            | none => simp [Except.map, pure, Except.pure]
            | some base =>
                have hstep := ih (below ++ [type]) (hclosed current type base hreaches htype hnext)
                simpa using hstep

/-- Types can be exchanged under a walk as long as they keep their ids and their base links:
the walk then returns the chain of the exchanged types, or fails as before. This asks
something only of the ids that base links lead to. -/
theorem chain_map (hid : ∀ type, (f type).id = type.id)
    (hfound : ∀ id, reaches id → after.type? id = (catalog.type? id).map f)
    (hbase : ∀ id type, catalog.type? id = some type → (f type).base? = type.base?)
    (hclosed : ∀ id type base, reaches id → catalog.type? id = some type →
      type.base? = some base → reaches base) (max : Nat) (hreaches : reaches id) :
    after.chain max id = (catalog.chain max id).map (List.map f) :=
  chainAbove_map hid hfound hbase hclosed [] hreaches

end Map

end Catalog

end WorkSchema
