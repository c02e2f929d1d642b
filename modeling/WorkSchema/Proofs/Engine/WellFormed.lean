import WorkSchema.Proofs.Engine.Evolution
import WorkSchema.Proofs.Store.WellFormed

/-!
An engine keeps its store well formed. A new type has passed the checks, and the
room that is asked of the chain of its base is the room that resolving the new type
takes. A type that is extended passes the same checks again. Every other type can be
resolved as before, because schemas only evolve.
-/

namespace WorkSchema

theorem Engine.checkName_eq_ok {name : String} :
    checkName name = .ok () ↔ Text.isBlank name = false := by
  cases hblank : Text.isBlank name <;>
    simp [checkName, hblank, pure, Except.pure, throw, throwThe, MonadExceptOf.throw]

namespace WorkItemType.Checked

theorem toType {request : NewType} (hname : Engine.checkName request.name = .ok ())
    (hfields : Engine.checkDefinitions request.fields = .ok ()) (id : TypeId) :
    (request.toType id).Checked where
  named := Engine.checkName_eq_ok.mp hname
  fieldsNamed name definition hdefinition :=
    (Engine.checkDefinitions_eq_ok.mp hfields name definition hdefinition).1
  valid := Engine.valid_of_checkDefinitions hfields

theorem extend {type : WorkItemType} (hchecked : type.Checked) {fields : Schema}
    (hfields : Engine.checkDefinitions fields = .ok ()) :
    ({type with fields := type.fields.extend fields} : WorkItemType).Checked where
  named := hchecked.named
  fieldsNamed name definition hdefinition := by
    rw [Schema.get?_extend] at hdefinition
    rcases Option.or_eq_some_iff.mp hdefinition with hnew | ⟨_, hold⟩
    · exact (Engine.checkDefinitions_eq_ok.mp hfields name definition hnew).1
    · exact hchecked.fieldsNamed name definition hold
  valid := hchecked.valid.extend (Engine.valid_of_checkDefinitions hfields)

end WorkItemType.Checked

namespace Catalog

variable {rules : Rules} {before after : Catalog} {id : TypeId}

/-- What a request inherits is the chain of its base flattened, if the base leaves room: the
chain has at most as many types as a chain may have links. -/
theorem inherited_eq_ok {request : NewType} {inherited : Schema} :
    before.inherited rules request = .ok inherited ↔
      (request.base? = none ∧ inherited = {}) ∨
        ∃ base ancestors, request.base? = some base ∧ before.Lineage base ancestors ∧
          ancestors.length ≤ rules.maxDepth ∧ Schema.ofChain ancestors = inherited := by
  cases hbase : request.base? with
  | none => simp [Catalog.inherited, hbase, pure, Except.pure, eq_comm]
  | some base =>
      simp only [Catalog.inherited, hbase, Outcome.bind_eq_ok]
      constructor
      · rintro ⟨ancestors, hchain, hrest⟩
        have hroom : ancestors.length ≤ rules.maxDepth := by
          by_contra hlong
          rw [if_pos (Nat.lt_of_not_le hlong)] at hrest
          cases hrest
        rw [if_neg (Nat.not_lt_of_le hroom)] at hrest
        obtain ⟨chain, hsame, hschema⟩ := flatten_eq_ok.mp hrest
        rw [hchain] at hsame
        cases hsame
        exact Or.inr ⟨base, ancestors, rfl, (chain_eq_ok.mp hchain).1, hroom, hschema⟩
      · rintro (⟨hnone, _⟩ | ⟨other, ancestors, hsome, hlineage, hroom, hschema⟩)
        · cases hnone
        · cases hsome
          have hchain := chain_eq_ok.mpr ⟨hlineage, Nat.le_succ_of_le hroom⟩
          refine ⟨ancestors, hchain, ?_⟩
          rw [if_neg (Nat.not_lt_of_le hroom)]
          exact flatten_eq_ok.mpr ⟨ancestors, hchain, hschema⟩

/-- A new type resolves to what it inherits with its own fields put over it. The room that
was asked of its base is the room that its own chain takes. -/
theorem flatten_created {request : NewType} {inherited : Schema}
    (hinherited : before.inherited rules request = .ok inherited) (hunused : before.Unused id)
    (htypes : after.types = (before.save (request.toType id)).types) :
    after.flatten rules.maxDepth id = .ok (inherited.extend request.fields) := by
  have hfound : ∀ other, after.type? other =
      if other = id then some (request.toType id) else before.type? other := by
    intro other
    rw [type?_congr htypes, type?_save]
    rfl
  have hresolved : ∀ {ancestors : List WorkItemType},
      after.Lineage id (request.toType id :: ancestors) → ancestors.length ≤ rules.maxDepth →
        after.flatten rules.maxDepth id = .ok ((Schema.ofChain ancestors).extend request.fields) :=
    fun hlineage hroom => flatten_eq_ok.mpr
      ⟨_, chain_eq_ok.mpr ⟨hlineage, Nat.succ_le_succ hroom⟩, Schema.ofChain_cons _ _⟩
  rcases inherited_eq_ok.mp hinherited with
    ⟨hbase, rfl⟩ | ⟨base, ancestors, hbase, hlineage, hroom, rfl⟩
  · exact hresolved (.root (by rw [hfound, if_pos rfl]) hbase) (Nat.zero_le _)
  · have hkept : after.Lineage base (ancestors.map fun type => type) := by
      refine hlineage.map ?_ (fun _ _ => rfl)
      intro type hmem
      have hold := hlineage.type?_of_mem hmem
      have hne : type.id ≠ id := (hunused type (mem_of_type? hold)).1
      rw [hfound, if_neg hne]
      exact hold
    rw [List.map_id'] at hkept
    exact hresolved (.link (by rw [hfound, if_pos rfl]) hbase hkept) hroom

namespace Sound

theorem congr {max : Nat} (hsound : before.Sound max) (htypes : after.types = before.types) :
    after.Sound max where
  checked type hmem := hsound.checked type (htypes ▸ hmem)
  resolves type hmem := by
    obtain ⟨schema, hschema⟩ := hsound.resolves type (htypes ▸ hmem)
    obtain ⟨chain, hchain, rfl⟩ := flatten_eq_ok.mp hschema
    refine ⟨_, flatten_eq_ok.mpr ⟨chain, chain_mono hchain ?_, rfl⟩⟩
    intro other _ hfound
    rw [type?_congr htypes]
    exact hfound

/-- A type that is saved must be one that passed the checks and can then be resolved;
for the others it is enough that schemas evolve. -/
private theorem save (hsound : before.Sound rules.maxDepth) {type : WorkItemType}
    (htypes : after.types = (before.save type).types) (hevolves : before.Evolves rules after)
    (hchecked : type.Checked)
    (hresolves : ∃ schema, after.flatten rules.maxDepth type.id = .ok schema) :
    after.Sound rules.maxDepth := by
  have hmem : ∀ other ∈ after.types.elements, other = type ∨ other ∈ before.types.elements := by
    rw [htypes]
    exact fun other => RankedList.mem_insert
  constructor
  · intro other hother
    rcases hmem other hother with rfl | hold
    · exact hchecked
    · exact hsound.checked other hold
  · intro other hother
    rcases hmem other hother with rfl | hold
    · exact hresolves
    · obtain ⟨schema, hschema⟩ := hsound.resolves other hold
      obtain ⟨later, hlater, _⟩ := hevolves other.id schema hschema
      exact ⟨later, hlater⟩

/-- Every step keeps a catalog sound. -/
theorem step (hsound : before.Sound rules.maxDepth) {operation : Operation}
    (hstep : before.Step rules operation after) (hfresh : operation.Fresh before) :
    after.Sound rules.maxDepth := by
  have hevolves := evolves_of_change (hstep.change hfresh)
  cases hstep with
  | unchanged => exact hsound
  | categorized => exact hsound.congr rfl
  | linked hsame => exact hsound.congr hsame.1
  | @created request id _ _ haccept hsame =>
      obtain ⟨hname, hfields, hinherited, _⟩ := accept_eq_ok.mp haccept
      exact hsound.save hsame.1 hevolves (.toType hname hfields id)
        ⟨_, flatten_created hinherited (hfresh id rfl) hsame.1⟩
  | @extended id fields _ hrevise =>
      obtain ⟨hfields, current, hcurrent, _, type, htype, rfl⟩ := revise_eq_ok.mp hrevise
      obtain rfl := id_of_type? htype
      obtain ⟨later, hlater, _⟩ := hevolves type.id current hcurrent
      have hchecked := hsound.checked type (mem_of_type? htype)
      exact hsound.save rfl hevolves (hchecked.extend hfields) ⟨later, hlater⟩

end Sound

end Catalog

namespace Engine

variable {σ : Type} [TypeStore σ] [LawfulStore σ] {engine : Engine σ}

theorem sound_after (hagrees : engine.CacheAgrees)
    (hsound : engine.catalog.Sound engine.rules.maxDepth) {operations : List Operation}
    (hfresh : engine.FreshIds operations) :
    (engine.after operations).catalog.Sound engine.rules.maxDepth := by
  induction operations generalizing engine with
  | nil => exact hsound
  | cons operation rest ih =>
      obtain ⟨hfirst, hrest⟩ := hfresh
      obtain ⟨hcache, hrules, _⟩ := next_evolves hagrees hfirst
      rw [← hrules] at hsound ⊢
      apply ih hcache _ hrest
      rw [hrules] at hsound ⊢
      exact hsound.step (step_next hagrees hfirst) hfirst

/-- From a store without types an engine reaches well formed stores only, whatever is
done with it and whether or not that succeeds: every chain of base links ends, and has at
most as many links as the settings allow. So each type that it lists can be resolved. -/
theorem wellFormed_after (start : Engine σ) (operations : List Operation)
    (hempty : start.catalog.types.elements = []) (hcache : start.cache.entries = [])
    (hfresh : start.FreshIds operations) :
    (start.after operations).catalog.WellFormed start.settings.maxInheritanceDepth ∧
      ∃ types, (start.after operations).answer .list = .ok (.types types) ∧
        ∀ type ∈ types, ∃ schema,
          (start.after operations).answer (.resolveSchema type.id) = .ok (.schema schema) ∧
          (start.after operations).answer (.resolve type.id) =
            .ok (.resolved {type, schema}) := by
  have hstart : start.CacheAgrees := SchemaCache.agrees_of_entries_eq_nil hcache
  have hnone : start.catalog.Sound start.rules.maxDepth := by
    constructor <;> simp [hempty]
  have hsound := sound_after hstart hnone hfresh
  obtain ⟨hagrees, hrules, _⟩ := after_evolves hstart hfresh
  refine ⟨hsound.wellFormed, _, rfl, ?_⟩
  intro type hmem
  obtain ⟨schema, hschema⟩ := hsound.resolves type hmem
  rw [← hrules] at hschema
  refine ⟨schema, answer_resolveSchema hagrees hschema, ?_⟩
  rw [answer_of_reply hagrees rfl, Catalog.resolve, hschema,
    Catalog.load_eq_ok.mpr (Catalog.type?_of_mem hmem)]
  rfl

/-- Types one below the other, the last of which is refused where a chain may have one
link only, and then a field for all of them. -/
def deepeningRun : List Operation :=
  [ .create {name := "Task"} (.ofNat 1),
    .create {name := "Bug", base? := some (.ofNat 1)} (.ofNat 2),
    .create {name := "Crash", base? := some (.ofNat 2)} (.ofNat 3),
    .addFields (.ofNat 1) (.ofList [("title", {type := .simple .string})]) ]

theorem wellFormed_after_refusal :
    let start : Engine MemoryStore := {store := {}, settings := {maxInheritanceDepth := 1}}
    start.FreshIds deepeningRun ∧
      (start.after deepeningRun).catalog.types.elements.map (·.id) = [.ofNat 1, .ofNat 2] ∧
      (start.after deepeningRun).catalog.WellFormed 1 ∧
      ∃ types, (start.after deepeningRun).answer .list = .ok (.types types) ∧
        ∀ type ∈ types, ∃ schema,
          (start.after deepeningRun).answer (.resolveSchema type.id) = .ok (.schema schema) ∧
          (start.after deepeningRun).answer (.resolve type.id) =
            .ok (.resolved {type, schema}) := by
  intro start
  have hfresh : start.FreshIds deepeningRun := by decide
  have hids : (start.after deepeningRun).catalog.types.elements.map (·.id) =
      [.ofNat 1, .ofNat 2] := by decide
  exact ⟨hfresh, hids, wellFormed_after start deepeningRun rfl rfl hfresh⟩

end Engine

end WorkSchema
