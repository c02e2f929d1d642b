import WorkSchema.Proofs.Engine.Effects
import WorkSchema.Proofs.WorkItem.Covering

/-!
How schemas evolve along a run. An operation leaves the types of the store, adds
a type under an unused id, or extends one by definitions that enclose those in
force for it. In each case every type that could be resolved still can be, and
its schema covers what it was, because a change to a type reaches the types
below it only through names that none of them redefines.
-/

namespace WorkSchema

namespace Engine

variable {current fields : Schema} {entry : String × FieldDefinition}

/-- The check of one definition against the one in force under its name. -/
def checkReplaces (current : Schema) (entry : String × FieldDefinition) :
    Except SchemaError Unit :=
  match current.get? entry.1 with
  | some old =>
      if entry.2.encloses old then pure ()
      else throw (.conflict entry.1 (conflictMessage entry.2 old))
  | none => pure ()

theorem checkCompatible_eq (current fields : Schema) :
    checkCompatible current fields = fields.entries.forM (checkReplaces current) := rfl

theorem checkReplaces_eq_ok :
    checkReplaces current entry = .ok () ↔
      ∀ old, current.get? entry.1 = some old → entry.2.encloses old = true := by
  unfold checkReplaces
  cases current.get? entry.1 with
  | none => simp [pure, Except.pure]
  | some old =>
      cases entry.2.encloses old <;>
        simp [pure, Except.pure, throw, throwThe, MonadExceptOf.throw]

theorem checkReplaces_eq_error {error : SchemaError} :
    checkReplaces current entry = .error error ↔
      ∃ old, current.get? entry.1 = some old ∧ entry.2.encloses old = false ∧
        error = .conflict entry.1 (conflictMessage entry.2 old) := by
  unfold checkReplaces
  cases current.get? entry.1 with
  | none => simp [pure, Except.pure]
  | some old =>
      simp only [Option.some.injEq, exists_eq_left']
      cases entry.2.encloses old with
      | true => simp [pure, Except.pure]
      | false => simp [throw, throwThe, MonadExceptOf.throw, eq_comm (a := error)]

theorem checkCompatible_eq_ok :
    checkCompatible current fields = .ok () ↔
      ∀ name later definition, fields.get? name = some later →
        current.get? name = some definition → later.encloses definition = true := by
  rw [checkCompatible_eq, Outcome.forM_eq_ok]
  simp only [checkReplaces_eq_ok, Prod.forall, OrderedMap.mem_entries_iff]
  constructor
  · exact fun hall name later definition hlater => hall name later hlater definition
  · exact fun hall name later hlater definition => hall name later definition hlater

end Engine

namespace Catalog

variable {rules : Rules} {before after : Catalog} {id : TypeId} {chain : List WorkItemType}

theorem type?_congr (htypes : after.types = before.types) (id : TypeId) :
    after.type? id = before.type? id := by
  rw [type?, htypes, type?]

/-- How an operation may change the types of a catalog. -/
inductive Change (rules : Rules) (before after : Catalog) : Prop where
  | kept : after.types = before.types → Change rules before after
  | created (type : WorkItemType) : before.Unused type.id →
      after.types = (before.save type).types → Change rules before after
  | revised (id : TypeId) (fields : Schema) (type : WorkItemType) :
      before.revise rules id fields = .ok type →
        after.types = (before.save type).types → Change rules before after

/-- Whether each type that resolves before resolves after too, to a schema that
covers what it was. -/
def Evolves (rules : Rules) (before after : Catalog) : Prop :=
  ∀ id schema, before.flatten rules.maxDepth id = .ok schema →
    ∃ later, after.flatten rules.maxDepth id = .ok later ∧ later.Covers schema

theorem Evolves.refl (rules : Rules) (catalog : Catalog) : catalog.Evolves rules catalog :=
  fun _ schema hschema => ⟨schema, hschema, .refl schema⟩

theorem Evolves.trans {a b c : Catalog} (hab : a.Evolves rules b) (hbc : b.Evolves rules c) :
    a.Evolves rules c := by
  intro id schema hschema
  obtain ⟨middle, hmiddle, hfirst⟩ := hab id schema hschema
  obtain ⟨later, hlater, hsecond⟩ := hbc id middle hmiddle
  exact ⟨later, hlater, hsecond.trans hfirst⟩

/-- What a type becomes when one type is saved. -/
def replacedBy (revised type : WorkItemType) : WorkItemType :=
  if type.id = revised.id then revised else type

theorem id_replacedBy (revised type : WorkItemType) : (replacedBy revised type).id = type.id := by
  unfold replacedBy
  split
  · rename_i hid
    exact hid.symm
  · rfl

/-- A revision reaches every chain that goes through the revised type, and changes nothing
else about chains, not even why there is none. -/
theorem chain_revised {fields : Schema} {revised : WorkItemType}
    (hrevise : before.revise rules id fields = .ok revised)
    (htypes : after.types = (before.save revised).types) (max : Nat) (other : TypeId) :
    after.chain max other = (before.chain max other).map (List.map (replacedBy revised)) := by
  obtain rfl := id_of_revise hrevise
  obtain ⟨_, _, _, _, type, htype, hrevised⟩ := revise_eq_ok.mp hrevise
  have hfound : ∀ other, True →
      after.type? other = (before.type? other).map (replacedBy revised) := by
    intro other _
    rw [type?_congr htypes, type?_save]
    split
    · rename_i hsame
      rw [hsame, htype, Option.map_some, replacedBy, if_pos (id_of_type? htype)]
    · rename_i hother
      cases hold : before.type? other with
      | none => rfl
      | some old =>
          have hne : old.id ≠ revised.id := id_of_type? hold ▸ hother
          rw [Option.map_some, replacedBy, if_neg hne]
  have hbase : ∀ other old, before.type? other = some old →
      (replacedBy revised old).base? = old.base? := by
    intro other old hold
    unfold replacedBy
    split
    · rename_i hsame
      rw [← id_of_type? hold, hsame, htype] at hold
      cases hold
      rw [hrevised]
    · rfl
  exact chain_map (id_replacedBy revised) hfound hbase (fun _ _ _ _ _ _ => trivial) max trivial

/-- A definition that is added to a type must enclose the one in force for that
type. The induction goes up the chain and meets the changed type once at most,
where the types above it are the ones that the check flattened. -/
private theorem covers_replaced {fields : Schema} {revised : WorkItemType}
    (hrevise : before.revise rules revised.id fields = .ok revised)
    (hlineage : before.Lineage id chain) :
    (Schema.ofChain (chain.map (replacedBy revised))).Covers (Schema.ofChain chain) := by
  obtain ⟨_, current, hcurrent, hcompatible, type, htype, hfields⟩ := revise_eq_ok.mp hrevise
  obtain ⟨checked, hchecked, rfl⟩ := flatten_eq_ok.mp hcurrent
  rw [Engine.checkCompatible_eq_ok] at hcompatible
  have hstep : ∀ {lowest : WorkItemType} {above : List WorkItemType} {target : TypeId},
      before.Lineage target (lowest :: above) →
      (Schema.ofChain (above.map (replacedBy revised))).Covers (Schema.ofChain above) →
        (Schema.ofChain ((lowest :: above).map (replacedBy revised))).Covers
          (Schema.ofChain (lowest :: above)) := by
    intro lowest above target hlowest habove
    rw [List.map_cons, Schema.ofChain_cons, Schema.ofChain_cons]
    by_cases hid : lowest.id = revised.id
    · have hlowestFound := hlowest.type?_of_mem List.mem_cons_self
      rw [hid, htype] at hlowestFound
      cases hlowestFound
      obtain ⟨_, _, heq, htarget⟩ := hlowest.head
      cases heq
      have hsame : checked = type :: above := by
        rw [← htarget, hid] at hlowest
        exact (chain_eq_ok.mp hchecked).1.unique hlowest
      rw [hsame, Schema.ofChain_cons] at hcompatible
      have hreplaced : (replacedBy revised type).fields = type.fields.extend fields := by
        rw [replacedBy, if_pos hid, hfields]
      rw [hreplaced]
      exact habove.extend_enclosing hcompatible
    · rw [replacedBy, if_neg hid]
      exact habove.extend lowest.fields
  induction hlineage with
  | root hfound hbase => exact hstep (.root hfound hbase) (.refl _)
  | link hfound hbase habove ih => exact hstep (.link hfound hbase habove) ih

private theorem evolves_of_revise {fields : Schema} {revised : WorkItemType}
    (hrevise : before.revise rules id fields = .ok revised)
    (htypes : after.types = (before.save revised).types) : before.Evolves rules after := by
  obtain rfl := id_of_revise hrevise
  intro target schema hschema
  obtain ⟨chain, hchain, rfl⟩ := flatten_eq_ok.mp hschema
  have hafter : after.chain rules.maxDepth target = .ok (chain.map (replacedBy revised)) := by
    rw [chain_revised hrevise htypes, hchain]
    rfl
  exact ⟨_, flatten_eq_ok.mpr ⟨_, hafter, rfl⟩, covers_replaced hrevise (chain_eq_ok.mp hchain).1⟩

private theorem evolves_of_kept
    (hkept : ∀ id type, before.type? id = some type → after.type? id = some type) :
    before.Evolves rules after := by
  intro id schema hschema
  obtain ⟨chain, hchain, hflat⟩ := flatten_eq_ok.mp hschema
  have hafter : after.chain rules.maxDepth id = .ok chain :=
    chain_mono hchain fun type _ hfound => hkept type.id type hfound
  exact ⟨schema, flatten_eq_ok.mpr ⟨chain, hafter, hflat⟩, .refl schema⟩

/-- Whatever an operation does to the types of a catalog, schemas cover what they
were. -/
theorem evolves_of_change (hchange : before.Change rules after) : before.Evolves rules after := by
  cases hchange with
  | kept htypes =>
      apply evolves_of_kept
      intro id type hfound
      rw [type?_congr htypes]
      exact hfound
  | created type hunused htypes =>
      apply evolves_of_kept
      intro id other hfound
      have hne : id ≠ type.id := by
        rintro rfl
        rw [type?_of_unused hunused] at hfound
        cases hfound
      rw [type?_congr htypes, type?_save, if_neg hne]
      exact hfound
  | revised id fields type hrevise htypes => exact evolves_of_revise hrevise htypes

/-- A step whose new type gets an unused id changes the types in one of the three
ways. -/
theorem Step.change {operation : Operation} (hstep : before.Step rules operation after)
    (hfresh : operation.Fresh before) : before.Change rules after := by
  cases hstep with
  | unchanged | categorized => exact .kept rfl
  | created _ hsame => exact .created _ (hfresh _ rfl) hsame.1
  | extended hrevise => exact .revised _ _ _ hrevise rfl
  | linked hsame => exact .kept hsame.1

end Catalog

namespace Engine

variable {σ : Type} [TypeStore σ] [LawfulStore σ] {engine : Engine σ}

/-- One step keeps the cache in agreement and lets the catalog evolve. -/
theorem next_evolves (hagrees : engine.CacheAgrees) {operation : Operation}
    (hfresh : operation.Fresh engine.catalog) :
    (engine.next operation).CacheAgrees ∧ (engine.next operation).rules = engine.rules ∧
      engine.catalog.Evolves engine.rules (engine.next operation).catalog := by
  obtain ⟨hcache, cache, hnext⟩ := next_eq_plain hagrees hfresh
  refine ⟨hcache, ?_, ?_⟩
  · rw [hnext]
    rfl
  · exact Catalog.evolves_of_change ((step_next hagrees hfresh).change hfresh)

/-- So does a run of any length. -/
theorem after_evolves (hagrees : engine.CacheAgrees) {operations : List Operation}
    (hfresh : engine.FreshIds operations) :
    (engine.after operations).CacheAgrees ∧ (engine.after operations).rules = engine.rules ∧
      engine.catalog.Evolves engine.rules (engine.after operations).catalog := by
  induction operations generalizing engine with
  | nil => exact ⟨hagrees, rfl, .refl engine.rules engine.catalog⟩
  | cons operation rest ih =>
      obtain ⟨hfirst, hrest⟩ := hfresh
      obtain ⟨hcache, hrules, hevolves⟩ := next_evolves hagrees hfirst
      obtain ⟨hend, hsame, hlater⟩ := ih hcache hrest
      rw [hrules] at hsame hlater
      exact ⟨hend, hsame, hevolves.trans hlater⟩

/-- Evolution never invalidates data except by a new required field. A payload
that was valid for a type at some point of a run is valid at every later point,
with the same value stored for each one submitted, unless a field is then
required which the type did not have. -/
theorem validateFields_after_evolution (start : Engine σ) (before later : List Operation)
    (id : TypeId) (payload : Payload) (values : FieldValues)
    (hempty : start.cache.entries = []) (hfresh : start.FreshIds (before ++ later))
    (hvalid : (start.after before).answer (.validateFields id payload) = .ok (.values values)) :
    (∃ values', (start.after (before ++ later)).answer (.validateFields id payload) =
        .ok (.values values') ∧
      ∀ name value, payload.get? name = some (some value) →
        ∃ stored, values.get? name = some stored ∧ values'.get? name = some stored) ∨
      ∃ earlier current name definition,
        (start.after before).answer (.resolveSchema id) = .ok (.schema earlier) ∧
        (start.after (before ++ later)).answer (.resolveSchema id) = .ok (.schema current) ∧
        (start.after (before ++ later)).answer (.validateFields id payload) =
          .error (.field (.missingField name)) ∧
        earlier.contains name = false ∧ current.get? name = some definition ∧
        definition.required = true := by
  obtain ⟨hbefore, hlater⟩ := (freshIds_append start before later).mp hfresh
  have hstart : start.CacheAgrees := SchemaCache.agrees_of_entries_eq_nil hempty
  obtain ⟨hagrees, _, _⟩ := after_evolves hstart hbefore
  obtain ⟨hagrees', hrules, hevolves⟩ := after_evolves hagrees hlater
  rw [after_append]
  obtain ⟨earlier, hearlier, hvalues⟩ := validate_of_answer hagrees hvalid
  obtain ⟨current, hcurrent, hcovers⟩ := hevolves id earlier hearlier
  rw [← hrules] at hcurrent hvalues
  have hanswer := answer_validateFields hagrees' hcurrent payload
  rcases Schema.validate_of_covers hcovers hvalues with ⟨values', hvalues', hsame⟩ | hmissing
  · left
    rw [hvalues'] at hanswer
    exact ⟨values', hanswer, hsame⟩
  · obtain ⟨name, definition, herror, hlacks, hdefinition, hrequired⟩ := hmissing
    right
    rw [herror] at hanswer
    exact ⟨earlier, current, name, definition, answer_resolveSchema hagrees hearlier,
      answer_resolveSchema hagrees' hcurrent, hanswer, hlacks, hdefinition, hrequired⟩

def severity (levels : List Int64) : Schema :=
  .ofList [("severity", {type := .enum {base := .integer, values := levels.map .integer}})]

/-- A type and one below it, with a value that is valid for both. -/
def inheritingType : List Operation :=
  [ .create {name := "Task", fields := severity [1, 2]} (.ofNat 1),
    .create {name := "Bug", base? := some (.ofNat 1)} (.ofNat 2),
    .resolveSchema (.ofNat 2) ]

/-- The upper type allows more values, and the lower one has it from there. -/
def wideningOfBase : List Operation := [.addFields (.ofNat 1) (severity [3, 2, 1])]

theorem validateFields_after_widening :
    let start : Engine MemoryStore := {store := {}}
    let payload : Payload := .ofList [("severity", some (.integer 2))]
    let values : FieldValues := .ofList [("severity", .integer 2)]
    start.FreshIds (inheritingType ++ wideningOfBase) ∧
      (start.after inheritingType).answer (.validateFields (.ofNat 2) payload) =
        .ok (.values values) ∧
      ((∃ values', (start.after (inheritingType ++ wideningOfBase)).answer
            (.validateFields (.ofNat 2) payload) = .ok (.values values') ∧
          ∀ name value, payload.get? name = some (some value) →
            ∃ stored, values.get? name = some stored ∧ values'.get? name = some stored) ∨
        ∃ earlier current name definition,
          (start.after inheritingType).answer (.resolveSchema (.ofNat 2)) =
            .ok (.schema earlier) ∧
          (start.after (inheritingType ++ wideningOfBase)).answer (.resolveSchema (.ofNat 2)) =
            .ok (.schema current) ∧
          (start.after (inheritingType ++ wideningOfBase)).answer
            (.validateFields (.ofNat 2) payload) = .error (.field (.missingField name)) ∧
          earlier.contains name = false ∧ current.get? name = some definition ∧
          definition.required = true) := by
  intro start payload values
  have hfresh : start.FreshIds (inheritingType ++ wideningOfBase) := by decide
  have hvalid : (start.after inheritingType).answer (.validateFields (.ofNat 2) payload) =
      .ok (.values values) := rfl
  exact ⟨hfresh, hvalid, validateFields_after_evolution start inheritingType wideningOfBase
    (.ofNat 2) payload values rfl hfresh hvalid⟩

end Engine

end WorkSchema
