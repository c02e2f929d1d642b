import WorkSchema.Proofs.Engine.Validation
import WorkSchema.Proofs.WorkItem.Updating
import WorkSchema.Store.Memory

/-!
What updates leave alone. An update writes what it names and clears what it clears, and
each field that it does not name stays as it was under an exact condition. A cleared field
does not meet it if its type has a default that is filled in: the values that an update
returns do not say which fields were cleared, so the next update fills them again.
-/

namespace WorkSchema

namespace Engine

variable {σ : Type} [TypeStore σ]

/-- Updates in turn, each of the values that the one before returned. Each is made in some
state of an engine, all of which resolve the type to one schema and treat defaults alike. -/
inductive Updates (σ : Type) [TypeStore σ] (id : TypeId) (schema : Schema)
    (fillDefaults : Bool) : FieldValues → List Payload → FieldValues → Prop where
  | done (values : FieldValues) : Updates σ id schema fillDefaults values [] values
  | update {engine : Engine σ} {current next last : FieldValues} {changes : Payload}
      {rest : List Payload} :
      engine.answer (.resolveSchema id) = .ok (.schema schema) →
      engine.settings.fillDefaults = fillDefaults →
      engine.answer (.validateUpdate id current changes) = .ok (.values next) →
      Updates σ id schema fillDefaults next rest last →
        Updates σ id schema fillDefaults current (changes :: rest) last

private theorem validate_of_update {engine : Engine σ} {id : TypeId} {schema : Schema}
    {current next : FieldValues} {changes : Payload}
    (hschema : engine.answer (.resolveSchema id) = .ok (.schema schema))
    (hnext : engine.answer (.validateUpdate id current changes) = .ok (.values next)) :
    schema.validate engine.settings.fillDefaults (.update current changes) = .ok next := by
  obtain ⟨found, hfound, hvalid⟩ := schema_of_validated rfl hnext
  rw [hschema] at hfound
  cases hfound
  exact hvalid

namespace Updates

variable {id : TypeId} {schema : Schema} {fillDefaults : Bool} {current last : FieldValues}
  {updates : List Payload} {name : String} {definition : FieldDefinition}

/-- What is there is not lost to updates that do not name it. -/
private theorem present (hupdates : Updates σ id schema fillDefaults current updates last)
    (hdefinition : schema.get? name = some definition)
    (hunnamed : ∀ changes ∈ updates, changes.get? name = none)
    (hpresent : current.get? name ≠ none) : last.get? name ≠ none := by
  induction hupdates with
  | done => exact hpresent
  | @update engine current next last changes rest hschema _ hnext _ ih =>
      rw [List.forall_mem_cons] at hunnamed
      apply ih hunnamed.2
      obtain ⟨value, hvalue⟩ := Option.ne_none_iff_exists'.mp hpresent
      obtain ⟨stored, _, hstored⟩ := Schema.convert_of_unnamed
        (validate_of_update hschema hnext) hdefinition hunnamed.1 hvalue
      rw [hstored]
      exact Option.some_ne_none stored

private theorem absent (hupdates : Updates σ id schema fillDefaults current updates last)
    (hdefinition : schema.get? name = some definition)
    (hunnamed : ∀ changes ∈ updates, changes.get? name = none)
    (habsent : current.get? name = none)
    (hunfilled : fillDefaults = true → definition.type.default? = none) :
    last.get? name = none := by
  induction hupdates with
  | done => exact habsent
  | update hschema hfill hnext _ ih =>
      rw [List.forall_mem_cons] at hunnamed
      apply ih hunnamed.2
      rw [← hfill] at hunfilled
      exact (Schema.absent_iff_of_unnamed (validate_of_update hschema hnext) hdefinition
        hunnamed.1 habsent).mpr hunfilled

/-- A field without a value stays without one through updates that do not name it exactly
if nothing is filled in for it. The first of them decides. -/
theorem absent_iff {first : Payload} {rest : List Payload}
    (hupdates : Updates σ id schema fillDefaults current (first :: rest) last)
    (hdefinition : schema.get? name = some definition)
    (hunnamed : ∀ changes ∈ first :: rest, changes.get? name = none)
    (habsent : current.get? name = none) :
    last.get? name = none ↔ (fillDefaults = true → definition.type.default? = none) := by
  constructor
  · intro hlast
    cases hupdates with
    | @update engine _ next _ _ _ hschema hfill hnext hrest =>
        rw [List.forall_mem_cons] at hunnamed
        rw [← hfill]
        refine (Schema.absent_iff_of_unnamed (validate_of_update hschema hnext) hdefinition
          hunnamed.1 habsent).mp ?_
        by_contra hpresent
        exact hrest.present hdefinition hunnamed.2 hpresent hlast
  · exact hupdates.absent hdefinition hunnamed habsent

end Updates

/-- An update of values that validation returned, while the schema of the type has not
changed since, does to the fields that it names what it says. One that it does not name
stays as it was exactly if its value was submitted, or is a default declared in stored
form, or is missing where no default is filled in. So a field that was cleared stays
cleared through later updates exactly if no default is filled in for it. -/
theorem validateUpdate_frame_iff (before engine : Engine σ) (operation : Operation)
    (id : TypeId) (payload changes : Payload) (current next : FieldValues)
    (hvalidates : operation.validated? = some (id, payload))
    (hcurrent : before.answer operation = .ok (.values current))
    (hsame : engine.answer (.resolveSchema id) = before.answer (.resolveSchema id))
    (hnext : engine.answer (.validateUpdate id current changes) = .ok (.values next)) :
    ∃ schema, engine.answer (.resolveSchema id) = .ok (.schema schema) ∧
      schema.FramesUpdate engine.settings.fillDefaults payload current changes next ∧
      ∀ name definition, schema.get? name = some definition → next.get? name = none →
        ∀ first rest last,
          Updates σ id schema engine.settings.fillDefaults next (first :: rest) last →
          (∀ later ∈ first :: rest, later.get? name = none) →
          (last.get? name = none ↔
            (engine.settings.fillDefaults = true → definition.type.default? = none)) := by
  obtain ⟨schema, hbefore, hvalid⟩ := schema_of_validated hvalidates hcurrent
  have hschema : engine.answer (.resolveSchema id) = .ok (.schema schema) := hsame.trans hbefore
  refine ⟨schema, hschema, ?_, ?_⟩
  · exact Schema.framesUpdate_of_validate hvalid (validate_of_update hschema hnext)
  · intro name definition hdefinition habsent first rest last hupdates hunnamed
    exact hupdates.absent_iff hdefinition hunnamed habsent

/-- A title that every item has, and a state that is `new` unless something else is said. -/
def trackedFields : Schema :=
  .ofList [
    ("title", {type := .simple .string, required := true}),
    ("state", {type := .enum {base := .string, values := [.string "new", .string "done"]}})]

def trackedType : List Operation := [.create {name := "Bug", fields := trackedFields} (.ofNat 1)]

theorem validateUpdate_frame_iff_clearing :
    let engine : Engine MemoryStore := Engine.after {store := {}} trackedType
    let payload : Payload := .ofList [("title", some (.string "a"))]
    let changes : Payload := .ofList [("state", none)]
    let current : FieldValues := .ofList [("title", .string "a"), ("state", .string "new")]
    let next : FieldValues := .ofList [("title", .string "a")]
    engine.answer (.validateFields (.ofNat 1) payload) = .ok (.values current) ∧
      engine.answer (.validateUpdate (.ofNat 1) current changes) = .ok (.values next) ∧
      ∃ schema, engine.answer (.resolveSchema (.ofNat 1)) = .ok (.schema schema) ∧
        schema.FramesUpdate engine.settings.fillDefaults payload current changes next ∧
        ∀ name definition, schema.get? name = some definition → next.get? name = none →
          ∀ first rest last,
            Updates MemoryStore (.ofNat 1) schema engine.settings.fillDefaults next
              (first :: rest) last →
            (∀ later ∈ first :: rest, later.get? name = none) →
            (last.get? name = none ↔
              (engine.settings.fillDefaults = true → definition.type.default? = none)) := by
  intro engine payload changes current next
  have hcurrent : engine.answer (.validateFields (.ofNat 1) payload) = .ok (.values current) := rfl
  have hnext : engine.answer (.validateUpdate (.ofNat 1) current changes) =
      .ok (.values next) := rfl
  exact ⟨hcurrent, hnext, validateUpdate_frame_iff engine engine
    (.validateFields (.ofNat 1) payload) (.ofNat 1) payload changes current next rfl hcurrent rfl
    hnext⟩

/-- The state is cleared by one update and is back after the next one, which names
nothing. -/
theorem cleared_field_refilled :
    let engine : Engine MemoryStore := Engine.after {store := {}} trackedType
    let current : FieldValues := .ofList [("title", .string "a"), ("state", .string "new")]
    let cleared : FieldValues := .ofList [("title", .string "a")]
    engine.answer (.validateUpdate (.ofNat 1) current (.ofList [("state", none)])) =
        .ok (.values cleared) ∧
      cleared.get? "state" = none ∧
      engine.answer (.validateUpdate (.ofNat 1) cleared {}) = .ok (.values current) ∧
      current.get? "state" = some (.string "new") :=
  ⟨rfl, rfl, rfl, rfl⟩

end Engine

end WorkSchema
