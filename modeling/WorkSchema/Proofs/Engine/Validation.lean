import WorkSchema.Proofs.Engine.Run
import WorkSchema.Proofs.WorkItem.Specification
import WorkSchema.Store.Memory

/-!
What validation takes from the engine, in any state whatever: the schema that
resolving the type gives in that state, and the setting for defaults. Once the type
is resolved, nothing but the values can be at fault.
-/

namespace WorkSchema

/-- The type that an operation validates values of, with the payload that it
validates. -/
def Operation.validated? : Operation → Option (TypeId × Payload)
  | validateFields id payload => some (id, payload)
  | validateUpdate id current changes => some (id, .update current changes)
  | _ => none

namespace Engine

variable {σ : Type} [TypeStore σ]

private theorem ensures_chain (engine : Engine σ) (id : TypeId) :
    Outcome.Ensures (chain id) engine (fun _ after => after = engine)
      (fun after => after = engine) := by
  have hrun : (chain id).run engine =
      (liftResult (engine.catalog.chain engine.settings.maxInheritanceDepth id)).run engine := rfl
  unfold Outcome.Ensures
  rw [hrun]
  cases engine.catalog.chain engine.settings.maxInheritanceDepth id <;> rfl

/-- Resolving a type changes no settings. -/
theorem ensures_resolveSchema (engine : Engine σ) (id : TypeId) :
    Outcome.Ensures (resolveSchema id) engine (fun _ after => after.settings = engine.settings)
      (fun after => after.settings = engine.settings) := by
  have hcached : Outcome.Ensures (cached? id) engine (fun _ after => after = engine)
      (fun after => after = engine) := rfl
  apply hcached.bind
  · rintro after rfl
    rfl
  · rintro found? after rfl
    cases found? with
    | some schema => exact Outcome.ensures_pure rfl
    | none =>
        apply (ensures_chain after id).bind
        · rintro failed rfl
          rfl
        · rintro chain kept rfl
          split <;> exact rfl

/-- Validation resolves the type and validates against what that gives. -/
private theorem answer_validateFields_eq (engine : Engine σ) (id : TypeId) (payload : Payload) :
    engine.answer (.validateFields id payload) =
      (do
        let schema ← Outcome.answer ((resolveSchema id).run engine)
        (schema.validate engine.settings.fillDefaults payload).mapError SchemaError.field).map
          Response.values := by
  have hsettings := ensures_resolveSchema engine id
  unfold Outcome.Ensures at hsettings
  rw [answer, Operation.perform, Outcome.answer_map, validateFields, EStateM.run_bind]
  cases hrun : (resolveSchema id).run engine with
  | error error after => rfl
  | ok schema after =>
      rw [hrun] at hsettings
      simp only [EStateM.run_bind, EStateM.run_get, hsettings, Outcome.answer, Outcome.ok_bind]
      cases schema.validate engine.settings.fillDefaults payload <;> rfl

theorem answer_of_schema {engine : Engine σ} {id : TypeId} {schema : Schema}
    (hschema : engine.answer (.resolveSchema id) = .ok (.schema schema)) (payload : Payload) :
    engine.answer (.validateFields id payload) =
      ((schema.validate engine.settings.fillDefaults payload).mapError SchemaError.field).map
        Response.values := by
  rw [answer, Operation.perform, Outcome.answer_map] at hschema
  rw [answer_validateFields_eq]
  cases hrun : Outcome.answer ((resolveSchema id).run engine) with
  | error error =>
      rw [hrun] at hschema
      cases hschema
  | ok found =>
      rw [hrun] at hschema
      cases hschema
      rfl

/-- Values that validation answers with come from the schema of the type in the same
state. -/
theorem schema_of_validated {engine : Engine σ} {operation : Operation} {id : TypeId}
    {payload : Payload} {values : FieldValues}
    (hvalidates : operation.validated? = some (id, payload))
    (hanswer : engine.answer operation = .ok (.values values)) :
    ∃ schema, engine.answer (.resolveSchema id) = .ok (.schema schema) ∧
      schema.validate engine.settings.fillDefaults payload = .ok values := by
  have hfields : engine.answer (.validateFields id payload) = .ok (.values values) := by
    cases operation with
    | validateFields | validateUpdate =>
        cases hvalidates
        exact hanswer
    | _ => cases hvalidates
  rw [answer_validateFields_eq] at hfields
  rw [answer, Operation.perform, Outcome.answer_map]
  cases hrun : Outcome.answer ((resolveSchema id).run engine) with
  | error error =>
      rw [hrun] at hfields
      cases hfields
  | ok schema =>
      rw [hrun] at hfields
      refine ⟨schema, rfl, ?_⟩
      cases hvalid : schema.validate engine.settings.fillDefaults payload with
      | ok found =>
          rw [Outcome.ok_bind, hvalid] at hfields
          cases hfields
          rfl
      | error error =>
          rw [Outcome.ok_bind, hvalid] at hfields
          cases hfields

/-- In any state, once a type resolves, values are validated for it exactly as its schema has
it. So the order of a payload whose names are all known changes nothing, what is stored for
a field depends on its definition and its entry only, and every error is one of the
request. -/
theorem validateFields_spec (engine : Engine σ) (id : TypeId) (schema : Schema)
    (payload : Payload)
    (hschema : engine.answer (.resolveSchema id) = .ok (.schema schema)) :
    let answer := engine.answer (.validateFields id payload)
    (∃ result, schema.ValidatesTo engine.settings.fillDefaults payload result ∧
        answer = (result.mapError SchemaError.field).map Response.values) ∧
      (∀ other : Payload, other.entries.Perm payload.entries → schema.Knows payload →
        engine.answer (.validateFields id other) = answer) ∧
      (∀ (later : Engine σ) (otherId : TypeId) (otherSchema : Schema) (other : Payload)
          (values otherValues : FieldValues) (name : String),
        later.settings.fillDefaults = engine.settings.fillDefaults →
        later.answer (.resolveSchema otherId) = .ok (.schema otherSchema) →
        answer = .ok (.values values) →
        later.answer (.validateFields otherId other) = .ok (.values otherValues) →
        otherSchema.get? name = schema.get? name → other.get? name = payload.get? name →
          otherValues.get? name = values.get? name) ∧
      ∀ error, answer = .error error → error.kind = .badParameter := by
  intro answer
  have hanswer : answer = _ := answer_of_schema hschema payload
  refine ⟨⟨_, Schema.validatesTo_validate schema _ payload, hanswer⟩, ?_, ?_, ?_⟩
  · intro other hperm hknows
    rw [hanswer, answer_of_schema hschema,
      Schema.validate_congr (OrderedMap.get?_of_perm hperm) hknows]
  · intro later otherId otherSchema other values otherValues name hfills hother hvalues
      hotherValues hdefinition hentry
    have hvalidates : ∀ id payload, (Operation.validateFields id payload).validated? =
        some (id, payload) := fun _ _ => rfl
    obtain ⟨found, hfound, hvalid⟩ := schema_of_validated (hvalidates id payload) hvalues
    obtain ⟨found', hfound', hvalid'⟩ := schema_of_validated (hvalidates otherId other) hotherValues
    rw [hschema] at hfound
    rw [hother] at hfound'
    cases hfound
    cases hfound'
    exact Schema.get?_of_validate hvalid hvalid' hfills hdefinition hentry
  · intro error herror
    rw [hanswer] at herror
    cases hresult : schema.validate engine.settings.fillDefaults payload with
    | ok values =>
        rw [hresult] at herror
        cases herror
    | error source =>
        rw [hresult] at herror
        cases herror
        have hkind := Schema.kind_of_validate hresult
        exact hkind

/-- A type with a required field and two that have defaults. -/
def triagedType : List Operation :=
  [ .create
      { name := "Bug"
        fields := .ofList [
          ("title", {type := .simple .string, required := true}),
          ("severity", {type := .enum {base := .integer, values := [.integer 2, .integer 1]}}),
          ("tags", {type := .listOf (.simple .string)})] }
      (.ofNat 1) ]

/-- One of the defaults is filled in. The other one is not, for its field was cleared. -/
theorem validateFields_spec_cleared :
    let start : Engine MemoryStore := {store := {}, settings := {fillDefaults := true}}
    let engine := start.after triagedType
    let payload : Payload := .ofList [("tags", none), ("title", some (.string "Crash"))]
    let values : FieldValues := .ofList [("title", .string "Crash"), ("severity", .integer 2)]
    ∃ schema, engine.answer (.resolveSchema (.ofNat 1)) = .ok (.schema schema) ∧
      schema.keys = ["title", "severity", "tags"] ∧
      schema.ValidatesTo true payload (.ok values) ∧
      engine.answer (.validateFields (.ofNat 1) payload) = .ok (.values values) := by
  intro start engine payload values
  have hresolves : ∃ schema, engine.answer (.resolveSchema (.ofNat 1)) = .ok (.schema schema) ∧
      schema.keys = ["title", "severity", "tags"] := ⟨_, rfl, rfl⟩
  obtain ⟨schema, hschema, hkeys⟩ := hresolves
  have hvalues : engine.answer (.validateFields (.ofNat 1) payload) = .ok (.values values) := rfl
  obtain ⟨⟨result, hresult, hanswer⟩, _⟩ :=
    validateFields_spec engine (.ofNat 1) schema payload hschema
  have hok : result = .ok values := by
    rw [hvalues] at hanswer
    cases result with
    | ok found =>
        cases hanswer
        rfl
    | error error => cases hanswer
  exact ⟨schema, hschema, hkeys, hok ▸ hresult, hvalues⟩

end Engine

end WorkSchema
