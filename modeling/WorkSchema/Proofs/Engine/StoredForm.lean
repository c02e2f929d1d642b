import WorkSchema.Proofs.Engine.Validation
import WorkSchema.Proofs.Engine.Validity
import WorkSchema.Proofs.Field.StoredForm
import WorkSchema.Proofs.WorkItem.Validation

/-!
Which of the values that validation returns are in stored form. Submitted values
are, except for instants that leave the years of four digits when they are moved
to UTC. A default is returned as it was declared, so it is in stored form only
if it was declared so.
-/

namespace WorkSchema

namespace Engine

variable {σ : Type} [TypeStore σ] {engine : Engine σ}

/-- Validation takes a valid schema from a valid engine. -/
private theorem schema_of_validateFields (hengine : engine.Valid) {id : TypeId}
    {payload : Payload} {values : FieldValues}
    (hanswer : engine.answer (.validateFields id payload) = .ok (.values values)) :
    ∃ schema fillDefaults, engine.answer (.resolveSchema id) = .ok (.schema schema) ∧
      schema.validate fillDefaults payload = .ok values ∧ schema.Valid := by
  obtain ⟨schema, hschema, hvalues⟩ := schema_of_validated rfl hanswer
  refine ⟨schema, _, hschema, hvalues, ?_⟩
  have hresolved := keeps_resolveSchema id engine hengine
  unfold Outcome.Ensures at hresolved
  rw [answer, Operation.perform, Outcome.answer_map] at hschema
  cases hrun : (resolveSchema id).run engine with
  | error error after =>
      rw [hrun] at hschema
      cases hschema
  | ok found after =>
      rw [hrun] at hschema hresolved
      cases hschema
      exact hresolved.2

/-- Which values of a validation are in stored form, in every state that an engine
reaches from an empty store. A value that was submitted is stored in stored form
exactly if no instant in it leaves the years of four digits, and a default is
exactly if it was declared in stored form. -/
theorem validateFields_stored_iff [LawfulStore σ] (start : Engine σ)
    (operations : List Operation) (id : TypeId) (payload : Payload) (values : FieldValues)
    (hstore : start.catalog.types.elements = []) (hcache : start.cache.entries = [])
    (hvalid : (start.after operations).answer (.validateFields id payload) =
      .ok (.values values)) :
    ∃ schema, (start.after operations).answer (.resolveSchema id) = .ok (.schema schema) ∧
      ∀ name value, (name, value) ∈ values.entries →
        ∃ definition, schema.get? name = some definition ∧
          (definition.type.convert value = .ok value ↔
            match (payload.get? name).join with
            | some submitted => definition.type.leaf.KeepsYears submitted
            | none => definition.type.IsStoredDefault value) := by
  have hstart : start.Valid := by
    constructor
    · intro type hmem
      rw [hstore] at hmem
      cases hmem
    · intro other entry hmem
      rw [hcache] at hmem
      cases hmem
  obtain ⟨schema, _, hschema, hvalues, htypes⟩ :=
    schema_of_validateFields (hstart.after operations) hvalid
  refine ⟨schema, hschema, ?_⟩
  intro name value hmem
  have hvalue := (OrderedMap.mem_entries_iff values name value).mp hmem
  obtain ⟨definition, hdefinition, horigin⟩ := Schema.origin_of_value hvalues hvalue
  refine ⟨definition, hdefinition, ?_⟩
  cases hsubmitted : (payload.get? name).join with
  | some submitted =>
      rw [hsubmitted] at horigin
      exact FieldType.convert_stored_iff horigin
  | none =>
      rw [hsubmitted] at horigin
      exact FieldType.convert_default_iff (htypes name definition hdefinition) horigin

/-- An enum of floats whose default is declared as an integer. -/
def estimate : FieldDefinition where
  type := .enum {
    base := .float
    values := [.integer 1, .float (.ofRatio false 5 2)]
    default? := some (.integer 1) }

def estimatedType : List Operation :=
  [.create {name := "Task", fields := .ofList [("estimate", estimate)]} (.ofNat 1)]

theorem validateFields_stored_iff_estimate :
    let start : Engine MemoryStore := {store := {}}
    let values : FieldValues := .ofList [("estimate", .integer 1)]
    start.catalog.types.elements = [] ∧ start.cache.entries = [] ∧
      (start.after estimatedType).answer (.validateFields (.ofNat 1) {}) =
        .ok (.values values) ∧
      ∃ schema, (start.after estimatedType).answer (.resolveSchema (.ofNat 1)) =
          .ok (.schema schema) ∧
        ∀ name value, (name, value) ∈ values.entries →
          ∃ definition, schema.get? name = some definition ∧
            (definition.type.convert value = .ok value ↔
              match (OrderedMap.get? ({} : Payload) name).join with
              | some submitted => definition.type.leaf.KeepsYears submitted
              | none => definition.type.IsStoredDefault value) := by
  intro start values
  have hvalid : (start.after estimatedType).answer (.validateFields (.ofNat 1) {}) =
      .ok (.values values) := rfl
  exact ⟨rfl, rfl, hvalid,
    validateFields_stored_iff start estimatedType (.ofNat 1) {} values rfl rfl hvalid⟩

/-- The default is returned as it was declared, though the type stores a float in
its place. -/
theorem default_not_stored :
    let start : Engine MemoryStore := {store := {}}
    ∃ schema definition,
      (start.after estimatedType).answer (.validateFields (.ofNat 1) {}) =
        .ok (.values (.ofList [("estimate", .integer 1)])) ∧
      (start.after estimatedType).answer (.resolveSchema (.ofNat 1)) = .ok (.schema schema) ∧
      schema.get? "estimate" = some definition ∧
      definition.type.convert (.integer 1) = .ok (.float (.ofInt 1)) ∧
      definition.type.convert (.integer 1) ≠ .ok (.integer 1) := by
  intro start
  have hconvert : estimate.type.convert (.integer 1) = .ok (.float (.ofInt 1)) := rfl
  refine ⟨.ofList [("estimate", estimate)], estimate, rfl, rfl, rfl, hconvert, ?_⟩
  rw [hconvert]
  intro hsame
  cases hsame

end Engine

end WorkSchema
