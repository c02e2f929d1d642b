import WorkSchema.Proofs.Field.StoredForm
import WorkSchema.Proofs.WorkItem.Validation

/-!
What an update makes of each field. One that the changes name gets what they say.
One that they do not name is validated a second time, as if its stored value had
been submitted. Whether that leaves it alone depends on where its value came from,
and a field without a value looks the same whether it was cleared or never there.
-/

namespace WorkSchema

theorem Payload.get?_update (current : FieldValues) (changes : Payload) (name : String) :
    (update current changes).get? name =
      (changes.get? name).or ((current.get? name).map some) := by
  rw [update, OrderedMap.get?_insertAll_entries, OrderedMap.get?_map]

/-- Whether what is stored for a field, out of what was submitted for it, stays as it
is when an update does not name the field: a default must have been declared in stored
form, and nothing may be filled in for a value that is not there. -/
def FieldDefinition.KeptUnnamed (definition : FieldDefinition) (fillDefaults : Bool)
    (submitted? : Option FieldValue) : Option FieldValue → Prop
  | some stored => submitted? = none → definition.type.IsStoredDefault stored
  | none => fillDefaults = true → definition.type.default? = none

namespace Schema

variable {schema : Schema} {fillDefaults : Bool} {payload changes : Payload}
  {current next : FieldValues} {name : String} {definition : FieldDefinition}

/-- What values become under an update, field by field. The payload is the one that the
current values were validated from. -/
def FramesUpdate (schema : Schema) (fillDefaults : Bool) (payload : Payload)
    (current : FieldValues) (changes : Payload) (next : FieldValues) : Prop :=
  ∀ name definition, schema.get? name = some definition →
    match changes.get? name with
    | some (some value) =>
        ∃ stored, definition.type.convert value = .ok stored ∧ next.get? name = some stored
    | some none => next.get? name = none
    | none =>
        next.get? name = current.get? name ↔
          definition.KeptUnnamed fillDefaults (payload.get? name).join (current.get? name)

private theorem convert_of_named
    (hnext : schema.validate fillDefaults (.update current changes) = .ok next)
    (hdefinition : schema.get? name = some definition) {value : FieldValue}
    (hvalue : (Payload.update current changes).get? name = some (some value)) :
    ∃ stored, definition.type.convert value = .ok stored ∧ next.get? name = some stored := by
  obtain ⟨_, hstored, _⟩ := validate_eq_ok hnext
  obtain ⟨stored, hresult, hconvert⟩ :=
    convert_of_storedValue hvalue (hstored name definition hdefinition)
  exact ⟨stored, hconvert, hresult⟩

/-- A value that an update does not name is converted again. -/
theorem convert_of_unnamed
    (hnext : schema.validate fillDefaults (.update current changes) = .ok next)
    (hdefinition : schema.get? name = some definition) (hunnamed : changes.get? name = none)
    {value : FieldValue} (hvalue : current.get? name = some value) :
    ∃ stored, definition.type.convert value = .ok stored ∧ next.get? name = some stored := by
  apply convert_of_named hnext hdefinition
  rw [Payload.get?_update, hunnamed, hvalue]
  rfl

private theorem absent_of_cleared
    (hnext : schema.validate fillDefaults (.update current changes) = .ok next)
    (hdefinition : schema.get? name = some definition)
    (hcleared : changes.get? name = some none) : next.get? name = none := by
  obtain ⟨_, hstored, _⟩ := validate_eq_ok hnext
  have hmerged : (Payload.update current changes).get? name = some none := by
    rw [Payload.get?_update, hcleared]
    rfl
  have hresult := hstored name definition hdefinition
  rw [storedValue_of_absent (by rw [hmerged]; rfl), OrderedMap.contains_eq_isSome, hmerged]
    at hresult
  split at hresult
  · cases hresult
  · simpa [eq_comm] using hresult

/-- A field without a value that an update does not name is one that the payload of the
update leaves out, so it is filled in like that of a new item. -/
theorem absent_iff_of_unnamed
    (hnext : schema.validate fillDefaults (.update current changes) = .ok next)
    (hdefinition : schema.get? name = some definition) (hunnamed : changes.get? name = none)
    (habsent : current.get? name = none) :
    next.get? name = none ↔ (fillDefaults = true → definition.type.default? = none) := by
  obtain ⟨_, hstored, _⟩ := validate_eq_ok hnext
  have hmerged : (Payload.update current changes).get? name = none := by
    rw [Payload.get?_update, hunnamed, habsent]
    rfl
  have hresult := hstored name definition hdefinition
  rw [storedValue_of_absent (by rw [hmerged]; rfl), OrderedMap.contains_eq_isSome, hmerged]
    at hresult
  split at hresult
  · cases hresult
  · cases fillDefaults with
    | true =>
        have hdefault : definition.type.default? = next.get? name := Except.ok.inj hresult
        simp [hdefault]
    | false =>
        have hnone : none = next.get? name := Except.ok.inj hresult
        simp [← hnone]

/-- A stored value that an update does not name comes back as it was if it was
submitted once; a default only if it was declared in stored form. -/
private theorem kept_iff_of_value {fillBefore : Bool} {value : FieldValue}
    (hcurrent : schema.validate fillBefore payload = .ok current)
    (hnext : schema.validate fillDefaults (.update current changes) = .ok next)
    (hdefinition : schema.get? name = some definition) (hunnamed : changes.get? name = none)
    (hvalue : current.get? name = some value) :
    next.get? name = some value ↔
      ((payload.get? name).join = none → definition.type.IsStoredDefault value) := by
  obtain ⟨stored, hconvert, hresult⟩ := convert_of_unnamed hnext hdefinition hunnamed hvalue
  obtain ⟨_, hsame, horigin⟩ := origin_of_value hcurrent hvalue
  rw [hdefinition] at hsame
  cases hsame
  rw [hresult, Option.some.injEq]
  cases hsubmitted : (payload.get? name).join with
  | some submitted =>
      rw [hsubmitted] at horigin
      simp [FieldType.convert_again horigin hconvert]
  | none =>
      rw [hsubmitted] at horigin
      simpa using FieldType.stored_eq_default_iff horigin hconvert

theorem framesUpdate_of_validate {fillBefore : Bool}
    (hcurrent : schema.validate fillBefore payload = .ok current)
    (hnext : schema.validate fillDefaults (.update current changes) = .ok next) :
    schema.FramesUpdate fillDefaults payload current changes next := by
  intro name definition hdefinition
  cases hchange : changes.get? name with
  | some change? =>
      cases change? with
      | some value =>
          apply convert_of_named hnext hdefinition
          rw [Payload.get?_update, hchange]
          rfl
      | none => exact absent_of_cleared hnext hdefinition hchange
  | none =>
      cases hvalue : current.get? name with
      | some value => exact kept_iff_of_value hcurrent hnext hdefinition hchange hvalue
      | none => exact absent_iff_of_unnamed hnext hdefinition hchange hvalue

end Schema

end WorkSchema
