import WorkSchema.Proofs.Field.Conversion
import WorkSchema.Proofs.WorkItem.Validation

/-!
What validation answers, told apart from how it gets there. Names that the schema lacks come
before everything else, in the order of the payload. Then each field, in the order of the
schema, is refused or stored for the one entry of the payload under its name, so the order
of the payload does not matter any more.
-/

namespace WorkSchema

namespace FieldDefinition

/-- The error that a definition has for the entry under its name. There may be none, and an
entry may be null. -/
inductive Refuses (definition : FieldDefinition) (name : String) :
    Option (Option FieldValue) → FieldError → Prop where
  | missing {submitted? : Option (Option FieldValue)} : definition.required = true →
      submitted?.join = none → Refuses definition name submitted? (.missingField name)
  | invalid {value : FieldValue} {source : FieldError} :
      definition.type.convert value = .error source →
      Refuses definition name (some (some value)) (.invalidValue name source)

/-- What is stored for a definition and the entry under its name, if anything. -/
inductive Stores (definition : FieldDefinition) (fillDefaults : Bool) :
    Option (Option FieldValue) → Option FieldValue → Prop where
  | converted {value stored : FieldValue} : definition.type.convert value = .ok stored →
      Stores definition fillDefaults (some (some value)) (some stored)
  | cleared : definition.required = false → Stores definition fillDefaults (some none) none
  | filled : definition.required = false → fillDefaults = true →
      Stores definition fillDefaults none definition.type.default?
  | left : definition.required = false → fillDefaults = false →
      Stores definition fillDefaults none none

theorem Stores.unique {definition : FieldDefinition} {fillDefaults : Bool}
    {submitted? : Option (Option FieldValue)} {first? second? : Option FieldValue}
    (hfirst : definition.Stores fillDefaults submitted? first?)
    (hsecond : definition.Stores fillDefaults submitted? second?) : first? = second? := by
  cases hfirst with
  | converted hvalue =>
      cases hsecond with
      | converted hother =>
          cases hvalue.symm.trans hother
          rfl
  | cleared =>
      cases hsecond
      rfl
  | filled _ hfills =>
      cases hsecond with
      | filled => rfl
      | left _ hleaves => cases hfills.symm.trans hleaves
  | left _ hleaves =>
      cases hsecond with
      | filled _ hfills => cases hfills.symm.trans hleaves
      | left => rfl

/-- Whatever a field is refused for, it is the fault of what was submitted. -/
theorem Refuses.kind {definition : FieldDefinition} {name : String}
    {submitted? : Option (Option FieldValue)} {error : FieldError}
    (hrefuses : definition.Refuses name submitted? error) : error.kind = .badParameter := by
  cases hrefuses with
  | missing => rfl
  | invalid hfails =>
      have hsource := FieldType.kind_of_convert_error hfails
      exact hsource

end FieldDefinition

namespace Schema

variable {fillDefaults : Bool} {payload other : Payload} {name : String}
  {definition : FieldDefinition}

theorem storedValue_eq_ok {stored? : Option FieldValue} :
    storedValue fillDefaults payload name definition = .ok stored? ↔
      definition.Stores fillDefaults (payload.get? name) stored? := by
  cases hentry : payload.get? name with
  | none =>
      have habsent : payload.contains name = false := by
        rw [OrderedMap.contains_eq_isSome, hentry, Option.isSome_none]
      rw [storedValue_of_absent (by rw [hentry, Option.join_none]), habsent]
      constructor
      · intro hstored
        split at hstored
        · cases hstored
        · rename_i hoptional
          split at hstored
          · rename_i hfills
            cases hstored
            exact .filled (Bool.eq_false_iff.mpr hoptional) (by simpa using hfills)
          · rename_i hleaves
            cases hstored
            exact .left (Bool.eq_false_iff.mpr hoptional) (by simpa using hleaves)
      · intro hstores
        cases hstores with
        | filled hoptional hfills => simp [hoptional, hfills]
        | left hoptional hleaves => simp [hoptional, hleaves]
  | some value? =>
      have hnamed : payload.contains name = true := by
        rw [OrderedMap.contains_eq_isSome, hentry, Option.isSome_some]
      cases value? with
      | none =>
          rw [storedValue_of_absent (by rw [hentry, Option.join_some]), hnamed]
          constructor
          · intro hstored
            split at hstored
            · cases hstored
            · rename_i hoptional
              simp only [Bool.not_true, Bool.and_false, Bool.false_eq_true, if_false] at hstored
              cases hstored
              exact .cleared (Bool.eq_false_iff.mpr hoptional)
          · intro hstores
            cases hstores with
            | cleared hoptional => simp [hoptional]
      | some value =>
          rw [storedValue_of_submitted hentry]
          constructor
          · intro hstored
            split at hstored <;> cases hstored
            exact .converted (by assumption)
          · intro hstores
            cases hstores with
            | converted hvalue => rw [hvalue]

theorem storedValue_eq_error {error : FieldError} :
    storedValue fillDefaults payload name definition = .error error ↔
      definition.Refuses name (payload.get? name) error := by
  cases hvalue : (payload.get? name).join with
  | none =>
      rw [storedValue_of_absent hvalue]
      constructor
      · intro hfails
        split at hfails
        · cases hfails
          exact .missing (by assumption) hvalue
        · split at hfails <;> cases hfails
      · intro hrefuses
        cases hentry : payload.get? name with
        | none =>
            rw [hentry] at hrefuses
            cases hrefuses with
            | missing hrequired => rw [if_pos hrequired]
        | some value? =>
            rw [hentry, Option.join_some] at hvalue
            rw [hentry, hvalue] at hrefuses
            cases hrefuses with
            | missing hrequired => rw [if_pos hrequired]
  | some value =>
      have hentry := Option.join_eq_some_iff.mp hvalue
      rw [storedValue_of_submitted hentry, hentry]
      constructor
      · intro hfails
        split at hfails <;> cases hfails
        exact .invalid (by assumption)
      · intro hrefuses
        cases hrefuses with
        | missing _ hnone => cases hnone
        | invalid hfails => rw [hfails]

/-- Whether a schema has every name of a payload. -/
def Knows (schema : Schema) (payload : Payload) : Prop :=
  ∀ name ∈ payload.keys, schema.contains name = true

/-- Whether a field is refused for what a payload has under its name. -/
def Rejects (payload : Payload) (field : String × FieldDefinition) : Prop :=
  ∃ error, field.2.Refuses field.1 (payload.get? field.1) error

/-- What validating a payload against a schema comes to: the first unknown name, or else the
error of the first field that is refused, or else what is stored for each field, in the
order of the schema. -/
structure ValidatesTo (schema : Schema) (fillDefaults : Bool) (payload : Payload)
    (result : Except FieldError FieldValues) : Prop where
  unknown (name : String) :
    Outcome.First (fun name => schema.contains name = false) payload.keys name →
      result = .error (.unknownField name)
  refused (name : String) (definition : FieldDefinition) (error : FieldError) :
    schema.Knows payload → Outcome.First (Rejects payload) schema.entries (name, definition) →
      definition.Refuses name (payload.get? name) error → result = .error error
  stored : schema.Knows payload → (∀ field ∈ schema.entries, ¬ Rejects payload field) →
    ∃ values, result = .ok values ∧ values.keys.Sublist schema.keys ∧
      (∀ name definition, schema.get? name = some definition →
        definition.Stores fillDefaults (payload.get? name) (values.get? name)) ∧
      ∀ name, schema.get? name = none → values.get? name = none

variable {schema : Schema}

theorem validate_of_knows (hknows : schema.Knows payload) :
    schema.validate fillDefaults payload = (do
      return .ofList (← storedEntries fillDefaults payload schema.entries)) := by
  have hnone : payload.keys.find? (!schema.contains ·) = none := by
    rw [List.find?_eq_none]
    intro name hmem
    simp [hknows name hmem]
  rw [validate, hnone]

theorem validatesTo_validate (schema : Schema) (fillDefaults : Bool) (payload : Payload) :
    schema.ValidatesTo fillDefaults payload (schema.validate fillDefaults payload) := by
  constructor
  case unknown =>
    intro name hunknown
    have hfirst : payload.keys.find? (!schema.contains ·) = some name := by
      simpa only [Outcome.find?_eq_some_iff_first, Bool.not_eq_true'] using hunknown
    rw [validate, hfirst]
    rfl
  case refused =>
    rintro name definition error hknows ⟨before, after, hsplit, _, hbefore⟩ hrefuses
    have hentries : storedEntries fillDefaults payload schema.entries = .error error := by
      refine storedEntries_eq_error.mpr ⟨before, name, definition, after, hsplit, ?_,
        storedValue_eq_error.mpr hrefuses⟩
      intro earlier hmem
      cases hvalue : storedValue fillDefaults payload earlier.1 earlier.2 with
      | ok stored? => exact ⟨stored?, rfl⟩
      | error other => exact absurd ⟨other, storedValue_eq_error.mp hvalue⟩ (hbefore earlier hmem)
    rw [validate_of_knows hknows, hentries]
    rfl
  case stored =>
    intro hknows hall
    cases hentries : storedEntries fillDefaults payload schema.entries with
    | error error =>
        obtain ⟨before, name, definition, after, hsplit, _, hfails⟩ :=
          storedEntries_eq_error.mp hentries
        have hmem : (name, definition) ∈ schema.entries := by simp [hsplit]
        exact absurd ⟨error, storedValue_eq_error.mp hfails⟩ (hall _ hmem)
    | ok stored =>
        have hvalid : schema.validate fillDefaults payload = .ok (.ofList stored) := by
          rw [validate_of_knows hknows, hentries]
          rfl
        have hsublist := sublist_storedEntries hentries
        obtain ⟨_, hvalues, hothers⟩ := validate_eq_ok hvalid
        refine ⟨_, hvalid, ?_, ?_, hothers⟩
        · rw [OrderedMap.keys, OrderedMap.entries_ofList (schema.nodup.sublist hsublist)]
          exact hsublist
        · intro name definition hdefinition
          exact storedValue_eq_ok.mp (hvalues name definition hdefinition)

/-- Of a payload whose names are all known only what stands under each name matters. -/
theorem validate_congr (hsame : ∀ name, other.get? name = payload.get? name)
    (hknows : schema.Knows payload) (fillDefaults : Bool) :
    schema.validate fillDefaults other = schema.validate fillDefaults payload := by
  have hcontains : ∀ name, other.contains name = payload.contains name := by
    intro name
    rw [OrderedMap.contains_eq_isSome, OrderedMap.contains_eq_isSome, hsame]
  have hknows' : schema.Knows other := by
    intro name hmem
    rw [← OrderedMap.contains_iff, hcontains, OrderedMap.contains_iff] at hmem
    exact hknows name hmem
  have hentries : ∀ entries, storedEntries fillDefaults other entries =
      storedEntries fillDefaults payload entries := by
    intro entries
    induction entries with
    | nil => rfl
    | cons entry rest ih => simp only [storedEntries, storedValue, hsame, hcontains, ih]
  rw [validate_of_knows hknows', validate_of_knows hknows, hentries]

/-- What is stored under a name depends on nothing but the definition and the entry that
have it. -/
theorem get?_of_validate {otherSchema : Schema} {otherFills : Bool}
    {values otherValues : FieldValues}
    (hvalid : schema.validate fillDefaults payload = .ok values)
    (hother : otherSchema.validate otherFills other = .ok otherValues)
    (hfills : otherFills = fillDefaults) (hdefinition : otherSchema.get? name = schema.get? name)
    (hentry : other.get? name = payload.get? name) :
    otherValues.get? name = values.get? name := by
  obtain ⟨_, hstored, hnothing⟩ := validate_eq_ok hvalid
  obtain ⟨_, hstored', hnothing'⟩ := validate_eq_ok hother
  cases hfound : schema.get? name with
  | none => rw [hnothing name hfound, hnothing' name (hdefinition.trans hfound)]
  | some definition =>
      have hstores := storedValue_eq_ok.mp (hstored name definition hfound)
      have hstores' := storedValue_eq_ok.mp (hstored' name definition (hdefinition.trans hfound))
      rw [hentry, hfills] at hstores'
      exact hstores'.unique hstores

theorem kind_of_validate {error : FieldError}
    (hfails : schema.validate fillDefaults payload = .error error) :
    error.kind = .badParameter := by
  rcases validate_eq_error hfails with ⟨name, _, _, rfl⟩ | ⟨name, definition, _, hvalue⟩
  · rfl
  · exact (storedValue_eq_error.mp hvalue).kind

end Schema

end WorkSchema
