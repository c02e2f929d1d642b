import WorkSchema.Proofs.Collection.OrderedMap
import WorkSchema.Proofs.Outcome
import WorkSchema.WorkItem.Validation

/-!
What validation returns. If it succeeds, the payload names fields of the schema
only, and under each name stands what is stored for the one definition of that
name. If it fails, it is for a name that the schema lacks or for one definition.
-/

namespace WorkSchema.Schema

variable {fillDefaults : Bool} {payload : Payload} {entries : List (String × FieldDefinition)}

theorem storedValue_of_submitted {name : String} {definition : FieldDefinition}
    {value : FieldValue} (hsubmitted : payload.get? name = some (some value)) :
    storedValue fillDefaults payload name definition =
      match definition.type.convert value with
      | .ok stored => .ok (some stored)
      | .error source => .error (.invalidValue name source) := by
  simp only [storedValue, FieldDefinition.validate, hsubmitted, Option.join_some]
  cases definition.type.convert value <;> rfl

/-- What is stored for a submitted value is what its type converts it to. -/
theorem convert_of_storedValue {name : String} {definition : FieldDefinition}
    {value : FieldValue} {stored? : Option FieldValue}
    (hsubmitted : payload.get? name = some (some value))
    (hstored : storedValue fillDefaults payload name definition = .ok stored?) :
    ∃ stored, stored? = some stored ∧ definition.type.convert value = .ok stored := by
  rw [storedValue_of_submitted hsubmitted] at hstored
  cases hconvert : definition.type.convert value with
  | ok stored =>
      rw [hconvert] at hstored
      cases hstored
      exact ⟨stored, rfl, rfl⟩
  | error source =>
      rw [hconvert] at hstored
      cases hstored

/-- A field that is submitted as null, or not at all, must be optional. Only one
that is not submitted gets a default. -/
theorem storedValue_of_absent {name : String} {definition : FieldDefinition}
    (habsent : (payload.get? name).join = none) :
    storedValue fillDefaults payload name definition =
      if definition.required then .error (.missingField name)
      else if fillDefaults && !payload.contains name then .ok definition.type.default?
      else .ok none := by
  simp only [storedValue, FieldDefinition.validate, habsent]
  cases definition.required with
  | true => rfl
  | false =>
      cases fillDefaults && !payload.contains name <;> rfl

private theorem storedEntries_cons_eq_ok {name : String} {definition : FieldDefinition}
    {rest : List (String × FieldDefinition)} {stored : List (String × FieldValue)} :
    storedEntries fillDefaults payload ((name, definition) :: rest) = .ok stored ↔
      ∃ value? others, storedValue fillDefaults payload name definition = .ok value? ∧
        storedEntries fillDefaults payload rest = .ok others ∧
          stored = (value?.map fun value => (name, value)).toList ++ others := by
  simp only [storedEntries, Outcome.bind_eq_ok]
  constructor
  · rintro ⟨value?, hvalue, others, hothers, hstored⟩
    refine ⟨value?, others, hvalue, hothers, ?_⟩
    cases value? <;> cases hstored <;> rfl
  · rintro ⟨value?, others, hvalue, hothers, rfl⟩
    refine ⟨value?, hvalue, others, hothers, ?_⟩
    cases value? <;> rfl

/-- The names under which something is stored come from the schema, in its order. -/
theorem sublist_storedEntries {stored : List (String × FieldValue)}
    (hstored : storedEntries fillDefaults payload entries = .ok stored) :
    (stored.map Prod.fst).Sublist (entries.map Prod.fst) := by
  induction entries generalizing stored with
  | nil =>
      cases hstored
      exact List.Sublist.refl []
  | cons entry rest ih =>
      obtain ⟨name, definition⟩ := entry
      obtain ⟨value?, others, _, hothers, rfl⟩ := storedEntries_cons_eq_ok.mp hstored
      cases value? with
      | none => exact (ih hothers).cons name
      | some value => exact (ih hothers).cons_cons name

private theorem storedEntries_lookup {stored : List (String × FieldValue)}
    (hnodup : (entries.map Prod.fst).Nodup)
    (hstored : storedEntries fillDefaults payload entries = .ok stored) {name : String}
    {definition : FieldDefinition} (hmem : (name, definition) ∈ entries) :
    storedValue fillDefaults payload name definition = .ok (stored.lookup name) := by
  induction entries generalizing stored with
  | nil => cases hmem
  | cons entry rest ih =>
      obtain ⟨other, first⟩ := entry
      obtain ⟨value?, others, hvalue, hothers, rfl⟩ := storedEntries_cons_eq_ok.mp hstored
      rw [List.map_cons, List.nodup_cons] at hnodup
      rcases List.mem_cons.mp hmem with heq | hrest
      · cases heq
        have habsent : others.lookup name = none := by
          rw [List.lookup_eq_none_iff]
          intro entry hentry
          rw [bne_iff_ne]
          rintro rfl
          have hname : entry.1 ∈ others.map Prod.fst := List.mem_map_of_mem hentry
          exact hnodup.1 ((sublist_storedEntries hothers).subset hname)
        rw [hvalue]
        cases value? <;> simp [habsent]
      · have hne : name ≠ other := by
          intro hsame
          have hname : name ∈ rest.map Prod.fst := List.mem_map_of_mem (f := Prod.fst) hrest
          exact hnodup.1 (hsame ▸ hname)
        rw [ih hnodup.2 hothers hrest]
        cases value? with
        | none => rfl
        | some value =>
            simp only [Option.map_some, Option.toList_some, List.singleton_append,
              OrderedMap.lookup_cons_if, if_neg hne]

/-- The first entry that fails decides the error. -/
theorem storedEntries_eq_error {error : FieldError} :
    storedEntries fillDefaults payload entries = .error error ↔
      ∃ before name definition after, entries = before ++ (name, definition) :: after ∧
        (∀ entry ∈ before, ∃ stored?,
          storedValue fillDefaults payload entry.1 entry.2 = .ok stored?) ∧
        storedValue fillDefaults payload name definition = .error error := by
  induction entries with
  | nil => simp [storedEntries, pure, Except.pure]
  | cons entry rest ih =>
      obtain ⟨name, definition⟩ := entry
      simp only [storedEntries, Outcome.bind_eq_error]
      constructor
      · rintro (hfirst | ⟨value?, hfirst, hrest | ⟨others, _, hstored⟩⟩)
        · exact ⟨[], name, definition, rest, rfl, nofun, hfirst⟩
        · obtain ⟨before, other, later, after, rfl, hbefore, hother⟩ := ih.mp hrest
          exact ⟨(name, definition) :: before, other, later, after, rfl,
            List.forall_mem_cons.mpr ⟨⟨value?, hfirst⟩, hbefore⟩, hother⟩
        · cases value? <;> cases hstored
      · rintro ⟨before, other, later, after, hsplit, hbefore, hother⟩
        cases before with
        | nil =>
            cases hsplit
            exact Or.inl hother
        | cons _ before =>
            cases hsplit
            obtain ⟨⟨value?, hfirst⟩, hothers⟩ := List.forall_mem_cons.mp hbefore
            exact Or.inr ⟨value?, hfirst,
              Or.inl (ih.mpr ⟨before, other, later, after, rfl, hothers, hother⟩)⟩

variable {schema : Schema}

/-- A validation that succeeds stores, under each name, what the definition of
that name stores for the payload, and nothing under other names. -/
theorem validate_eq_ok {values : FieldValues}
    (hvalid : schema.validate fillDefaults payload = .ok values) :
    (∀ name, payload.contains name = true → schema.contains name = true) ∧
      (∀ name definition, schema.get? name = some definition →
        storedValue fillDefaults payload name definition = .ok (values.get? name)) ∧
      ∀ name, schema.get? name = none → values.get? name = none := by
  unfold validate at hvalid
  split at hvalid
  · cases hvalid
  · rename_i hknown
    obtain ⟨stored, hstored, hvalues⟩ := Outcome.bind_eq_ok.mp hvalid
    cases hvalues
    have hsublist := sublist_storedEntries hstored
    have hnodup : (stored.map Prod.fst).Nodup := schema.nodup.sublist hsublist
    refine ⟨?_, ?_, ?_⟩
    · intro name hname
      have hmem : name ∈ payload.keys := (OrderedMap.contains_iff payload name).mp hname
      simpa using List.find?_eq_none.mp hknown name hmem
    · intro name definition hdefinition
      have hmem := (OrderedMap.mem_entries_iff schema name definition).mpr hdefinition
      rw [OrderedMap.get?_ofList hnodup]
      exact storedEntries_lookup schema.nodup hstored hmem
    · intro name habsent
      rw [OrderedMap.get?_eq_none_iff] at habsent ⊢
      intro hname
      rw [OrderedMap.keys, OrderedMap.entries_ofList hnodup] at hname
      exact habsent (hsublist.subset hname)

/-- A validation that fails does so for a submitted name that the schema lacks, or
with the error of one definition. -/
theorem validate_eq_error {error : FieldError}
    (hfails : schema.validate fillDefaults payload = .error error) :
    (∃ name, payload.contains name = true ∧ schema.contains name = false ∧
        error = .unknownField name) ∨
      ∃ name definition, schema.get? name = some definition ∧
        storedValue fillDefaults payload name definition = .error error := by
  unfold validate at hfails
  split at hfails
  · rename_i name hunknown
    cases hfails
    have hmem : name ∈ payload.keys := List.mem_of_find?_eq_some hunknown
    have habsent := List.find?_some hunknown
    have hname := (OrderedMap.contains_iff payload name).mpr hmem
    exact Or.inl ⟨name, hname, by simpa using habsent, rfl⟩
  · rcases Outcome.bind_eq_error.mp hfails with hentries | ⟨_, _, hvalues⟩
    · obtain ⟨before, name, definition, after, hsplit, _, herror⟩ :=
        storedEntries_eq_error.mp hentries
      have hmem : (name, definition) ∈ schema.entries := by simp [hsplit]
      have hdefinition := (OrderedMap.mem_entries_iff schema name definition).mp hmem
      exact Or.inr ⟨name, definition, hdefinition, herror⟩
    · cases hvalues

/-- Each value that is returned was converted from what was submitted under its
name, or is the default of its field. -/
theorem origin_of_value {values : FieldValues}
    (hvalid : schema.validate fillDefaults payload = .ok values)
    {name : String} {value : FieldValue} (hvalue : values.get? name = some value) :
    ∃ definition, schema.get? name = some definition ∧
      match (payload.get? name).join with
      | some submitted => definition.type.convert submitted = .ok value
      | none => definition.type.default? = some value := by
  obtain ⟨_, hstored, hothers⟩ := validate_eq_ok hvalid
  cases hdefinition : schema.get? name with
  | none =>
      rw [hothers name hdefinition] at hvalue
      cases hvalue
  | some definition =>
      refine ⟨definition, rfl, ?_⟩
      have hresult := hstored name definition hdefinition
      rw [hvalue] at hresult
      cases hsubmitted : (payload.get? name).join with
      | some submitted =>
          rw [storedValue_of_submitted (Option.join_eq_some_iff.mp hsubmitted)] at hresult
          split at hresult
          · cases hresult
            assumption
          · cases hresult
      | none =>
          rw [storedValue_of_absent hsubmitted] at hresult
          split at hresult
          · cases hresult
          · split at hresult
            · exact Except.ok.inj hresult
            · cases hresult

end WorkSchema.Schema
