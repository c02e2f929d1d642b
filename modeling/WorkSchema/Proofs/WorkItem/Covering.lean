import WorkSchema.Proofs.Field.Covering
import WorkSchema.Proofs.WorkItem.Flattening
import WorkSchema.Proofs.WorkItem.Validation

/-!
A schema covers another if each field of the other is still there, under a
definition that accepts all that was accepted. A payload that is valid under a
schema is valid under every schema that covers it, with the same stored values,
unless that schema requires a field which the other does not have.
-/

namespace WorkSchema.Schema

def Covers (new old : Schema) : Prop :=
  ∀ name definition, old.get? name = some definition →
    ∃ later, new.get? name = some later ∧ later.Covers definition

theorem Covers.refl (schema : Schema) : schema.Covers schema :=
  fun _ definition hdefinition => ⟨definition, hdefinition, .refl definition⟩

theorem Covers.trans {a b c : Schema} (hab : a.Covers b) (hbc : b.Covers c) : a.Covers c := by
  intro name definition hdefinition
  obtain ⟨middle, hmiddle, hsecond⟩ := hbc name definition hdefinition
  obtain ⟨later, hlater, hfirst⟩ := hab name middle hmiddle
  exact ⟨later, hlater, hfirst.trans hsecond⟩

/-- A type that keeps its fields covers what it covered before its ancestors
changed: its own definitions stay, and inherited ones are covered above it. -/
theorem Covers.extend {new old : Schema} (hcovers : new.Covers old) (fields : Schema) :
    (new.extend fields).Covers (old.extend fields) := by
  intro name definition hdefinition
  rw [get?_extend] at hdefinition
  simp only [get?_extend]
  cases hown : fields.get? name with
  | some own =>
      rw [hown] at hdefinition
      exact ⟨definition, hdefinition, .refl definition⟩
  | none =>
      rw [hown] at hdefinition
      exact hcovers name definition hdefinition

/-- A type whose new definitions enclose those in force covers what it was. -/
theorem Covers.extend_enclosing {new old : Schema} (hcovers : new.Covers old)
    {own fields : Schema}
    (hencloses : ∀ name later definition, fields.get? name = some later →
      (old.extend own).get? name = some definition → later.encloses definition = true) :
    (new.extend (own.extend fields)).Covers (old.extend own) := by
  intro name definition hdefinition
  cases hfield : fields.get? name with
  | some later =>
      refine ⟨later, ?_, ?_⟩
      · rw [get?_extend, get?_extend, hfield]
        rfl
      · have hwider := hencloses name later definition hfield hdefinition
        exact FieldDefinition.covers_of_encloses hwider
  | none =>
      have hkept := hcovers.extend own name definition hdefinition
      simp only [get?_extend, hfield, Option.none_or] at hkept ⊢
      exact hkept

theorem Covers.contains {new old : Schema} (hcovers : new.Covers old) {name : String}
    (hcontains : old.contains name = true) : new.contains name = true := by
  rw [OrderedMap.contains_eq_isSome, Option.isSome_iff_exists] at *
  obtain ⟨definition, hdefinition⟩ := hcontains
  obtain ⟨later, hlater, _⟩ := hcovers name definition hdefinition
  exact ⟨later, hlater⟩

variable {fillDefaults : Bool} {payload : Payload}

/-- A covering definition stores something for every payload that the covered one
stores something for. -/
private theorem storedValue_ne_error {name : String} {new old : FieldDefinition}
    (hcovers : new.Covers old) {stored? : Option FieldValue} {error : FieldError}
    (hstored : storedValue fillDefaults payload name old = .ok stored?) :
    storedValue fillDefaults payload name new ≠ .error error := by
  intro hfails
  cases hsubmitted : (payload.get? name).join with
  | some value =>
      have hvalue := Option.join_eq_some_iff.mp hsubmitted
      obtain ⟨stored, _, hconvert⟩ := convert_of_storedValue hvalue hstored
      rw [storedValue_of_submitted hvalue, hcovers.type value stored hconvert] at hfails
      cases hfails
  | none =>
      rw [storedValue_of_absent hsubmitted] at hstored hfails
      split at hfails
      · rename_i hrequired
        rw [if_pos (hcovers.required hrequired)] at hstored
        cases hstored
      · split at hfails <;> cases hfails

/-- A submitted value that both schemas store is stored by both alike. -/
private theorem same_stored {new old : Schema} (hcovers : new.Covers old)
    {values later : FieldValues} (hvalid : old.validate fillDefaults payload = .ok values)
    (hlater : new.validate fillDefaults payload = .ok later) {name : String} {value : FieldValue}
    (hsubmitted : payload.get? name = some (some value)) :
    ∃ stored, values.get? name = some stored ∧ later.get? name = some stored := by
  obtain ⟨hknown, hstored, _⟩ := validate_eq_ok hvalid
  obtain ⟨_, hstored', _⟩ := validate_eq_ok hlater
  have hname : old.contains name = true := by
    apply hknown
    rw [OrderedMap.contains_eq_isSome, hsubmitted]
    rfl
  rw [OrderedMap.contains_eq_isSome, Option.isSome_iff_exists] at hname
  obtain ⟨definition, hdefinition⟩ := hname
  obtain ⟨wider, hwider, hwide⟩ := hcovers name definition hdefinition
  obtain ⟨stored, hvalue, hconvert⟩ :=
    convert_of_storedValue hsubmitted (hstored name definition hdefinition)
  obtain ⟨again, hagain, hreconvert⟩ :=
    convert_of_storedValue hsubmitted (hstored' name wider hwider)
  rw [hwide.type value stored hconvert] at hreconvert
  cases hreconvert
  exact ⟨stored, hvalue, hagain⟩

/-- A covering schema rejects a payload that was valid only for the lack of a
field that it requires and that was not there before. -/
private theorem missing_of_error {new old : Schema} (hcovers : new.Covers old)
    {values : FieldValues} {error : FieldError}
    (hvalid : old.validate fillDefaults payload = .ok values)
    (hfails : new.validate fillDefaults payload = .error error) :
    ∃ name definition, error = .missingField name ∧ old.contains name = false ∧
      new.get? name = some definition ∧ definition.required = true := by
  obtain ⟨hknown, hstored, _⟩ := validate_eq_ok hvalid
  rcases validate_eq_error hfails with ⟨name, hname, hunknown, _⟩ | ⟨name, later, hlater, herror⟩
  · rw [hcovers.contains (hknown name hname)] at hunknown
    cases hunknown
  · cases hold : old.get? name with
    | some definition =>
        obtain ⟨wider, hwider, hwide⟩ := hcovers name definition hold
        rw [hlater] at hwider
        cases hwider
        exact absurd herror (storedValue_ne_error hwide (hstored name definition hold))
    | none =>
        have hlacks : old.contains name = false := by
          rw [OrderedMap.contains_eq_isSome, hold]
          rfl
        have habsent : (payload.get? name).join = none := by
          have hnone : payload.get? name = none := by
            rw [OrderedMap.get?_eq_none_iff, ← OrderedMap.contains_iff]
            intro hname
            rw [hknown name hname] at hlacks
            cases hlacks
          rw [hnone]
          rfl
        rw [storedValue_of_absent habsent] at herror
        split at herror
        · rename_i hrequired
          cases herror
          exact ⟨name, later, rfl, hlacks, hlater, hrequired⟩
        · split at herror <;> cases herror

/-- Values stay valid under a covering schema, up to a new required field. -/
theorem validate_of_covers {new old : Schema} (hcovers : new.Covers old) {values : FieldValues}
    (hvalid : old.validate fillDefaults payload = .ok values) :
    (∃ later, new.validate fillDefaults payload = .ok later ∧
        ∀ name value, payload.get? name = some (some value) →
          ∃ stored, values.get? name = some stored ∧ later.get? name = some stored) ∨
      ∃ name definition, new.validate fillDefaults payload = .error (.missingField name) ∧
        old.contains name = false ∧ new.get? name = some definition ∧
          definition.required = true := by
  cases hresult : new.validate fillDefaults payload with
  | ok later =>
      left
      refine ⟨later, rfl, ?_⟩
      exact fun name value hsubmitted => same_stored hcovers hvalid hresult hsubmitted
  | error error =>
      right
      obtain ⟨name, definition, rfl, hrest⟩ := missing_of_error hcovers hvalid hresult
      exact ⟨name, definition, rfl, hrest⟩

end WorkSchema.Schema
