import WorkSchema.Proofs.Field.Stability

/-!
Setting a default goes by the rule of conversion: the values that can be made the default are
those that the enum accepts, and the default is kept as conversion stores it. What an enum
allows does not depend on its default, so setting one can repair an enum that is valid but for
its default, and setting it again, in either form, changes nothing.
-/

namespace WorkSchema

namespace EnumType

variable {type other : EnumType} {value stored : FieldValue} {error : FieldError}

theorem setDefault_some (type : EnumType) (value : FieldValue) :
    type.setDefault (some value) =
      (type.convert value).map fun stored => {type with default? := some stored} := by
  simp only [setDefault, convert, bind, Except.bind]
  cases type.base.convert value with
  | error error => rfl
  | ok stored =>
      simp only
      split <;> rfl

theorem setDefault_eq_ok :
    type.setDefault (some value) = .ok other ↔
      ∃ stored, type.convert value = .ok stored ∧ other = {type with default? := some stored} := by
  rw [setDefault_some]
  cases type.convert value <;> simp [Except.map, eq_comm]

theorem setDefault_eq_error :
    type.setDefault (some value) = .error error ↔ type.convert value = .error error := by
  rw [setDefault_some]
  cases type.convert value <;> simp [Except.map]

/-- The value that the default was set to is accepted as before, and stored as that default. -/
theorem setDefault_again (hset : type.setDefault (some value) = .ok other) :
    other.setDefault (some value) = .ok other := by
  obtain ⟨stored, hconvert, rfl⟩ := setDefault_eq_ok.1 hset
  exact setDefault_eq_ok.2 ⟨stored, hconvert, rfl⟩

/-- A valid enum is one that is valid without its default and allows it. -/
theorem validate_default_iff {default? : Option FieldValue} :
    ({type with default?} : EnumType).validate = .ok () ↔
      ({type with default? := none} : EnumType).validate = .ok () ∧
        ∀ value, default? = some value → type.contains value = true := by
  rw [validate_eq_ok, validate_eq_ok]
  constructor
  · rintro ⟨hsome, hkind, hcomposite, hconform, hdefault⟩
    exact ⟨⟨hsome, hkind, hcomposite, hconform, nofun⟩, hdefault⟩
  · rintro ⟨⟨hsome, hkind, hcomposite, hconform, _⟩, hdefault⟩
    exact ⟨hsome, hkind, hcomposite, hconform, hdefault⟩

theorem validate_cleared (hvalid : type.validate = .ok ()) :
    ({type with default? := none} : EnumType).validate = .ok () := by
  have hdeclared : ({type with default? := type.default?} : EnumType).validate = .ok () := hvalid
  exact (validate_default_iff.1 hdeclared).1

/-- An enum with a default that was set is valid if nothing but its default could be wrong. -/
theorem validate_setDefault (hset : type.setDefault (some value) = .ok other)
    (hvalid : ({type with default? := none} : EnumType).validate = .ok ()) :
    other.validate = .ok () := by
  obtain ⟨stored, hconvert, rfl⟩ := setDefault_eq_ok.1 hset
  refine validate_default_iff.2 ⟨hvalid, ?_⟩
  rintro _ ⟨⟩
  exact (convert_iff.1 hconvert).2

/-- The default of a valid enum that was set can be set as it is kept. -/
theorem setDefault_stored (hset : type.setDefault (some value) = .ok other)
    (hconvert : type.convert value = .ok stored) (hvalid : other.validate = .ok ()) :
    other.setDefault (some stored) = .ok other := by
  obtain ⟨stored', hconvert', rfl⟩ := setDefault_eq_ok.1 hset
  rw [hconvert] at hconvert'
  cases hconvert'
  exact setDefault_eq_ok.2 ⟨stored, convert_stored hvalid hconvert, rfl⟩

/-- A default can be set exactly to what the enum, malformed or not, accepts, with the error of
conversion otherwise. The enum then differs in nothing but its default, which is allowed and
in stored form; it is valid if it was valid before, or would have been without a default; and
setting the same default again changes nothing. -/
theorem setDefault_consistent (type : EnumType) :
    (∀ value error,
      type.setDefault (some value) = .error error ↔ type.convert value = .error error) ∧
    (∀ value other, type.setDefault (some value) = .ok other ↔
      ∃ stored, type.convert value = .ok stored ∧ other = {type with default? := some stored}) ∧
    (∀ value stored other, type.convert value = .ok stored →
      type.setDefault (some value) = .ok other →
        other.contains stored = true ∧ other.setDefault (some value) = .ok other ∧
        (type.validate = .ok () ∨ ({type with default? := none} : EnumType).validate = .ok () →
          other.validate = .ok () ∧ other.setDefault (some stored) = .ok other)) ∧
    type.setDefault none = .ok {type with default? := none} ∧
    (type.validate = .ok () → ({type with default? := none} : EnumType).validate = .ok ()) := by
  refine ⟨fun _ _ => setDefault_eq_error, fun _ _ => setDefault_eq_ok, ?_, rfl, validate_cleared⟩
  intro value stored other hconvert hset
  refine ⟨?_, setDefault_again hset, ?_⟩
  · obtain ⟨_, _, rfl⟩ := setDefault_eq_ok.1 hset
    exact (convert_iff.1 hconvert).2
  · intro hvalid
    have hcleared : ({type with default? := none} : EnumType).validate = .ok () :=
      hvalid.elim validate_cleared id
    have hother := validate_setDefault hset hcleared
    exact ⟨hother, setDefault_stored hset hconvert hother⟩

/-- An enum of floats with a default that it does not allow is repaired by the integer 1, which
is kept as a float. -/
theorem setDefault_consistent_repaired :
    let type : EnumType :=
      {base := .float, values := [.float (.ofInt 1), .float (.ofRatio false 5 2)],
        default? := some (.integer 7)}
    let cleared : EnumType := {type with default? := none}
    let other : EnumType := {type with default? := some (.float (.ofInt 1))}
    type.validate = .error (.invalidType (.defaultNotAllowed (.integer 7))) ∧
      type.convert (.integer 1) = .ok (.float (.ofInt 1)) ∧
      type.setDefault (some (.integer 1)) = .ok other ∧ cleared.validate = .ok () ∧
      other.contains (.float (.ofInt 1)) = true ∧
      other.setDefault (some (.integer 1)) = .ok other ∧ other.validate = .ok () ∧
      other.setDefault (some (.float (.ofInt 1))) = .ok other := by
  intro type cleared other
  have hconvert : type.convert (.integer 1) = .ok (.float (.ofInt 1)) := rfl
  have hset : type.setDefault (some (.integer 1)) = .ok other := rfl
  have hcleared : cleared.validate = .ok () := rfl
  obtain ⟨_, _, hsuccess, _, _⟩ := setDefault_consistent type
  obtain ⟨hcontains, hagain, hvalid⟩ := hsuccess (.integer 1) _ other hconvert hset
  obtain ⟨hother, hstored⟩ := hvalid (.inr hcleared)
  exact ⟨rfl, hconvert, hset, hcleared, hcontains, hagain, hother, hstored⟩

end EnumType

end WorkSchema
