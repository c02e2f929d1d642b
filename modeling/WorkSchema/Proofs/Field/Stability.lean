import WorkSchema.Proofs.Field.StoredForm

/-!
Which stored values are accepted again, and which defaults a type accepts itself. What a
valid enum stores is one of its own values in stored form, and a valid enum lists only
values that its base accepts; so an enum never stores what it would refuse later. That
leaves instants outside of enums, which may leave the years of four digits when they are
moved to UTC. An enum refuses its own default if it is such an instant, or a NaN, which
no comparison finds in any list.
-/

namespace WorkSchema

namespace EnumType

variable {type : EnumType} {value stored : FieldValue}

/-- An enum with valid values converts what it stores to itself. -/
theorem convert_stored (hvalid : type.validate = .ok ())
    (hconvert : type.convert value = .ok stored) : type.convert stored = .ok stored := by
  obtain ⟨hbase, hcontains⟩ := convert_iff.1 hconvert
  obtain ⟨_, _, _, hconform, _⟩ := validate_eq_ok.1 hvalid
  have hconforms : type.base.conforms stored = true := conforms_of_contains hconform hcontains
  obtain ⟨again, hagain⟩ := Kind.conforms_iff.1 hconforms
  rw [Kind.convert_again hbase hagain] at hagain
  exact convert_iff.2 ⟨hagain, hcontains⟩

theorem keepsYears_of_convert (hvalid : type.validate = .ok ())
    (hconvert : type.convert value = .ok stored) : type.base.KeepsYears value := by
  have hagain := convert_stored hvalid hconvert
  exact (Kind.convert_stored_iff (convert_iff.1 hconvert).1).1 (convert_iff.1 hagain).1

end EnumType

namespace FieldType

/-- Whether a type takes any instant as a value, or lists of them. -/
def TakesInstants : FieldType → Prop
  | simple kind => kind = .instant
  | enum _ => False
  | list _ component => component.TakesInstants

theorem validate_list {kind : Kind} {component : FieldType}
    (hvalid : (list kind component).validate = .ok ()) : component.validate = .ok () := by
  unfold validate at hvalid
  split at hvalid
  · exact hvalid
  · cases hvalid

private theorem exists_stored {component : FieldType} {items results : List FieldValue}
    (hall : List.Forall₂ (fun item result => component.convert item = .ok result) items results)
    {item : FieldValue} (hmem : item ∈ items) : ∃ result, component.convert item = .ok result := by
  induction hall with
  | nil => cases hmem
  | cons hitem _ ih =>
      rcases List.mem_cons.1 hmem with rfl | hrest
      · exact ⟨_, hitem⟩
      · exact ih hrest

/-- The values of an enum keep their years, so only instants elsewhere have to. -/
private theorem keepsYears_iff {type : FieldType} {value stored : FieldValue}
    (hvalid : type.validate = .ok ()) (hconvert : type.convert value = .ok stored) :
    type.leaf.KeepsYears value ↔ (type.TakesInstants → Kind.instant.KeepsYears value) := by
  induction type generalizing value stored with
  | simple kind =>
      constructor
      · rintro hkeeps rfl
        exact hkeeps
      · rintro hkeeps rfl
        exact hkeeps rfl rfl
  | enum type => exact iff_of_true (EnumType.keepsYears_of_convert hvalid hconvert) False.elim
  | list kind component ih =>
      obtain ⟨items, results, rfl, rfl, hall⟩ := convert_list_iff.1 hconvert
      have hitem : ∀ item ∈ items, component.leaf.KeepsYears item ↔
          (component.TakesInstants → Kind.instant.KeepsYears item) := by
        intro item hmem
        obtain ⟨result, hresult⟩ := exists_stored hall hmem
        exact ih (validate_list hvalid) hresult
      simp only [leaf, TakesInstants, keepsYears_list_iff]
      constructor
      · intro hkeeps htakes item hmem
        exact (hitem item hmem).1 (hkeeps item hmem) htakes
      · intro hkeeps item hmem
        exact (hitem item hmem).2 fun htakes => hkeeps htakes item hmem

/-- What a valid type has stored converts to itself or is refused, and it converts to
itself exactly if no instant that the type took leaves the years of four digits. -/
theorem convert_twice_iff {type : FieldType} {value stored : FieldValue}
    (hvalid : type.validate = .ok ()) (hconvert : type.convert value = .ok stored) :
    (∀ again, type.convert stored = .ok again → again = stored) ∧
      (type.convert stored = .ok stored ↔
        (type.TakesInstants → ∀ text ∈ value.texts, ∀ t, Instant.ofText? text = some t →
          t.FourDigitYear)) := by
  refine ⟨fun again hagain => convert_again hconvert hagain, ?_⟩
  rw [convert_stored_iff hconvert, keepsYears_iff hvalid hconvert]
  constructor
  · exact fun hkeeps htakes => hkeeps htakes rfl
  · exact fun hkeeps htakes _ => hkeeps htakes

theorem convert_twice_iff_noon :
    let type := listOf (.simple .instant)
    let value := FieldValue.list [.string "2024-06-01T12:00:00+02:00"]
    let stored := FieldValue.list [.string "2024-06-01T10:00:00Z"]
    type.validate = .ok () ∧ type.convert value = .ok stored ∧
      (∀ again, type.convert stored = .ok again → again = stored) ∧
      (type.convert stored = .ok stored ↔
        (type.TakesInstants → ∀ text ∈ value.texts, ∀ t, Instant.ofText? text = some t →
          t.FourDigitYear)) := by
  intro type value stored
  have hvalid : type.validate = .ok () := rfl
  have hconvert : type.convert value = .ok stored := rfl
  exact ⟨hvalid, hconvert, convert_twice_iff hvalid hconvert⟩

/-- Half an hour before the end of the year 9999, one hour west of Greenwich. -/
def lastHour : FieldValue := .string "9999-12-31T23:30:00-01:00"

/-- The same instant as it is stored. -/
def lastHourStored : FieldValue := .string "+10000-01-01T00:30:00Z"

private theorem convert_lastHour : Kind.instant.convert lastHour = .ok lastHourStored := rfl

private theorem convert_lastHourStored :
    Kind.instant.convert lastHourStored = .error (.mismatch .instant lastHourStored) := rfl

/-- The text that such an instant is stored as is no instant. -/
theorem lastHour_refused :
    (simple .instant).validate = .ok () ∧
      (simple .instant).convert lastHour = .ok lastHourStored ∧
      (simple .instant).convert lastHourStored = .error (.mismatch .instant lastHourStored) ∧
      (simple .instant).convert lastHourStored ≠ .ok lastHourStored := by
  refine ⟨rfl, convert_lastHour, convert_lastHourStored, ?_⟩
  intro hsame
  rw [convert, convert_lastHourStored] at hsame
  cases hsame

end FieldType

namespace EnumType

variable {type : EnumType} {value stored : FieldValue}

/-- What converts is not allowed if it is a NaN. -/
theorem hasNaN_of_contains (hcontains : type.contains value = true)
    (hstored : type.base.convert value = .ok stored) : value.hasNaN = false := by
  obtain ⟨allowed, _, hsame⟩ := contains_iff.1 hcontains
  obtain ⟨other, _, hequal⟩ := Kind.convert_of_sameValue hsame hstored
  have hback : stored.equal other = true := (FieldValue.equal_comm stored other).trans hequal
  have hself : stored.equal stored = true := FieldValue.equal_trans hback hequal
  rw [← Kind.hasNaN_of_convert hstored]
  simpa [FieldValue.equal_self] using hself

/-- A default is allowed unless it is a NaN. -/
theorem contains_default_iff (hvalid : type.validate = .ok ())
    (hdefault : type.effectiveDefault? = some value) :
    type.contains value = true ↔ value.hasNaN = false := by
  obtain ⟨⟨stored, hstored⟩, hallowed⟩ := conforms_default hvalid hdefault
  constructor
  · exact fun hcontains => hasNaN_of_contains hcontains hstored
  · intro hnumber
    exact hallowed stored hstored ((Kind.hasNaN_of_convert hstored).trans hnumber)

/-- What is allowed is allowed in stored form as well, if that converts to itself. -/
theorem contains_stored (hcontains : type.contains value = true)
    (hstored : type.base.convert value = .ok stored)
    (hagain : type.base.convert stored = .ok stored) (hnumber : stored.hasNaN = false) :
    type.contains stored = true := by
  have hconforms : type.base.conforms stored = true := Kind.conforms_iff.2 ⟨stored, hagain⟩
  exact contains_of_sameValue hcontains (Kind.sameValue_stored hstored hconforms hnumber)

/-- A valid enum has a default. It allows the default unless that is a NaN, and it
accepts the default exactly if moreover no instant in it leaves the years of four
digits. -/
theorem default_accepted_iff (hvalid : type.validate = .ok ()) :
    ∃ value, type.effectiveDefault? = some value ∧
      (type.contains value = true ↔ value.hasNaN = false) ∧
      ((∃ stored, type.convert value = .ok stored ∧ type.contains stored = true) ↔
        value.hasNaN = false ∧ type.base.KeepsYears value) := by
  obtain ⟨value, hdefault⟩ : ∃ value, type.effectiveDefault? = some value := by
    obtain ⟨hsome, _⟩ := validate_eq_ok.1 hvalid
    rw [← Option.isSome_iff_exists, effectiveDefault?, Option.isSome_or, Bool.or_eq_true]
    exact .inr (by simpa using hsome)
  have hallowed := contains_default_iff hvalid hdefault
  refine ⟨value, hdefault, hallowed, ?_⟩
  obtain ⟨⟨stored, hstored⟩, _⟩ := conforms_default hvalid hdefault
  constructor
  · rintro ⟨stored', hconvert, hcontains⟩
    have hagain := convert_stored hvalid hconvert
    have hnumber := hasNaN_of_contains hcontains (convert_iff.1 hagain).1
    rw [Kind.hasNaN_of_convert (convert_iff.1 hconvert).1] at hnumber
    exact ⟨hnumber, keepsYears_of_convert hvalid hconvert⟩
  · rintro ⟨hnumber, hkeeps⟩
    have hagain := (Kind.convert_stored_iff hstored).2 hkeeps
    have hcontains := contains_stored (hallowed.2 hnumber) hstored hagain
      ((Kind.hasNaN_of_convert hstored).trans hnumber)
    exact ⟨stored, convert_iff.2 ⟨hstored, hcontains⟩, hcontains⟩

theorem default_accepted_iff_state :
    let type : EnumType := {base := .string, values := [.string "new", .string "done"]}
    type.validate = .ok () ∧
      ∃ value, type.effectiveDefault? = some value ∧
        (type.contains value = true ↔ value.hasNaN = false) ∧
        ((∃ stored, type.convert value = .ok stored ∧ type.contains stored = true) ↔
          value.hasNaN = false ∧ type.base.KeepsYears value) := by
  intro type
  have hvalid : type.validate = .ok () := rfl
  exact ⟨hvalid, default_accepted_iff hvalid⟩

/-- An enum of one instant, which leaves the years of four digits. -/
def ofLastHour : EnumType where
  base := .instant
  values := [FieldType.lastHour]

/-- An enum of floats, the first of which is no number. -/
def ofNaN : EnumType where
  base := .float
  values := [.float .nan, .float (.ofInt 1)]

private theorem validate_ofNaN : ofNaN.validate = .ok () := by
  refine validate_eq_ok.2 ⟨rfl, rfl, rfl, ?_, fun value hdefault => nomatch hdefault⟩
  intro value hmem
  have hfloat : ∃ x, value = .float x := by
    simp only [ofNaN, List.mem_cons, List.not_mem_nil, or_false] at hmem
    rcases hmem with rfl | rfl
    · exact ⟨_, rfl⟩
    · exact ⟨_, rfl⟩
  obtain ⟨x, rfl⟩ := hfloat
  rfl

private theorem contains_ofNaN : ofNaN.contains (.float .nan) = false := by
  have hnan : (FieldValue.float .nan).hasNaN = true := by decide +kernel
  have hcontains := contains_default_iff validate_ofNaN rfl
  rw [Bool.eq_false_iff]
  intro hallowed
  rw [hcontains.1 hallowed] at hnan
  cases hnan

/-- The one refuses a default that it allows, and the other does not even allow its
default. -/
theorem default_refused :
    (ofLastHour.validate = .ok () ∧
      ofLastHour.effectiveDefault? = some FieldType.lastHour ∧
      ofLastHour.contains FieldType.lastHour = true ∧
      ∀ stored, ofLastHour.convert FieldType.lastHour ≠ .ok stored) ∧
    ofNaN.validate = .ok () ∧
      ofNaN.effectiveDefault? = some (.float .nan) ∧
      ofNaN.contains (.float .nan) = false ∧
      ∀ stored, ofNaN.convert (.float .nan) ≠ .ok stored := by
  have hvalid : ofLastHour.validate = .ok () := rfl
  have hcontains : ofLastHour.contains FieldType.lastHour = true :=
    (contains_default_iff hvalid rfl).2 rfl
  refine ⟨⟨hvalid, rfl, hcontains, ?_⟩, validate_ofNaN, rfl, contains_ofNaN, ?_⟩
  · intro stored hstored
    have hfirst := (convert_iff.1 hstored).1
    have hagain := (convert_iff.1 (convert_stored hvalid hstored)).1
    rw [ofLastHour, FieldType.convert_lastHour] at hfirst
    cases hfirst
    rw [ofLastHour, FieldType.convert_lastHourStored] at hagain
    cases hagain
  · intro stored hstored
    obtain ⟨hbase, hallowed⟩ := convert_iff.1 hstored
    cases hbase
    rw [contains_ofNaN] at hallowed
    cases hallowed

end EnumType

end WorkSchema
