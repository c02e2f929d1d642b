import WorkSchema.Proofs.Field.Stability

/-!
Which values count as the same. Sameness is symmetric and transitive for every kind, also over
values that the kind does not accept: a value that converts never counts as the same as one that
does not, so a chain of comparisons is either between stored forms throughout or between values
as they stand. It is reflexive but for NaN. A value counts as the same as its stored form unless
that is refused itself, as the text of an instant is whose year in UTC does not have four digits.
-/

namespace WorkSchema

namespace Kind

variable {kind : Kind}

theorem sameValue_self_iff {value : FieldValue} :
    kind.sameValue value value = true ↔ value.hasNaN = false := by
  rw [sameValue_self, Bool.not_eq_true']

/-- A value counts as the same as what it is stored as exactly if that is accepted as well, and
no NaN is in it. -/
theorem sameValue_stored_iff {value stored : FieldValue}
    (hconvert : kind.convert value = .ok stored) :
    kind.sameValue value stored = true ↔
      kind.conforms stored = true ∧ value.hasNaN = false := by
  have hkept : stored.hasNaN = value.hasNaN := hasNaN_of_convert hconvert
  constructor
  · intro hsame
    have hconforms : kind.conforms value = true := conforms_iff.2 ⟨stored, hconvert⟩
    have hback : kind.sameValue stored value = true := (sameValue_comm _ _ _).trans hsame
    have hself : kind.sameValue value value = true := sameValue_trans hsame hback
    exact ⟨(conforms_of_sameValue hsame).symm.trans hconforms, sameValue_self_iff.1 hself⟩
  · rintro ⟨hconforms, hnumber⟩
    exact sameValue_stored hconvert hconforms (hkept.trans hnumber)

/-- Sameness is symmetric and transitive, and reflexive where there is no NaN. Values that count
as the same conform together, and a value counts as the same as its stored form exactly if that
conforms and there is no NaN in it. -/
theorem sameValue_equivalence (kind : Kind) (a b c : FieldValue) :
    kind.sameValue a b = kind.sameValue b a ∧
    (kind.sameValue a b = true → kind.sameValue b c = true → kind.sameValue a c = true) ∧
    (kind.sameValue a a = true ↔ a.hasNaN = false) ∧
    (kind.sameValue a b = true → kind.conforms a = kind.conforms b) ∧
    ∀ stored, kind.convert a = .ok stored →
      (kind.sameValue a stored = true ↔ kind.conforms stored = true ∧ a.hasNaN = false) :=
  ⟨sameValue_comm kind a b, sameValue_trans, sameValue_self_iff, conforms_of_sameValue,
    fun _ => sameValue_stored_iff⟩

/-- Noon in Berlin, the same in London and in Athens, and the text that all three are stored as.
The last hour of the year 9999 does not count as the same as the text that it is stored as. -/
theorem sameValue_equivalence_noon :
    let berlin := FieldValue.string "2024-06-01T12:00:00+02:00"
    let london := FieldValue.string "2024-06-01T11:00:00+01:00"
    let athens := FieldValue.string "2024-06-01T13:00:00+03:00"
    let noon := FieldValue.string "2024-06-01T10:00:00Z"
    (Kind.instant.sameValue berlin london = true ∧ Kind.instant.sameValue london athens = true ∧
      Kind.instant.sameValue berlin athens = true) ∧
    Kind.instant.conforms berlin = Kind.instant.conforms london ∧
    (Kind.instant.convert berlin = .ok noon ∧ Kind.instant.sameValue berlin noon = true) ∧
    Kind.instant.convert FieldType.lastHour = .ok FieldType.lastHourStored ∧
      Kind.instant.sameValue FieldType.lastHour FieldType.lastHourStored = false := by
  intro berlin london athens noon
  have hfirst : Kind.instant.sameValue berlin london = true := by decide +kernel
  have hsecond : Kind.instant.sameValue london athens = true := by decide +kernel
  have hnoon : Kind.instant.convert berlin = .ok noon := rfl
  have hagain : Kind.instant.conforms noon = true := by decide +kernel
  have hlast : Kind.instant.convert FieldType.lastHour = .ok FieldType.lastHourStored := rfl
  have hrefused : Kind.instant.conforms FieldType.lastHourStored = false := by decide +kernel
  obtain ⟨_, htrans, _, hconform, hstored⟩ :=
    sameValue_equivalence .instant berlin london athens
  obtain ⟨_, _, _, _, hlater⟩ :=
    sameValue_equivalence .instant FieldType.lastHour FieldType.lastHourStored athens
  refine ⟨⟨hfirst, hsecond, htrans hfirst hsecond⟩, hconform hfirst,
    ⟨hnoon, (hstored noon hnoon).2 ⟨hagain, rfl⟩⟩, hlast, ?_⟩
  rw [Bool.eq_false_iff]
  intro hsame
  exact absurd ((hlater _ hlast).1 hsame).1 (Bool.eq_false_iff.1 hrefused)

end Kind

end WorkSchema
