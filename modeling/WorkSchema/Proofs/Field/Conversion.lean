import WorkSchema.Field.FieldType
import WorkSchema.Proofs.Field.Equality
import WorkSchema.Proofs.Outcome

/-!
When a value converts, and to what. A list converts element by element, an enum
converts what its base converts to an allowed value, and two values count as
the same exactly if both convert to equal stored forms or neither converts and
they are equal as they stand.
-/

namespace WorkSchema

namespace Kind

theorem conforms_iff {kind : Kind} {value : FieldValue} :
    kind.conforms value = true ↔ ∃ stored, kind.convert value = .ok stored := by
  unfold conforms
  cases kind.convert value <;> simp [Except.isOk, Except.toBool]

theorem not_conforms_iff {kind : Kind} {value : FieldValue} :
    kind.conforms value = false ↔ ∃ error, kind.convert value = .error error := by
  unfold conforms
  cases kind.convert value <;> simp [Except.isOk, Except.toBool]

/-- Whether a float conforms does not depend on which float it is. -/
private theorem conforms_float (kind : Kind) (x y : Binary64) :
    kind.conforms (.float x) = kind.conforms (.float y) := by
  cases kind <;> rfl

private theorem conforms_list (kind : Kind) (items : List FieldValue) :
    kind.conforms (.list items) = false := by
  cases kind <;> rfl

theorem conforms_of_equal {a b : FieldValue} (kind : Kind) (hab : a.equal b = true) :
    kind.conforms a = kind.conforms b := by
  cases a with
  | boolean value => rw [FieldValue.boolean_equal_iff.1 hab]
  | integer value => rw [FieldValue.integer_equal_iff.1 hab]
  | string value => rw [FieldValue.string_equal_iff.1 hab]
  | float x =>
      obtain ⟨y, rfl, _⟩ := FieldValue.float_equal_iff.1 hab
      exact conforms_float kind x y
  | list items =>
      obtain ⟨others, rfl, _⟩ := FieldValue.list_equal_iff.1 hab
      rw [conforms_list, conforms_list]

/-- A value conforms together with every value that counts as the same, so a
comparison is never between a stored form and a value as it stands. -/
theorem sameValue_iff {kind : Kind} {a b : FieldValue} :
    kind.sameValue a b = true ↔
      (∃ x y, kind.convert a = .ok x ∧ kind.convert b = .ok y ∧ x.equal y = true) ∨
      (kind.conforms a = false ∧ kind.conforms b = false ∧ a.equal b = true) := by
  unfold sameValue
  cases ha : kind.convert a with
  | ok x =>
      have hconforms : kind.conforms a = true := conforms_iff.2 ⟨x, ha⟩
      cases hb : kind.convert b with
      | ok y => simp [hconforms]
      | error error =>
          have hother : kind.conforms b = false := not_conforms_iff.2 ⟨error, hb⟩
          have hne : a.equal b = false := by
            rw [Bool.eq_false_iff]
            intro hab
            rw [conforms_of_equal kind hab, hother] at hconforms
            cases hconforms
          simp [hne]
  | error error =>
      have hconforms : kind.conforms a = false := not_conforms_iff.2 ⟨error, ha⟩
      simp only [hconforms, reduceCtorEq, false_and, exists_false, false_or, true_and]
      constructor
      · intro hab
        exact ⟨(conforms_of_equal kind hab).symm.trans hconforms, hab⟩
      · exact And.right

theorem conforms_of_sameValue {kind : Kind} {a b : FieldValue}
    (hsame : kind.sameValue a b = true) : kind.conforms a = kind.conforms b := by
  rcases sameValue_iff.1 hsame with ⟨x, y, ha, hb, _⟩ | ⟨ha, hb, _⟩
  · rw [conforms_iff.2 ⟨x, ha⟩, conforms_iff.2 ⟨y, hb⟩]
  · rw [ha, hb]

/-- What counts as the same as a value that converts, converts to something equal. -/
theorem convert_of_sameValue {kind : Kind} {a b y : FieldValue}
    (hsame : kind.sameValue a b = true) (hb : kind.convert b = .ok y) :
    ∃ x, kind.convert a = .ok x ∧ x.equal y = true := by
  rcases sameValue_iff.1 hsame with ⟨x, y', ha, hb', hxy⟩ | ⟨_, hnot, _⟩
  · rw [hb] at hb'
    cases hb'
    exact ⟨x, ha, hxy⟩
  · rw [conforms_iff.2 ⟨y, hb⟩] at hnot
    cases hnot

theorem sameValue_comm (kind : Kind) (a b : FieldValue) :
    kind.sameValue a b = kind.sameValue b a := by
  unfold sameValue
  cases kind.convert a <;> cases kind.convert b <;> exact FieldValue.equal_comm _ _

theorem sameValue_trans {kind : Kind} {a b c : FieldValue} (hab : kind.sameValue a b = true)
    (hbc : kind.sameValue b c = true) : kind.sameValue a c = true := by
  rw [sameValue_iff] at *
  rcases hab with ⟨x, y, ha, hb, hxy⟩ | ⟨ha, hb, hab⟩
  · rcases hbc with ⟨y', z, hb', hc, hyz⟩ | ⟨hb', _, _⟩
    · rw [hb] at hb'
      cases hb'
      exact Or.inl ⟨x, z, ha, hc, FieldValue.equal_trans hxy hyz⟩
    · rw [conforms_iff.2 ⟨y, hb⟩] at hb'
      cases hb'
  · rcases hbc with ⟨y, z, hb', _, _⟩ | ⟨_, hc, hbc⟩
    · rw [conforms_iff.2 ⟨y, hb'⟩] at hb
      cases hb
    · exact Or.inr ⟨ha, hc, FieldValue.equal_trans hab hbc⟩

theorem convert_eq_error {kind : Kind} {value : FieldValue} {error : FieldError}
    (hfails : kind.convert value = .error error) : error = .mismatch kind value := by
  unfold convert at hfails
  split at hfails
  case h_1 | h_2 | h_3 | h_4 | h_7 => cases hfails
  case h_5 | h_6 =>
    split at hfails <;> cases hfails
    rfl
  case h_8 =>
    cases hfails
    rfl

end Kind

namespace EnumType

theorem contains_iff {type : EnumType} {value : FieldValue} :
    type.contains value = true ↔
      ∃ allowed ∈ type.values, type.base.sameValue allowed value = true := by
  simp [contains]

/-- What counts as the same as something allowed is allowed. -/
theorem contains_of_sameValue {type : EnumType} {value other : FieldValue}
    (hcontains : type.contains value = true) (hsame : type.base.sameValue value other = true) :
    type.contains other = true := by
  obtain ⟨allowed, hallowed, hvalue⟩ := contains_iff.1 hcontains
  exact contains_iff.2 ⟨allowed, hallowed, Kind.sameValue_trans hvalue hsame⟩

/-- What is allowed conforms, if the values it is compared with do. -/
theorem conforms_of_contains {type : EnumType} {value : FieldValue}
    (hvalues : ∀ allowed ∈ type.values, type.base.conforms allowed = true)
    (hcontains : type.contains value = true) : type.base.conforms value = true := by
  obtain ⟨allowed, hallowed, hsame⟩ := contains_iff.1 hcontains
  rw [← Kind.conforms_of_sameValue hsame, hvalues allowed hallowed]

/-- What counts as the same as an allowed value is allowed by whatever allows that value. -/
theorem contains_of_all {a b : EnumType} (hbase : a.base = b.base)
    (hall : ∀ allowed ∈ b.values, a.contains allowed = true) {value : FieldValue}
    (hcontains : b.contains value = true) : a.contains value = true := by
  obtain ⟨middle, hmiddle, hsecond⟩ := contains_iff.1 hcontains
  obtain ⟨allowed, hallowed, hfirst⟩ := contains_iff.1 (hall middle hmiddle)
  rw [← hbase] at hsecond
  exact contains_iff.2 ⟨allowed, hallowed, Kind.sameValue_trans hfirst hsecond⟩

theorem convert_iff {type : EnumType} {value stored : FieldValue} :
    type.convert value = .ok stored ↔
      type.base.convert value = .ok stored ∧ type.contains stored = true := by
  simp only [convert, Outcome.bind_eq_ok]
  constructor
  · rintro ⟨converted, hbase, hresult⟩
    split at hresult
    · rename_i hcontains
      cases hresult
      exact ⟨hbase, hcontains⟩
    · cases hresult
  · rintro ⟨hbase, hcontains⟩
    exact ⟨stored, hbase, by rw [if_pos hcontains]; rfl⟩

end EnumType

namespace FieldType

theorem convert_list_iff {kind : Kind} {component : FieldType} {value stored : FieldValue} :
    (FieldType.list kind component).convert value = .ok stored ↔
      ∃ items results, value = .list items ∧ stored = .list results ∧
        List.Forall₂ (fun item result => component.convert item = .ok result) items results := by
  cases value with
  | list items =>
      simp only [convert, FieldValue.items?, Outcome.bind_eq_ok, Outcome.mapM_eq_ok]
      constructor
      · rintro ⟨results, hall, hresult⟩
        cases hresult
        exact ⟨items, results, rfl, rfl, hall⟩
      · rintro ⟨_, results, hitems, rfl, hall⟩
        cases hitems
        exact ⟨results, hall, rfl⟩
  | _ => simp [convert, FieldValue.items?]

/-- A value that does not convert is the fault of the value, even where the type is
malformed. -/
theorem kind_of_convert_error {type : FieldType} {value : FieldValue} {error : FieldError}
    (hfails : type.convert value = .error error) : error.kind = .badParameter := by
  induction type generalizing value with
  | simple kind =>
      rw [Kind.convert_eq_error hfails]
      rfl
  | enum type =>
      rcases Outcome.bind_eq_error.mp hfails with hbase | ⟨stored, _, hresult⟩
      · rw [Kind.convert_eq_error hbase]
        rfl
      · split at hresult <;> cases hresult
        rfl
  | list kind component ih =>
      unfold convert at hfails
      split at hfails
      · rcases Outcome.bind_eq_error.mp hfails with hitems | ⟨_, _, hresult⟩
        · obtain ⟨item, _, hitem⟩ := Outcome.mapM_eq_error hitems
          exact ih hitem
        · cases hresult
      · cases hfails
        rfl

end FieldType

end WorkSchema
