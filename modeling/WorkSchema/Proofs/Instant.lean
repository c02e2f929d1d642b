import Mathlib.Data.List.TakeWhile
import WorkSchema.Instant
import WorkSchema.Proofs.Text.Digits

/-!
The notation of instants, read and written. What is read is a valid instant, and
a valid instant that is written is read back, but only if its year in UTC has
four digits: the notation has no other years, so moving an instant to UTC can
move it out of what can be read.
-/

namespace WorkSchema

namespace CivilDate

theorem daysInMonth_bounds (year : Int) (month : Nat) :
    28 ≤ daysInMonth year month ∧ daysInMonth year month ≤ 31 := by
  unfold daysInMonth
  split
  · split <;> omega
  · split <;> omega

theorem isValid_iff (date : CivilDate) :
    date.isValid = true ↔
      (1 ≤ date.month ∧ date.month ≤ 12) ∧
        1 ≤ date.day ∧ date.day ≤ daysInMonth date.year date.month := by
  simp [isValid, and_assoc]

theorem isValid_next {date : CivilDate} (hvalid : date.isValid = true) :
    date.next.isValid = true := by
  rw [isValid_iff] at *
  unfold next
  split
  · exact ⟨hvalid.1, by simp, by assumption⟩
  · split
    · have hdays := (daysInMonth_bounds date.year (date.month + 1)).1
      exact ⟨⟨by simp, by assumption⟩, by simp, by simp; omega⟩
    · have hdays := (daysInMonth_bounds (date.year + 1) 1).1
      exact ⟨by simp, by simp, by simp; omega⟩

theorem isValid_previous {date : CivilDate} (hvalid : date.isValid = true) :
    date.previous.isValid = true := by
  rw [isValid_iff] at *
  unfold previous
  split
  · exact ⟨hvalid.1, by simp; omega, by simp; omega⟩
  · split
    · have hdays := (daysInMonth_bounds date.year (date.month - 1)).1
      exact ⟨⟨by simp; omega, by simp; omega⟩, by simp; omega, by simp⟩
    · exact ⟨by simp, by simp, by simp [daysInMonth]⟩

end CivilDate

namespace Instant

/-- An instant that a clock can show, leap seconds included. -/
structure Valid (t : Instant) : Prop where
  date : t.date.isValid = true
  minuteOfDay : t.minuteOfDay < minutesPerDay
  second : t.second ≤ 60
  nanosecond : t.nanosecond < 10 ^ 9

/-- Whether the year in UTC is one that the notation can write with four digits. -/
def FourDigitYear (t : Instant) : Prop := 0 ≤ t.date.year ∧ t.date.year ≤ 9999

instance (t : Instant) : Decidable t.FourDigitYear :=
  inferInstanceAs (Decidable (0 ≤ t.date.year ∧ t.date.year ≤ 9999))

/-- Moving by less than a day leads to a valid date and a minute of it. -/
theorem shiftBack_valid {date : CivilDate} {minute : Nat} {offset : Int}
    (hdate : date.isValid = true) (hminute : minute < minutesPerDay)
    (hoffset : offset.natAbs < minutesPerDay) :
    (shiftBack date minute offset).1.isValid = true ∧
      (shiftBack date minute offset).2 < minutesPerDay := by
  have hday : minutesPerDay = 1440 := rfl
  simp only [shiftBack]
  split
  · exact ⟨CivilDate.isValid_previous hdate, by omega⟩
  · split
    · exact ⟨hdate, by omega⟩
    · exact ⟨CivilDate.isValid_next hdate, by omega⟩

private theorem signedOffset_bound {factor : Int} (hfactor : factor.natAbs = 1)
    {text after : List Char} {offset : Int}
    (hread : (do
      let (hour, rest) ← Digits.take? 2 text
      let rest ← skip? [':'] rest
      let (minute, rest) ← Digits.take? 2 rest
      if minute < 60 ∧ hour < 24 then some (factor * (60 * hour + minute), rest) else none) =
        some (offset, after)) : offset.natAbs < minutesPerDay := by
  simp only [bind, Option.bind_eq_some_iff] at hread
  obtain ⟨⟨hour, _⟩, _, _, _, ⟨minute, _⟩, _, hresult⟩ := hread
  split at hresult
  · rename_i hrange
    have hday : minutesPerDay = 1440 := rfl
    cases hresult
    rw [Int.natAbs_mul, hfactor]
    omega
  · cases hresult

/-- An offset is shorter than a day. -/
theorem offset?_bound {text rest : List Char} {offset : Int}
    (hread : offset? text = some (offset, rest)) : offset.natAbs < minutesPerDay := by
  unfold offset? at hread
  split at hread
  · cases hread
    decide
  · cases hread
    decide
  · simp only [bind] at hread
    split at hread
    · exact signedOffset_bound (by decide) hread
    · split at hread
      · exact signedOffset_bound (by decide) hread
      · cases hread
  · cases hread

theorem fraction?_bound {text rest : List Char} {nanosecond : Nat}
    (hread : fraction? text = some (nanosecond, rest)) : nanosecond < 10 ^ 9 := by
  unfold fraction? at hread
  split at hread
  · rename_i rest'
    simp only at hread
    split at hread
    · cases hread
    · cases hread
      have hkept : ((rest'.takeWhile Char.isDigit).take 9).all Char.isDigit = true := by
        rw [List.all_eq_true]
        intro c hc
        exact List.mem_takeWhile_imp (List.mem_of_mem_take hc)
      have hdigits : ((rest'.takeWhile Char.isDigit).take 9 ++
          List.replicate (9 - ((rest'.takeWhile Char.isDigit).take 9).length) '0').all
            Char.isDigit = true := by
        rw [List.all_append, hkept]
        simp
      have hvalue := Digits.value_lt hdigits
      have hlength : ((rest'.takeWhile Char.isDigit).take 9).length ≤ 9 := List.length_take_le 9 _
      rw [List.length_append, List.length_replicate, Nat.add_sub_cancel' hlength] at hvalue
      exact hvalue
  · cases hread
    decide

/-- What is read is a valid instant. -/
theorem valid_of_ofChars? {text : List Char} {t : Instant} (hread : ofChars? text = some t) :
    t.Valid := by
  unfold ofChars? at hread
  obtain ⟨⟨year, _⟩, _, hread⟩ := Option.bind_eq_some_iff.mp hread
  obtain ⟨_, _, hread⟩ := Option.bind_eq_some_iff.mp hread
  obtain ⟨⟨month, _⟩, _, hread⟩ := Option.bind_eq_some_iff.mp hread
  obtain ⟨_, _, hread⟩ := Option.bind_eq_some_iff.mp hread
  obtain ⟨⟨day, _⟩, _, hread⟩ := Option.bind_eq_some_iff.mp hread
  obtain ⟨_, _, hread⟩ := Option.bind_eq_some_iff.mp hread
  obtain ⟨⟨hour, _⟩, _, hread⟩ := Option.bind_eq_some_iff.mp hread
  obtain ⟨_, _, hread⟩ := Option.bind_eq_some_iff.mp hread
  obtain ⟨⟨minute, _⟩, _, hread⟩ := Option.bind_eq_some_iff.mp hread
  obtain ⟨_, _, hread⟩ := Option.bind_eq_some_iff.mp hread
  obtain ⟨⟨second, _⟩, _, hread⟩ := Option.bind_eq_some_iff.mp hread
  obtain ⟨⟨nanosecond, _⟩, hfraction, hread⟩ := Option.bind_eq_some_iff.mp hread
  obtain ⟨⟨offset, _⟩, hoffset, hresult⟩ := Option.bind_eq_some_iff.mp hread
  dsimp only at hresult
  split at hresult
  · rename_i hvalid
    obtain ⟨_, hdate, hhour, hminute, hsecond⟩ := hvalid
    cases hresult
    have hday : 60 * hour + minute < minutesPerDay := by
      have hday : minutesPerDay = 1440 := rfl
      omega
    obtain ⟨hmoved, htime⟩ := shiftBack_valid hdate hday (offset?_bound hoffset)
    exact ⟨hmoved, htime, hsecond, fraction?_bound hfraction⟩
  · cases hresult

@[simp] theorem skip?_cons {spellings : List Char} {c : Char} (hspelling : c ∈ spellings)
    (rest : List Char) : skip? spellings (c :: rest) = some rest := by
  simp [skip?, hspelling]

private theorem fraction?_fixed (width n : Nat) (hpositive : 0 < width) (hwidth : width ≤ 9)
    (hfits : n < 10 ^ width) (rest : List Char) :
    fraction? ('.' :: (Digits.fixed width n ++ 'Z' :: rest)) =
      some (n * 10 ^ (9 - width), 'Z' :: rest) := by
  have hdigits : ∀ c ∈ Digits.fixed width n, c.isDigit = true :=
    List.all_eq_true.mp (Digits.all_isDigit_fixed width n)
  have hspan : (Digits.fixed width n ++ 'Z' :: rest).takeWhile Char.isDigit =
      Digits.fixed width n := by
    rw [List.takeWhile_append_of_pos hdigits, List.takeWhile_cons_of_neg (by decide),
      List.append_nil]
  have hsome : (Digits.fixed width n).isEmpty = false := by
    rw [List.isEmpty_eq_false_iff_exists_mem]
    exact List.exists_mem_of_length_pos (by simpa using hpositive)
  have hkept : (Digits.fixed width n).take 9 = Digits.fixed width n :=
    List.take_of_length_le (by simpa using hwidth)
  simp only [fraction?, hspan, hsome, hkept, Bool.false_eq_true, if_false, Digits.length_fixed,
    Digits.value_append_zeros, Digits.value_fixed, Nat.mod_eq_of_lt hfits,
    List.drop_left' (Digits.length_fixed width n)]

/-- A fraction that is written is read back. -/
theorem fraction?_fractionChars {nanosecond : Nat} (hfits : nanosecond < 10 ^ 9)
    (rest : List Char) :
    fraction? (fractionChars nanosecond ++ 'Z' :: rest) = some (nanosecond, 'Z' :: rest) := by
  unfold fractionChars
  split
  · rename_i hzero
    rw [hzero]
    rfl
  · split
    · rename_i hmillis
      have hexact : nanosecond / 1000000 * 10 ^ (9 - 3) = nanosecond :=
        Nat.div_mul_cancel (Nat.dvd_of_mod_eq_zero hmillis)
      have hread := fraction?_fixed 3 (nanosecond / 1000000) (by omega) (by omega) (by omega) rest
      rw [hexact] at hread
      exact hread
    · split
      · rename_i hmicros
        have hexact : nanosecond / 1000 * 10 ^ (9 - 6) = nanosecond :=
          Nat.div_mul_cancel (Nat.dvd_of_mod_eq_zero hmicros)
        have hread := fraction?_fixed 6 (nanosecond / 1000) (by omega) (by omega) (by omega) rest
        rw [hexact] at hread
        exact hread
      · have hread := fraction?_fixed 9 nanosecond (by omega) (by omega) hfits rest
        rw [Nat.sub_self, Nat.pow_zero, Nat.mul_one] at hread
        exact hread

theorem shiftBack_zero {date : CivilDate} {minute : Nat} (hminute : minute < minutesPerDay) :
    shiftBack date minute 0 = (date, minute) := by
  have hday : minutesPerDay = 1440 := rfl
  simp only [shiftBack]
  split
  · omega
  · split
    · simp
    · omega

/-- A valid instant that is written with a year of four digits is read back. -/
theorem ofChars?_toChars {t : Instant} (hvalid : t.Valid) (hyear : t.FourDigitYear) :
    ofChars? t.toChars = some t := by
  have hday : minutesPerDay = 1440 := rfl
  have hminuteOfDay := hvalid.minuteOfDay
  have hvalidSecond := hvalid.second
  obtain ⟨⟨_, hlastMonth⟩, _, hlastDay⟩ := (CivilDate.isValid_iff _).mp hvalid.date
  have hdays := (CivilDate.daysInMonth_bounds t.date.year t.date.month).2
  have hfour : t.date.year.toNat < 10 ^ 4 := by
    have hupper : t.date.year ≤ 9999 := hyear.2
    omega
  have hmonth : t.date.month < 10 ^ 2 := by omega
  have hdate : t.date.day < 10 ^ 2 := by omega
  have hhour : t.minuteOfDay / 60 < 10 ^ 2 := by omega
  have hminute : t.minuteOfDay % 60 < 10 ^ 2 := by omega
  have hsecond : t.second < 10 ^ 2 := by omega
  have hnonneg : (t.date.year.toNat : Int) = t.date.year := Int.toNat_of_nonneg hyear.1
  have hchars : t.toChars = Digits.fixed 4 t.date.year.toNat ++ '-' ::
      (Digits.fixed 2 t.date.month ++ '-' :: (Digits.fixed 2 t.date.day ++ 'T' ::
        (Digits.fixed 2 (t.minuteOfDay / 60) ++ ':' ::
          (Digits.fixed 2 (t.minuteOfDay % 60) ++ ':' ::
            (Digits.fixed 2 t.second ++ (fractionChars t.nanosecond ++ ['Z'])))))) := by
    have hwritten : yearChars t.date.year = Digits.fixed 4 t.date.year.toNat := if_pos hyear
    simp [toChars, hwritten]
  rw [hchars]
  unfold ofChars?
  refine Option.bind_eq_some_iff.mpr ⟨_, Digits.take?_fixed hfour _, ?_⟩
  refine Option.bind_eq_some_iff.mpr ⟨_, skip?_cons (by simp) _, ?_⟩
  refine Option.bind_eq_some_iff.mpr ⟨_, Digits.take?_fixed hmonth _, ?_⟩
  refine Option.bind_eq_some_iff.mpr ⟨_, skip?_cons (by simp) _, ?_⟩
  refine Option.bind_eq_some_iff.mpr ⟨_, Digits.take?_fixed hdate _, ?_⟩
  refine Option.bind_eq_some_iff.mpr ⟨_, skip?_cons (by simp) _, ?_⟩
  refine Option.bind_eq_some_iff.mpr ⟨_, Digits.take?_fixed hhour _, ?_⟩
  refine Option.bind_eq_some_iff.mpr ⟨_, skip?_cons (by simp) _, ?_⟩
  refine Option.bind_eq_some_iff.mpr ⟨_, Digits.take?_fixed hminute _, ?_⟩
  refine Option.bind_eq_some_iff.mpr ⟨_, skip?_cons (by simp) _, ?_⟩
  refine Option.bind_eq_some_iff.mpr ⟨_, Digits.take?_fixed hsecond _, ?_⟩
  refine Option.bind_eq_some_iff.mpr ⟨_, fraction?_fractionChars hvalid.nanosecond _, ?_⟩
  refine Option.bind_eq_some_iff.mpr ⟨(0, []), rfl, ?_⟩
  dsimp only
  have hminutes : 60 * (t.minuteOfDay / 60) + t.minuteOfDay % 60 = t.minuteOfDay :=
    Nat.div_add_mod t.minuteOfDay 60
  rw [hnonneg, hminutes, shiftBack_zero hvalid.minuteOfDay, if_pos]
  exact ⟨rfl, hvalid.date, by omega, by omega, hvalid.second⟩

private theorem yearChars_signed {year : Int} (hyear : ¬ (0 ≤ year ∧ year ≤ 9999)) :
    ∃ sign digits, yearChars year = sign :: digits ∧ sign.isDigit = false := by
  unfold yearChars
  rw [if_neg hyear]
  refine ⟨_, _, rfl, ?_⟩
  split <;> rfl

/-- A year of another width is written with a sign, which nothing reads. -/
theorem ofChars?_toChars_eq_none {t : Instant} (hyear : ¬ t.FourDigitYear) :
    ofChars? t.toChars = none := by
  obtain ⟨sign, digits, hdigits, hsign⟩ := yearChars_signed hyear
  have hchars : ∃ rest, t.toChars = sign :: rest := by
    simp [toChars, hdigits]
  obtain ⟨rest, hrest⟩ := hchars
  have htake : Digits.take? 4 (sign :: rest) = none := by
    simp [Digits.take?, hsign]
  rw [hrest]
  unfold ofChars?
  rw [htake]
  rfl

/-- Writing a valid instant and reading it again gives the instant if its year
has four digits, and nothing otherwise. -/
theorem ofText?_toText {t : Instant} (hvalid : t.Valid) :
    ofText? t.toText = if t.FourDigitYear then some t else none := by
  rw [ofText?, toText, String.toList_ofList]
  split
  · exact ofChars?_toChars hvalid (by assumption)
  · exact ofChars?_toChars_eq_none (by assumption)

theorem valid_of_ofText? {text : String} {t : Instant} (hread : ofText? text = some t) : t.Valid :=
  valid_of_ofChars? hread

end Instant

end WorkSchema
