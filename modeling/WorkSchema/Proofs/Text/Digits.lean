import Mathlib.Data.List.Induction
import Mathlib.Tactic.Ring
import WorkSchema.Text.Digits

/-!
Decimal digits of a fixed width: what is written is read back, with whatever
follows it left over, and the value of digits fits their number.
-/

namespace WorkSchema.Digits

private theorem digit_spec (n : Nat) :
    (digit n).isDigit = true ∧ (digit n).toNat - '0'.toNat = n % 10 := by
  have hall : ∀ d < 10, (Char.ofNat ('0'.toNat + d)).isDigit = true ∧
      (Char.ofNat ('0'.toNat + d)).toNat - '0'.toNat = d := by decide
  exact hall (n % 10) (Nat.mod_lt n (by decide))

@[simp] theorem length_fixed (width n : Nat) : (fixed width n).length = width := by
  induction width generalizing n with
  | zero => rfl
  | succ width ih => simp [fixed, ih]

theorem all_isDigit_fixed (width n : Nat) : (fixed width n).all Char.isDigit = true := by
  induction width generalizing n with
  | zero => rfl
  | succ width ih => simp only [fixed, List.all_append, ih, List.all_cons, digit_spec]; rfl

theorem value_append_singleton (digits : List Char) (c : Char) :
    value (digits ++ [c]) = 10 * value digits + (c.toNat - '0'.toNat) := by
  simp [value, List.foldl_append]

theorem value_fixed (width n : Nat) : value (fixed width n) = n % 10 ^ width := by
  induction width generalizing n with
  | zero => simp [fixed, value, Nat.mod_one]
  | succ width ih =>
      have hsplit : n % (10 * 10 ^ width) = n % 10 + 10 * (n / 10 % 10 ^ width) := Nat.mod_mul
      rw [fixed, value_append_singleton, ih, (digit_spec n).2, Nat.pow_succ', hsplit]
      omega

/-- Digits that are written are read back. -/
theorem take?_fixed {width n : Nat} (hfits : n < 10 ^ width) (rest : List Char) :
    take? width (fixed width n ++ rest) = some (n, rest) := by
  have htake : (fixed width n ++ rest).take width = fixed width n := by
    rw [List.take_left' (length_fixed width n)]
  have hdrop : (fixed width n ++ rest).drop width = rest := by
    rw [List.drop_left' (length_fixed width n)]
  simp only [take?, htake, hdrop, length_fixed, all_isDigit_fixed, and_self, if_true, value_fixed,
    Nat.mod_eq_of_lt hfits]

private theorem digit_le_nine {c : Char} (hdigit : c.isDigit = true) : c.toNat - '0'.toNat ≤ 9 := by
  simp only [Char.isDigit, Bool.and_eq_true, decide_eq_true_eq] at hdigit
  have hupper : c.toNat ≤ 57 := hdigit.2
  have hzero : '0'.toNat = 48 := rfl
  omega

theorem value_lt {digits : List Char} (hdigits : digits.all Char.isDigit = true) :
    value digits < 10 ^ digits.length := by
  induction digits using List.reverseRecOn with
  | nil => decide
  | append_singleton rest c ih =>
      rw [List.all_append, Bool.and_eq_true] at hdigits
      have hrest := ih hdigits.1
      have hc : c.toNat - '0'.toNat ≤ 9 := digit_le_nine (by simpa using hdigits.2)
      rw [value_append_singleton, List.length_append, List.length_singleton, Nat.pow_succ]
      omega

theorem value_append_zeros (digits : List Char) (count : Nat) :
    value (digits ++ List.replicate count '0') = value digits * 10 ^ count := by
  induction count with
  | zero => simp
  | succ count ih =>
      rw [List.replicate_succ', ← List.append_assoc, value_append_singleton, ih, Nat.pow_succ]
      simp only [Nat.sub_self, Nat.add_zero]
      ring

end WorkSchema.Digits
