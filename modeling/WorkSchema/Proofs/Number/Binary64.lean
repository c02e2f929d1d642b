import Mathlib.Tactic.Ring
import WorkSchema.Number.Binary64

/-!
Numbers of the binary64 format. Equality is symmetric and transitive, and reflexive but for a
NaN. Rounding makes no NaN, and a whole number of 64 bits is far from the largest finite number,
so it is rounded to a finite one.
-/

namespace WorkSchema.Binary64

theorem equal_comm (x y : Binary64) : x.equal y = y.equal x := by
  unfold equal
  rw [Bool.and_comm (!x.isNaN), Bool.and_comm x.isZero, BEq.comm (a := x)]

theorem equal_trans {x y z : Binary64} (hxy : x.equal y = true) (hyz : y.equal z = true) :
    x.equal z = true := by
  simp only [equal, Bool.and_eq_true, Bool.or_eq_true, Bool.not_eq_true', beq_iff_eq] at *
  obtain ⟨⟨hx, _⟩, hfirst⟩ := hxy
  obtain ⟨⟨_, hz⟩, hsecond⟩ := hyz
  refine ⟨⟨hx, hz⟩, ?_⟩
  rcases hfirst with rfl | ⟨hxzero, hyzero⟩
  · exact hsecond
  · rcases hsecond with rfl | ⟨_, hzzero⟩
    · exact Or.inr ⟨hxzero, hyzero⟩
    · exact Or.inr ⟨hxzero, hzzero⟩

theorem equal_self (x : Binary64) : x.equal x = !x.isNaN := by
  simp [equal]

/-- A NaN equals nothing. -/
theorem isNaN_of_equal {x y : Binary64} (hxy : x.equal y = true) : x.isNaN = false := by
  simp only [equal, Bool.and_eq_true, Bool.not_eq_true'] at hxy
  exact hxy.1.1

theorem isFinite_iff {x : Binary64} :
    x.isFinite = true ↔ x.isNaN = false ∧ x.isInfinite = false := by
  simp only [isFinite, isNaN, isInfinite, bne_iff_ne]
  by_cases hexponent : x.exponentField = maxExponent
  · by_cases hfraction : x.fraction = 0 <;> simp [hexponent, hfraction]
  · simp [hexponent]

section Rounding

variable {magnitude num : Nat}

private theorem toNat_bits_ofMagnitude (negative : Bool) (hle : magnitude ≤ maxExponent <<< 52) :
    (ofMagnitude negative magnitude).bits.toNat = (if negative then 2 ^ 63 else 0) + magnitude := by
  have hmax : maxExponent <<< 52 = 2047 * 2 ^ 52 := rfl
  rw [ofMagnitude, UInt64.toNat_ofNat']
  apply Nat.mod_eq_of_lt
  cases negative <;> simp <;> omega

/-- A pattern below that of infinity is that of a finite number. -/
theorem isFinite_ofMagnitude (negative : Bool) (hlt : magnitude < maxExponent <<< 52) :
    (ofMagnitude negative magnitude).isFinite = true := by
  have hmax : maxExponent <<< 52 = 2047 * 2 ^ 52 := rfl
  rw [isFinite, exponentField, toNat_bits_ofMagnitude negative hlt.le, Nat.shiftRight_eq_div_pow,
    bne_iff_ne, maxExponent]
  cases negative <;> simp <;> omega

/-- A pattern up to that of infinity is no NaN. -/
theorem isNaN_ofMagnitude (negative : Bool) (hle : magnitude ≤ maxExponent <<< 52) :
    (ofMagnitude negative magnitude).isNaN = false := by
  rcases hle.lt_or_eq with hlt | rfl
  · exact (isFinite_iff.mp (isFinite_ofMagnitude negative hlt)).1
  · rw [isNaN, fraction, toNat_bits_ofMagnitude negative le_rfl, Bool.and_eq_false_iff]
    right
    cases negative <;> rfl

theorem isNaN_ofRatio (negative : Bool) (num den : Nat) :
    (ofRatio negative num den).isNaN = false := by
  unfold ofRatio
  split
  · exact isNaN_ofMagnitude negative (Nat.zero_le _)
  · extract_lets guess top scale magnitude
    split
    · exact isNaN_ofMagnitude negative le_rfl
    · rename_i hlt
      exact isNaN_ofMagnitude negative (Nat.le_of_not_le hlt)

theorem divNearestEven_le (num den : Nat) : divNearestEven num den ≤ num / den + 1 := by
  unfold divNearestEven
  extract_lets quotient twice
  split
  · exact Nat.le_succ _
  · split
    · exact le_rfl
    · have hparity : quotient % 2 < 2 := Nat.mod_lt _ (by decide)
      omega

theorem atLeastPower_log2 (hnum : num ≠ 0) : atLeastPower num 1 (num.log2 : Int) = true := by
  have hle := Nat.log2_self_le hnum
  simpa [atLeastPower, Nat.shiftLeft_eq] using hle

/-- The significand of a whole number takes 53 bits, or a bit more if it is rounded up. -/
theorem scaledNearest_log2_le (num : Nat) :
    scaledNearest num 1 ((num.log2 : Int) - 52) ≤ 2 ^ 53 := by
  have hlt : num < 2 ^ (num.log2 + 1) := Nat.lt_log2_self
  cases hscale : (num.log2 : Int) - 52 with
  | ofNat k =>
      have hlog : num.log2 + 1 = k + 53 := by
        have hcast : (Int.ofNat k) = (k : Int) := rfl
        omega
      rw [hlog, Nat.pow_add, Nat.mul_comm] at hlt
      have hquotient : num / 2 ^ k < 2 ^ 53 :=
        (Nat.div_lt_iff_lt_mul (Nat.two_pow_pos k)).mpr hlt
      have hround := divNearestEven_le num (1 <<< k)
      rw [Nat.one_shiftLeft] at hround
      rw [scaledNearest, Nat.one_shiftLeft]
      omega
  | negSucc k =>
      have hlog : num.log2 + 1 + (k + 1) = 53 := by
        have hcast := Int.negSucc_eq k
        omega
      have hshifted : num * 2 ^ (k + 1) < 2 ^ 53 :=
        calc num * 2 ^ (k + 1) < 2 ^ (num.log2 + 1) * 2 ^ (k + 1) :=
              Nat.mul_lt_mul_of_pos_right hlt (Nat.two_pow_pos _)
          _ = 2 ^ 53 := by rw [← Nat.pow_add, hlog]
      have hround := divNearestEven_le (num * 2 ^ (k + 1)) 1
      rw [scaledNearest, Nat.shiftLeft_eq]
      omega

theorem isFinite_ofRatio_one (negative : Bool) (hnum : num < 2 ^ 64) :
    (ofRatio negative num 1).isFinite = true := by
  unfold ofRatio
  split
  · exact isFinite_ofMagnitude negative (by decide)
  · rename_i hnonzero
    have hne : num ≠ 0 := fun hzero => hnonzero (.inl hzero)
    have hlog : num.log2 < 64 := (Nat.log2_lt hne).mpr hnum
    have hguess : (num.log2 : Int) - (Nat.log2 1 : Nat) = num.log2 := by
      rw [show Nat.log2 1 = 0 from by decide]
      simp
    have hscale : max ((num.log2 : Int) - 52) (-1074) = num.log2 - 52 := by omega
    have hnearest := scaledNearest_log2_le num
    have hmax : maxExponent <<< 52 = 2047 * 2 ^ 52 := rfl
    have hmagnitude : ((num.log2 : Int) - 52 + 1074).toNat <<< 52 +
        scaledNearest num 1 (num.log2 - 52) < maxExponent <<< 52 := by
      rw [Nat.shiftLeft_eq, hmax]
      have hexponent : ((num.log2 : Int) - 52 + 1074).toNat ≤ 1085 := by omega
      omega
    simp only [hguess, atLeastPower_log2 hne, if_true, hscale]
    rw [if_neg (Nat.not_le.mpr hmagnitude)]
    exact isFinite_ofMagnitude negative hmagnitude

end Rounding

/-- A whole number that a signed or an unsigned 64-bit integer can be is rounded to a finite
number. -/
theorem isFinite_ofInt {n : Int} (hlower : -0x8000000000000000 ≤ n)
    (hupper : n < 0x10000000000000000) : (ofInt n).isFinite = true :=
  isFinite_ofRatio_one _ (by omega)

end WorkSchema.Binary64
