import Mathlib.Algebra.Group.Nat.Defs
import Mathlib.Data.List.GetD
import Mathlib.Data.List.Nodup
import WorkSchema.Identifier

/-!
Identifiers are told apart by their ranks, and by their texts: the digits of a number
give back as much of it as they have room for, and 26 of them have room for 128 bits.
-/

namespace WorkSchema.Identifier

variable {entity : Entity}

theorem rank_injective {a b : Identifier entity} (hrank : rank a = rank b) : a = b := by
  obtain ⟨x⟩ := a
  obtain ⟨y⟩ := b
  rw [Identifier.mk.injEq]
  exact BitVec.eq_of_toNat_eq hrank

theorem digitChar_injective {m n : Nat} (hsame : digitChar m = digitChar n) : m % 32 = n % 32 := by
  have hlength : alphabet.length = 32 := by decide
  have hnodup : alphabet.Nodup := by decide
  have hm : m % 32 < alphabet.length := hlength ▸ Nat.mod_lt m (by decide)
  have hn : n % 32 < alphabet.length := hlength ▸ Nat.mod_lt n (by decide)
  rw [digitChar, digitChar, List.getD_eq_getElem _ _ hm, List.getD_eq_getElem _ _ hn] at hsame
  exact (List.Nodup.getElem_inj_iff hnodup).mp hsame

theorem mod_eq_of_digits {width m n : Nat} (hsame : digits width m = digits width n) :
    m % 32 ^ width = n % 32 ^ width := by
  induction width generalizing m n with
  | zero => rw [Nat.pow_zero, Nat.mod_one, Nat.mod_one]
  | succ width ih =>
      have hparts := List.append_inj' hsame rfl
      have hhigh := ih hparts.1
      have hlow : m % 32 = n % 32 := digitChar_injective (List.cons.inj hparts.2).1
      rw [Nat.pow_succ', Nat.mod_mul, Nat.mod_mul, hhigh, hlow]

theorem toText_injective {a b : Identifier entity} (hsame : a.toText = b.toText) : a = b := by
  have hdigits : digits 26 a.value.toNat = digits 26 b.value.toNat := String.ofList_injective hsame
  have hmod := mod_eq_of_digits hdigits
  have hbound : ∀ id : Identifier entity, id.value.toNat < 32 ^ 26 := by
    intro id
    exact Nat.lt_trans id.value.isLt (by decide)
  rw [Nat.mod_eq_of_lt (hbound a), Nat.mod_eq_of_lt (hbound b)] at hmod
  exact rank_injective hmod

theorem toText_ne_empty (id : Identifier entity) : id.toText.toList ≠ [] := by
  simp [toText, digits]

end WorkSchema.Identifier
