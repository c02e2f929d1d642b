import WorkSchema.Field.Value
import WorkSchema.Proofs.Number.Binary64

/-!
Equality of field values is symmetric and transitive, and it is reflexive
exactly on values in which no number is a NaN. Both laws come down to those of
the comparison of floating-point numbers.
-/

namespace WorkSchema

namespace FieldValue

mutual

/-- Whether a NaN stands anywhere in a value. -/
def hasNaN : FieldValue → Bool
  | float x => x.isNaN
  | list items => anyNaN items
  | boolean _ | integer _ | string _ => false

def anyNaN : List FieldValue → Bool
  | [] => false
  | item :: rest => hasNaN item || anyNaN rest

end

theorem boolean_equal_iff {a : Bool} {v : FieldValue} :
    (boolean a).equal v = true ↔ v = boolean a := by
  cases v with
  | boolean b => simpa [equal] using eq_comm
  | _ => simp [equal]

theorem integer_equal_iff {a : Int64} {v : FieldValue} :
    (integer a).equal v = true ↔ v = integer a := by
  cases v with
  | integer b => simpa [equal] using eq_comm
  | _ => simp [equal]

theorem string_equal_iff {a : String} {v : FieldValue} :
    (string a).equal v = true ↔ v = string a := by
  cases v with
  | string b => simpa [equal] using eq_comm
  | _ => simp [equal]

theorem float_equal_iff {x : Binary64} {v : FieldValue} :
    (float x).equal v = true ↔ ∃ y, v = float y ∧ x.equal y = true := by
  cases v <;> simp [equal]

theorem list_equal_iff {as : List FieldValue} {v : FieldValue} :
    (list as).equal v = true ↔ ∃ bs, v = list bs ∧ equalItems as bs = true := by
  cases v <;> simp [equal]

mutual

theorem equal_comm : ∀ a b : FieldValue, a.equal b = b.equal a
  | boolean a, b => by cases b <;> simp [equal, BEq.comm]
  | integer a, b => by cases b <;> simp [equal, BEq.comm]
  | float a, b => by cases b <;> simp [equal, Binary64.equal_comm a]
  | string a, b => by cases b <;> simp [equal, BEq.comm]
  | list as, b => by
      cases b with
      | list bs => simpa [equal] using equalItems_comm as bs
      | _ => simp [equal]

theorem equalItems_comm : ∀ as bs : List FieldValue, equalItems as bs = equalItems bs as
  | [], bs => by cases bs <;> simp [equalItems]
  | a :: as, bs => by
      cases bs with
      | nil => simp [equalItems]
      | cons b bs => simp [equalItems, equal_comm a b, equalItems_comm as bs]

end

mutual

theorem equal_trans {b c : FieldValue} : ∀ {a : FieldValue}, a.equal b = true →
    b.equal c = true → a.equal c = true
  | boolean a, hab, hbc => by
      obtain rfl := boolean_equal_iff.1 hab
      exact hbc
  | integer a, hab, hbc => by
      obtain rfl := integer_equal_iff.1 hab
      exact hbc
  | string a, hab, hbc => by
      obtain rfl := string_equal_iff.1 hab
      exact hbc
  | float x, hab, hbc => by
      obtain ⟨y, rfl, hxy⟩ := float_equal_iff.1 hab
      obtain ⟨z, rfl, hyz⟩ := float_equal_iff.1 hbc
      exact float_equal_iff.2 ⟨z, rfl, Binary64.equal_trans hxy hyz⟩
  | list as, hab, hbc => by
      obtain ⟨bs, rfl, has⟩ := list_equal_iff.1 hab
      obtain ⟨cs, rfl, hbs⟩ := list_equal_iff.1 hbc
      exact list_equal_iff.2 ⟨cs, rfl, equalItems_trans has hbs⟩

theorem equalItems_trans {bs cs : List FieldValue} : ∀ {as : List FieldValue},
    equalItems as bs = true → equalItems bs cs = true → equalItems as cs = true
  | [], has, hbs => by
      cases bs with
      | nil => exact hbs
      | cons b bs => simp [equalItems] at has
  | a :: as, has, hbs => by
      cases bs with
      | nil => simp [equalItems] at has
      | cons b bs =>
          cases cs with
          | nil => simp [equalItems] at hbs
          | cons c cs =>
              simp only [equalItems, Bool.and_eq_true] at has hbs ⊢
              exact ⟨equal_trans has.1 hbs.1, equalItems_trans has.2 hbs.2⟩

end

mutual

/-- A value equals itself exactly if it holds no NaN. -/
theorem equal_self : ∀ a : FieldValue, a.equal a = !a.hasNaN
  | boolean a => by simp [equal, hasNaN]
  | integer a => by simp [equal, hasNaN]
  | float x => by simp [equal, hasNaN, Binary64.equal_self]
  | string a => by simp [equal, hasNaN]
  | list as => by simpa [equal, hasNaN] using equalItems_self as

theorem equalItems_self : ∀ as : List FieldValue, equalItems as as = !anyNaN as
  | [] => by simp [equalItems, anyNaN]
  | a :: as => by simp [equalItems, anyNaN, equal_self a, equalItems_self as]

end

end FieldValue

end WorkSchema
