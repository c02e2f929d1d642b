import WorkSchema.Field.FieldType

/-!
All comparisons of field types go the same way: two types must have one shape, the same
lists around the same simple kind or around an enum, and the rest is up to the enums. So a
law of comparison is a law about enums, lifted to types of one shape.
-/

namespace WorkSchema.FieldType

/-- The enum that a type is built around, below all its lists. -/
def core? : FieldType → Option EnumType
  | simple _ => none
  | enum type => some type
  | list _ component => component.core?

/-- The type with another enum in the place of its own. -/
def withCore (core : EnumType) : FieldType → FieldType
  | simple kind => simple kind
  | enum _ => enum core
  | list kind component => list kind (component.withCore core)

theorem withCore_core {type : FieldType} {core : EnumType} (hcore : type.core? = some core) :
    type.withCore core = type := by
  induction type with
  | simple kind => cases hcore
  | enum type =>
      cases hcore
      rfl
  | list kind component ih => rw [withCore, ih hcore]

/-- The comparison of types that compares enums in the given way. -/
def compare (enums : EnumType → EnumType → Bool) : FieldType → FieldType → Bool
  | simple a, simple b => a == b
  | enum a, enum b => enums a b
  | list a componentA, list b componentB => a == b && componentA.compare enums componentB
  | _, _ => false

theorem equal_eq_compare (a b : FieldType) : a.equal b = a.compare EnumType.equal b := by
  fun_induction equal a b with
  | case1 a b => rfl
  | case2 a b => rfl
  | case3 a componentA b componentB ih => rw [compare, ih]
  | case4 a b => simp [compare]

theorem equalValue_eq_compare (a b : FieldType) :
    a.equalValue b = a.compare EnumType.equal b := by
  fun_induction equalValue a b with
  | case1 a b => rfl
  | case2 a b => rfl
  | case3 a componentA b componentB ih => rw [compare, ih]
  | case4 a b => simp [compare]

theorem encloses_eq_compare (a b : FieldType) : a.encloses b = a.compare EnumType.encloses b := by
  fun_induction encloses a b with
  | case1 a b => rfl
  | case2 a b => rfl
  | case3 a componentA b componentB ih => rw [compare, ih]
  | case4 a b => simp [compare]

theorem compare_withCore {type : FieldType} {core : EnumType} (hcore : type.core? = some core)
    (enums : EnumType → EnumType → Bool) (x y : EnumType) :
    (type.withCore x).compare enums (type.withCore y) = enums x y := by
  induction type with
  | simple kind => cases hcore
  | enum type => rfl
  | list kind component ih => simp [withCore, compare, ih hcore]

/-- Types of one shape, with their enums in the given relation if they have any. -/
inductive Lifted (related : EnumType → EnumType → Prop) : FieldType → FieldType → Prop
  | simple (kind : Kind) : Lifted related (simple kind) (simple kind)
  | enum {a b : EnumType} (hcores : related a b) : Lifted related (enum a) (enum b)
  | list (kind : Kind) {a b : FieldType} (hcomponents : Lifted related a b) :
      Lifted related (list kind a) (list kind b)

theorem compare_iff_lifted {enums : EnumType → EnumType → Bool} {a b : FieldType} :
    a.compare enums b = true ↔ Lifted (fun x y => enums x y = true) a b := by
  constructor
  · intro hcompare
    fun_induction compare enums a b with
    | case1 a b =>
        obtain rfl : a = b := by simpa using hcompare
        exact .simple a
    | case2 a b => exact .enum hcompare
    | case3 a componentA b componentB ih =>
        simp only [Bool.and_eq_true, beq_iff_eq] at hcompare
        obtain ⟨rfl, hcomponents⟩ := hcompare
        exact .list a (ih hcomponents)
    | case4 => cases hcompare
  · intro hlifted
    induction hlifted with
    | simple kind => simp [compare]
    | enum hcores => exact hcores
    | list kind _ ih => simp [compare, ih]

theorem equal_iff_lifted {a b : FieldType} :
    a.equal b = true ↔ Lifted (fun x y => x.equal y = true) a b := by
  rw [equal_eq_compare, compare_iff_lifted]

theorem encloses_iff_lifted {a b : FieldType} :
    a.encloses b = true ↔ Lifted (fun x y => x.encloses y = true) a b := by
  rw [encloses_eq_compare, compare_iff_lifted]

namespace Lifted

variable {related other result : EnumType → EnumType → Prop} {a b c : FieldType}

theorem refl (hself : ∀ core ∈ a.core?, related core core) : Lifted related a a := by
  induction a with
  | simple kind => exact .simple kind
  | enum type => exact .enum (hself type rfl)
  | list kind component ih => exact .list kind (ih hself)

theorem swap (hab : Lifted related a b) : Lifted (fun x y => related y x) b a := by
  induction hab with
  | simple kind => exact .simple kind
  | enum hcores => exact .enum hcores
  | list kind _ ih => exact .list kind ih

theorem trans (hab : Lifted related a b) (hbc : Lifted other b c)
    (hcompose : ∀ {x y z : EnumType}, related x y → other y z → result x z) :
    Lifted result a c := by
  induction hab generalizing c with
  | simple kind =>
      cases hbc
      exact .simple kind
  | enum hfirst =>
      cases hbc with
      | enum hsecond => exact .enum (hcompose hfirst hsecond)
  | list kind _ ih =>
      cases hbc with
      | list _ hcomponents => exact .list kind (ih hcomponents)

/-- What is known of the two enums may be used to relate them in another way. -/
theorem imp (hab : Lifted related a b)
    (himp : ∀ x ∈ a.core?, ∀ y ∈ b.core?, related x y → other x y) : Lifted other a b := by
  induction hab with
  | simple kind => exact .simple kind
  | enum hcores => exact .enum (himp _ rfl _ rfl hcores)
  | list kind _ ih => exact .list kind (ih himp)

/-- Types whose enums convert alike convert alike; of a list, the same element is the first
to fail. -/
theorem convert_eq (hab : Lifted (fun x y => x.convert = y.convert) a b) :
    a.convert = b.convert := by
  induction hab with
  | simple kind => rfl
  | enum hcores => exact hcores
  | list kind _ ih =>
      funext value
      simp only [convert, ih]

end Lifted

end WorkSchema.FieldType
