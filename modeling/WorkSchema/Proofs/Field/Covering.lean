import WorkSchema.Field.Definition
import WorkSchema.Proofs.Field.Conversion
import WorkSchema.Proofs.Field.Shape

/-!
What enclosing is for: a type covers another if it stores everything that the
other stores, in the same form. Enclosing types cover each other. The converse
fails, and unlike enclosing, covering is reflexive on every type, malformed
ones included, so it can be carried along any sequence of changes.
-/

namespace WorkSchema

namespace EnumType

theorem encloses_iff {a b : EnumType} :
    a.encloses b = true ↔
      a.kind = b.kind ∧ a.base = b.base ∧ a.values.isEmpty = false ∧
        b.values.isEmpty = false ∧ ∀ value ∈ b.values, a.contains value = true := by
  simp only [encloses, Bool.and_eq_true, Bool.not_eq_true', beq_iff_eq, List.all_eq_true,
    and_assoc]

theorem contains_of_encloses {a b : EnumType} (hencloses : a.encloses b = true)
    {stored : FieldValue} (hcontains : b.contains stored = true) : a.contains stored = true := by
  obtain ⟨_, hbase, _, _, hall⟩ := encloses_iff.1 hencloses
  exact contains_of_all hbase hall hcontains

theorem base_of_encloses {a b : EnumType} (hencloses : a.encloses b = true) : a.base = b.base :=
  (encloses_iff.1 hencloses).2.1

end EnumType

namespace FieldType

/-- Whether `a` stores every value that `b` stores, and in the same form. -/
def Covers (a b : FieldType) : Prop :=
  ∀ value stored, b.convert value = .ok stored → a.convert value = .ok stored

theorem Covers.refl (a : FieldType) : a.Covers a := fun _ _ hconvert => hconvert

theorem Covers.trans {a b c : FieldType} (hab : a.Covers b) (hbc : b.Covers c) : a.Covers c :=
  fun value stored hconvert => hab value stored (hbc value stored hconvert)

theorem Covers.list {a b : FieldType} (hcovers : a.Covers b) (kind other : Kind) :
    (FieldType.list kind a).Covers (.list other b) := by
  intro value stored hconvert
  obtain ⟨items, results, rfl, rfl, hall⟩ := convert_list_iff.1 hconvert
  have hitems := hall.imp fun item result => hcovers item result
  exact convert_list_iff.2 ⟨items, results, rfl, rfl, hitems⟩

theorem Covers.enum {a b : EnumType} (hencloses : a.encloses b = true) :
    (FieldType.enum a).Covers (.enum b) := by
  intro value stored hconvert
  obtain ⟨hbase, hcontains⟩ := EnumType.convert_iff.1 hconvert
  apply EnumType.convert_iff.2
  rw [EnumType.base_of_encloses hencloses]
  exact ⟨hbase, EnumType.contains_of_encloses hencloses hcontains⟩

theorem covers_of_encloses {a b : FieldType} (hencloses : a.encloses b = true) : a.Covers b := by
  rw [encloses_iff_lifted] at hencloses
  induction hencloses with
  | simple kind => exact Covers.refl _
  | enum hcores => exact Covers.enum hcores
  | list kind _ ih => exact ih.list kind kind

/-- Enclosing is sound for conversion: what an enclosed type stores, the
enclosing one stores too, in the very same form. This holds for malformed types
and at any nesting of lists. -/
theorem convert_of_encloses (a b : FieldType) (value stored : FieldValue)
    (hencloses : a.encloses b = true) (hconvert : b.convert value = .ok stored) :
    a.convert value = .ok stored :=
  covers_of_encloses hencloses value stored hconvert

theorem convert_of_encloses_float_enum :
    let wide : FieldType := listOf (.enum {base := .float, values := [
      .integer 1, .float (.ofRatio false 5 2), .integer 3]})
    let narrow : FieldType := listOf (.enum {base := .float, values := [
      .float (.ofInt 3), .float (.ofInt 1)]})
    wide.encloses narrow = true ∧
      narrow.convert (.list [.integer 1]) = .ok (.list [.float (.ofInt 1)]) ∧
        wide.convert (.list [.integer 1]) = .ok (.list [.float (.ofInt 1)]) := by
  intro wide narrow
  have hencloses : wide.encloses narrow = true := by decide
  have hconvert : narrow.convert (.list [.integer 1]) = .ok (.list [.float (.ofInt 1)]) := rfl
  exact ⟨hencloses, hconvert, convert_of_encloses wide narrow _ _ hencloses hconvert⟩

end FieldType

namespace FieldDefinition

/-- Whether the new definition accepts all that the old one accepts. A value
may be left out under the new one if it may be under the old one. -/
structure Covers (new old : FieldDefinition) : Prop where
  type : new.type.Covers old.type
  required : new.required = true → old.required = true

theorem Covers.refl (definition : FieldDefinition) : definition.Covers definition :=
  ⟨FieldType.Covers.refl _, id⟩

theorem Covers.trans {a b c : FieldDefinition} (hab : a.Covers b) (hbc : b.Covers c) :
    a.Covers c :=
  ⟨hab.type.trans hbc.type, hbc.required ∘ hab.required⟩

theorem encloses_iff {new old : FieldDefinition} :
    new.encloses old = true ↔
      new.type.encloses old.type = true ∧ (new.required = true → old.required = true) := by
  simp only [encloses, Bool.and_eq_true, Bool.or_eq_true, Bool.not_eq_true']
  cases new.required <;> cases old.required <;> simp

theorem covers_of_encloses {new old : FieldDefinition} (hencloses : new.encloses old = true) :
    new.Covers old := by
  obtain ⟨htype, hrequired⟩ := encloses_iff.1 hencloses
  exact ⟨FieldType.covers_of_encloses htype, hrequired⟩

end FieldDefinition

end WorkSchema
