import WorkSchema.Proofs.Field.Covering
import WorkSchema.Proofs.Field.Stability

/-!
Enclosing is a preorder: it is transitive on all types and definitions, malformed ones
included, so a definition that was widened many times still accepts what the first one did.
It is reflexive on valid types that list no NaN, since no list allows a NaN that it names.
Adding values to an enum widens every type built around it, and nothing is lost the other
way exactly if the enum allowed the added values before. Of valid enums, the one that accepts
more encloses the other, so no harmless change of an enum is turned down.
-/

namespace WorkSchema

namespace EnumType

variable {a b c type wide : EnumType} {added : List FieldValue}

theorem encloses_trans (hab : a.encloses b = true) (hbc : b.encloses c = true) :
    a.encloses c = true := by
  obtain ⟨hkind, hbase, hsome, _, _⟩ := encloses_iff.1 hab
  obtain ⟨hkind', hbase', _, hsome', hall⟩ := encloses_iff.1 hbc
  refine encloses_iff.2 ⟨hkind.trans hkind', hbase.trans hbase', hsome, hsome', ?_⟩
  exact fun value hmem => contains_of_encloses hab (hall value hmem)

/-- Whether an enum lists the values of another and the added ones, in any order. What it
has as its default, and whether its values may be redefined, is left open. -/
structure Widens (wide : EnumType) (added : List FieldValue) (type : EnumType) : Prop where
  kind : wide.kind = type.kind
  base : wide.base = type.base
  values : wide.values.Perm (type.values ++ added)

theorem Widens.refl (type : EnumType) : type.Widens [] type where
  kind := rfl
  base := rfl
  values := by rw [List.append_nil]

theorem Widens.mem_values (hwidens : wide.Widens added type) {value : FieldValue} :
    value ∈ wide.values ↔ value ∈ type.values ∨ value ∈ added := by
  rw [hwidens.values.mem_iff, List.mem_append]

theorem Widens.isEmpty_values (hwidens : wide.Widens added type)
    (hsome : type.values.isEmpty = false) : wide.values.isEmpty = false := by
  simp only [List.isEmpty_eq_false_iff_exists_mem, hwidens.mem_values] at hsome ⊢
  obtain ⟨value, hmem⟩ := hsome
  exact ⟨value, .inl hmem⟩

theorem Widens.encloses (hwidens : wide.Widens added type) (hvalid : type.validate = .ok ())
    (hnumbers : ∀ value ∈ type.values, value.hasNaN = false) : wide.encloses type = true := by
  have hsome := (validate_eq_ok.1 hvalid).1
  refine encloses_iff.2 ⟨hwidens.kind, hwidens.base, hwidens.isEmpty_values hsome, hsome, ?_⟩
  exact fun value hmem => contains_of_mem (hwidens.mem_values.2 (.inl hmem)) (hnumbers value hmem)

theorem Widens.enclosed_iff (hwidens : wide.Widens added type) (hvalid : type.validate = .ok ())
    (hnumbers : ∀ value ∈ type.values, value.hasNaN = false) :
    type.encloses wide = true ↔ ∀ value ∈ added, type.contains value = true := by
  have hsome := (validate_eq_ok.1 hvalid).1
  constructor
  · intro hencloses value hmem
    obtain ⟨_, _, _, _, hall⟩ := encloses_iff.1 hencloses
    exact hall value (hwidens.mem_values.2 (.inr hmem))
  · intro hadded
    refine encloses_iff.2
      ⟨hwidens.kind.symm, hwidens.base.symm, hsome, hwidens.isEmpty_values hsome, ?_⟩
    intro value hmem
    rcases hwidens.mem_values.1 hmem with hold | hnew
    · exact contains_of_mem hold (hnumbers value hold)
    · exact hadded value hnew

/-- A value that an enum accepts is one that it allows as it is written, if its stored form
conforms. -/
theorem contains_of_stored {value stored : FieldValue} (hconvert : type.convert value = .ok stored)
    (hconforms : type.base.conforms stored = true) : type.contains value = true := by
  obtain ⟨hstored, hcontains⟩ := convert_iff.1 hconvert
  obtain ⟨again, hagain⟩ := Kind.conforms_iff.1 hconforms
  have hnumber : stored.hasNaN = false := hasNaN_of_contains hcontains hagain
  apply contains_of_sameValue hcontains
  rw [Kind.sameValue_comm]
  exact Kind.sameValue_stored hstored hconforms hnumber

/-- Enclosing turns no harmless change down: of two valid enums over one base, the first
encloses the second as soon as it accepts what the second accepts, if the second accepts the
values that it lists. How the values are written, in which order and how often they are
listed, and what the enums say besides makes no difference. -/
theorem encloses_iff_accepts (hvalid : a.validate = .ok ()) (hvalid' : b.validate = .ok ())
    (hbase : a.base = b.base)
    (hlisted : ∀ value ∈ b.values, ∃ stored, b.convert value = .ok stored) :
    a.encloses b = true ↔
      ∀ value stored, b.convert value = .ok stored → ∃ other, a.convert value = .ok other := by
  constructor
  · intro hencloses value stored hconvert
    exact ⟨stored, FieldType.Covers.enum hencloses value stored hconvert⟩
  · intro haccepts
    obtain ⟨hsome, hkind, _⟩ := validate_eq_ok.1 hvalid
    obtain ⟨hsome', hkind', _⟩ := validate_eq_ok.1 hvalid'
    refine encloses_iff.2 ⟨hkind.trans hkind'.symm, hbase, hsome, hsome', ?_⟩
    intro value hmem
    obtain ⟨stored, hconvert⟩ := hlisted value hmem
    obtain ⟨other, hother⟩ := haccepts value stored hconvert
    -- That what is stored conforms is known of the second enum, which lists it.
    have hagain : b.base.convert stored = .ok stored :=
      (convert_iff.1 (convert_stored hvalid' hconvert)).1
    have hsame : other = stored := by
      have hbaseOther := (convert_iff.1 hother).1
      rw [hbase, (convert_iff.1 hconvert).1] at hbaseOther
      cases hbaseOther
      rfl
    rw [hsame] at hother
    rw [← hbase] at hagain
    exact contains_of_stored hother (Kind.conforms_iff.2 ⟨stored, hagain⟩)

/-- The numbers 1 and 3 are listed in other order, once as floats and once twice. -/
theorem encloses_iff_accepts_respelled :
    let first : EnumType :=
      {base := .float, values := [.integer 3, .float (.ofRatio false 1 2), .integer 1]}
    let second : EnumType :=
      {base := .float, values := [.integer 1, .float (.ofInt 3), .float (.ofInt 1)],
        rewritable := true, default? := some (.integer 3)}
    first.validate = .ok () ∧ second.validate = .ok () ∧ first.base = second.base ∧
      (∀ value ∈ second.values, ∃ stored, second.convert value = .ok stored) ∧
      (first.encloses second = true ↔ ∀ value stored, second.convert value = .ok stored →
        ∃ other, first.convert value = .ok other) := by
  intro first second
  have hvalid : first.validate = .ok () := rfl
  have hvalid' : second.validate = .ok () := rfl
  have hlisted : ∀ value ∈ second.values, ∃ stored, second.convert value = .ok stored := by
    intro value hmem
    simp only [second, List.mem_cons, List.not_mem_nil, or_false] at hmem
    rcases hmem with rfl | rfl | rfl
    · exact ⟨.float (.ofInt 1), rfl⟩
    · exact ⟨.float (.ofInt 3), rfl⟩
    · exact ⟨.float (.ofInt 1), rfl⟩
  exact ⟨hvalid, hvalid', rfl, hlisted, encloses_iff_accepts hvalid hvalid' rfl hlisted⟩

end EnumType

namespace FieldType

/-- The enum in a valid type is valid. -/
theorem validate_core {type : FieldType} (hvalid : type.validate = .ok ()) {core : EnumType}
    (hcore : core ∈ type.core?) : core.validate = .ok () := by
  induction type with
  | simple kind => cases hcore
  | enum type =>
      cases hcore
      exact hvalid
  | list kind component ih => exact ih (validate_list hvalid) hcore

theorem encloses_trans {a b c : FieldType} (hab : a.encloses b = true)
    (hbc : b.encloses c = true) : a.encloses c = true := by
  rw [encloses_iff_lifted] at *
  exact hab.trans hbc EnumType.encloses_trans

theorem encloses_self {a : FieldType} (hvalid : a.validate = .ok ())
    (hnumbers : ∀ core ∈ a.core?, ∀ value ∈ core.values, value.hasNaN = false) :
    a.encloses a = true := by
  rw [encloses_iff_lifted]
  apply Lifted.refl
  intro core hcore
  exact (EnumType.Widens.refl core).encloses (validate_core hvalid hcore) (hnumbers core hcore)

/-- Enclosing is transitive on types and on definitions, and reflexive on every valid type
that lists no NaN and on definitions of such a type. A type whose enum was given more values
encloses the type it was, and is enclosed by it exactly if the enum allowed them all before. -/
theorem encloses_preorder (a b c : FieldType) (new middle old : FieldDefinition) :
    (a.encloses b = true → b.encloses c = true → a.encloses c = true) ∧
    (new.encloses middle = true → middle.encloses old = true → new.encloses old = true) ∧
    (a.validate = .ok () →
      (∀ core ∈ a.core?, ∀ value ∈ core.values, value.hasNaN = false) → a.encloses a = true) ∧
    (new.encloses new = true ↔ new.type.encloses new.type = true) ∧
    ∀ core ∈ a.core?, core.validate = .ok () →
      (∀ value ∈ core.values, value.hasNaN = false) →
      ∀ (wide : EnumType) (added : List FieldValue), wide.Widens added core →
        (a.withCore wide).encloses a = true ∧
        (a.encloses (a.withCore wide) = true ↔ ∀ value ∈ added, core.contains value = true) := by
  refine ⟨encloses_trans, ?_, encloses_self, ?_, ?_⟩
  · intro hnew hmiddle
    rw [FieldDefinition.encloses_iff] at *
    exact ⟨encloses_trans hnew.1 hmiddle.1, hmiddle.2 ∘ hnew.2⟩
  · rw [FieldDefinition.encloses_iff, and_iff_left id]
  · intro core hcore hvalid hnumbers wide added hwidens
    have hsame : a.withCore core = a := withCore_core hcore
    have hforth := compare_withCore hcore EnumType.encloses wide core
    have hback := compare_withCore hcore EnumType.encloses core wide
    rw [hsame, ← encloses_eq_compare] at hforth hback
    rw [hforth, hback]
    exact ⟨hwidens.encloses hvalid hnumbers, hwidens.enclosed_iff hvalid hnumbers⟩

/-- To the integers 1 and 3 the floats 1.0 and 0.5 are added, of which the first is nothing
new. -/
theorem encloses_preorder_float_enum :
    let core : EnumType := {base := .float, values := [.integer 1, .integer 3]}
    let added : List FieldValue := [.float (.ofInt 1), .float (.ofRatio false 1 2)]
    let wide : EnumType := {core with values := added ++ core.values, rewritable := true}
    let type := listOf (.enum core)
    let spelled := listOf (.enum {base := .float, values := [.float (.ofInt 3), .integer 1]})
    let narrow := listOf (.enum {base := .float, values := [.integer 3]})
    let new : FieldDefinition := {type}
    let middle : FieldDefinition := {type := spelled, required := true}
    let old : FieldDefinition := {type := narrow, required := true}
    (type.encloses spelled = true ∧ spelled.encloses narrow = true ∧
      type.encloses narrow = true) ∧
    (new.encloses middle = true ∧ middle.encloses old = true ∧ new.encloses old = true) ∧
    (type.validate = .ok () ∧
      (∀ core ∈ type.core?, ∀ value ∈ core.values, value.hasNaN = false) ∧
      type.encloses type = true) ∧
    core ∈ type.core? ∧ core.validate = .ok () ∧
      (∀ value ∈ core.values, value.hasNaN = false) ∧ wide.Widens added core ∧
      (type.withCore wide).encloses type = true ∧
      (type.encloses (type.withCore wide) = true ↔
        ∀ value ∈ added, core.contains value = true) := by
  intro core added wide type spelled narrow new middle old
  have hspelled : type.encloses spelled = true := by decide
  have hnarrow : spelled.encloses narrow = true := by decide
  have hmiddle : new.encloses middle = true := by decide
  have hold : middle.encloses old = true := by decide
  have hvalid : type.validate = .ok () := rfl
  have hnumbers : ∀ value ∈ core.values, value.hasNaN = false := by decide
  have hcores : ∀ core ∈ type.core?, ∀ value ∈ core.values, value.hasNaN = false := by
    rintro core ⟨⟩
    exact hnumbers
  have hwidens : wide.Widens added core := ⟨rfl, rfl, List.perm_append_comm⟩
  obtain ⟨htypes, hdefinitions, hself, _, hwiden⟩ :=
    encloses_preorder type spelled narrow new middle old
  exact ⟨⟨hspelled, hnarrow, htypes hspelled hnarrow⟩,
    ⟨hmiddle, hold, hdefinitions hmiddle hold⟩, ⟨hvalid, hcores, hself hvalid hcores⟩,
    rfl, hvalid, hnumbers, hwidens, hwiden core rfl hvalid hnumbers wide added hwidens⟩

end FieldType

end WorkSchema
