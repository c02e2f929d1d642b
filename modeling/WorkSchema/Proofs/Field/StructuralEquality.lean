import WorkSchema.Proofs.Field.Enclosing

/-!
Structural equality compares values in the form in which they are stored, and sets of values
without regard to their order. It is transitive, and reflexive where no NaN is compared. It is
symmetric but for one case: a rewritable enum asks nothing about the values of the other, and
an enum that is not rewritable equals none that is. Types that are equal because of their
values convert alike, and enclose each other if they are valid.
-/

namespace WorkSchema

namespace EnumType

variable {a b c : EnumType}

/-- Whether neither the values nor the default of an enum hold a NaN. -/
structure FreeOfNaN (type : EnumType) : Prop where
  values : ∀ value ∈ type.values, value.hasNaN = false
  default : ∀ value ∈ type.default?, value.hasNaN = false

theorem sameDefault_iff :
    a.sameDefault b = true ↔
      Option.Rel (fun x y => a.base.sameValue x y = true) a.default? b.default? := by
  unfold sameDefault
  cases a.default? with
  | none =>
      cases b.default? with
      | none => exact iff_of_true rfl .none
      | some y => exact ⟨nofun, nofun⟩
  | some x =>
      cases b.default? with
      | none => exact ⟨nofun, nofun⟩
      | some y => rw [Option.rel_some_some]

theorem sameDefault_self (hfree : a.FreeOfNaN) : a.sameDefault a = true := by
  rw [sameDefault_iff]
  cases hdefault : a.default? with
  | none => exact .none
  | some value =>
      refine .some ?_
      rw [Kind.sameValue_self, hfree.default value hdefault]
      rfl

theorem sameDefault_symm (hbase : a.base = b.base) (hab : a.sameDefault b = true) :
    b.sameDefault a = true := by
  rw [sameDefault_iff, hbase] at hab
  rw [sameDefault_iff]
  generalize a.default? = x?, b.default? = y? at *
  cases hab with
  | none => exact .none
  | some hxy => exact .some ((Kind.sameValue_comm _ _ _).trans hxy)

theorem sameDefault_trans (hbase : a.base = b.base) (hab : a.sameDefault b = true)
    (hbc : b.sameDefault c = true) : a.sameDefault c = true := by
  rw [sameDefault_iff] at *
  rw [← hbase] at hbc
  generalize a.default? = x?, b.default? = y?, c.default? = z? at *
  cases hab with
  | none =>
      cases hbc
      exact .none
  | some hxy =>
      cases hbc with
      | some hyz => exact .some (Kind.sameValue_trans hxy hyz)

theorem sameValues_iff :
    a.sameValues b = true ↔
      a.values.length = b.values.length ∧ (∀ value ∈ a.values, b.contains value = true) ∧
        ∀ value ∈ b.values, a.contains value = true := by
  simp only [sameValues, Bool.and_eq_true, beq_iff_eq, List.all_eq_true, and_assoc]

theorem sameValues_self (hfree : a.FreeOfNaN) : a.sameValues a = true := by
  have hall : ∀ value ∈ a.values, a.contains value = true := fun value hmem =>
    contains_of_mem hmem (hfree.values value hmem)
  exact sameValues_iff.2 ⟨rfl, hall, hall⟩

theorem sameValues_symm (hab : a.sameValues b = true) : b.sameValues a = true := by
  obtain ⟨hlength, hinto, hback⟩ := sameValues_iff.1 hab
  exact sameValues_iff.2 ⟨hlength.symm, hback, hinto⟩

theorem sameValues_trans (hab : a.base = b.base) (hbc : b.base = c.base)
    (hfirst : a.sameValues b = true) (hsecond : b.sameValues c = true) :
    a.sameValues c = true := by
  obtain ⟨hlength, hinto, hback⟩ := sameValues_iff.1 hfirst
  obtain ⟨hlength', hinto', hback'⟩ := sameValues_iff.1 hsecond
  refine sameValues_iff.2 ⟨hlength.trans hlength', ?_, ?_⟩
  · exact fun value hmem => contains_of_all hbc.symm hinto' (hinto value hmem)
  · exact fun value hmem => contains_of_all hab hback (hback' value hmem)

theorem equal_iff :
    a.equal b = true ↔
      a.kind = b.kind ∧ a.base = b.base ∧ a.sameDefault b = true ∧
        (a.rewritable = true ∨ b.rewritable = false ∧ a.sameValues b = true) := by
  simp only [equal, Bool.and_eq_true, Bool.or_eq_true, Bool.not_eq_true', beq_iff_eq, and_assoc]

/-- What equality says when it does compare the values. -/
theorem sameValues_of_equal (hequal : a.equal b = true) (hfixed : a.rewritable = false) :
    a.base = b.base ∧ b.rewritable = false ∧ a.sameValues b = true := by
  obtain ⟨_, hbase, _, hrewritable | hcompared⟩ := equal_iff.1 hequal
  · rw [hfixed] at hrewritable
    cases hrewritable
  · exact ⟨hbase, hcompared⟩

theorem equal_self (hfree : a.FreeOfNaN) : a.equal a = true := by
  refine equal_iff.2 ⟨rfl, rfl, sameDefault_self hfree, ?_⟩
  cases a.rewritable with
  | false => exact .inr ⟨rfl, sameValues_self hfree⟩
  | true => exact .inl rfl

theorem equal_trans (hab : a.equal b = true) (hbc : b.equal c = true) : a.equal c = true := by
  obtain ⟨hkind, hbase, hdefault, hvalues⟩ := equal_iff.1 hab
  obtain ⟨hkind', hbase', hdefault', _⟩ := equal_iff.1 hbc
  refine equal_iff.2
    ⟨hkind.trans hkind', hbase.trans hbase', sameDefault_trans hbase hdefault hdefault', ?_⟩
  rcases hvalues with hrewritable | ⟨hfixed, hsame⟩
  · exact .inl hrewritable
  · obtain ⟨_, hfixed', hsame'⟩ := sameValues_of_equal hbc hfixed
    exact .inr ⟨hfixed', sameValues_trans hbase hbase' hsame hsame'⟩

/-- Only a rewritable enum can equal one that does not equal it. -/
theorem equal_back_iff (hab : a.equal b = true) :
    b.equal a = true ↔ (a.rewritable = true → b.rewritable = true) := by
  obtain ⟨hkind, hbase, hdefault, _⟩ := equal_iff.1 hab
  have hback : b.equal a = true ↔
      b.rewritable = true ∨ a.rewritable = false ∧ b.sameValues a = true := by
    rw [equal_iff]
    simp only [hkind, hbase, sameDefault_symm hbase hdefault, true_and]
  rw [hback]
  constructor
  · rintro (hrewritable | ⟨hfixed, _⟩) ha
    · exact hrewritable
    · rw [hfixed] at ha
      cases ha
  · intro hflags
    cases ha : a.rewritable with
    | true => exact .inl (hflags ha)
    | false => exact .inr ⟨rfl, sameValues_symm (sameValues_of_equal hab ha).2.2⟩

theorem contains_eq_of_equal (hequal : a.equal b = true) (hfixed : a.rewritable = false)
    (value : FieldValue) : a.contains value = b.contains value := by
  obtain ⟨hbase, _, hsame⟩ := sameValues_of_equal hequal hfixed
  obtain ⟨_, hinto, hback⟩ := sameValues_iff.1 hsame
  rw [Bool.eq_iff_iff]
  exact ⟨contains_of_all hbase.symm hinto, contains_of_all hbase hback⟩

theorem convert_eq_of_equal (hequal : a.equal b = true) (hfixed : a.rewritable = false) :
    a.convert = b.convert := by
  have hbase := (sameValues_of_equal hequal hfixed).1
  funext value
  simp only [convert, hbase, contains_eq_of_equal hequal hfixed]

/-- Neither has to be free of NaN, since one that lists a NaN equals nothing. -/
theorem encloses_of_equal (hequal : a.equal b = true) (hfixed : a.rewritable = false)
    (ha : a.validate = .ok ()) (hb : b.validate = .ok ()) :
    a.encloses b = true ∧ b.encloses a = true := by
  obtain ⟨hkind, hbase, _⟩ := equal_iff.1 hequal
  obtain ⟨_, hinto, hback⟩ := sameValues_iff.1 (sameValues_of_equal hequal hfixed).2.2
  have hsome := (validate_eq_ok.1 ha).1
  have hsome' := (validate_eq_ok.1 hb).1
  exact ⟨encloses_iff.2 ⟨hkind, hbase, hsome, hsome', hback⟩,
    encloses_iff.2 ⟨hkind.symm, hbase.symm, hsome', hsome, hinto⟩⟩

end EnumType

namespace FieldType

variable {a b c : FieldType}

/-- Whether the enum in a type is rewritable, if it has one. -/
def rewritable? (type : FieldType) : Option Bool := type.core?.map (·.rewritable)

theorem equal_self (hfree : ∀ core ∈ a.core?, core.FreeOfNaN) : a.equal a = true := by
  rw [equal_iff_lifted]
  exact Lifted.refl fun core hcore => EnumType.equal_self (hfree core hcore)

theorem equal_trans (hab : a.equal b = true) (hbc : b.equal c = true) : a.equal c = true := by
  rw [equal_iff_lifted] at *
  exact hab.trans hbc EnumType.equal_trans

theorem equal_back_iff (hab : a.equal b = true) :
    b.equal a = true ↔ (a.rewritable? = some true → b.rewritable? = some true) := by
  rw [equal_iff_lifted] at hab
  induction hab with
  | simple kind => simp [equal, rewritable?, core?]
  | enum hcores => simpa [equal, rewritable?, core?] using EnumType.equal_back_iff hcores
  | list kind _ ih => simpa [equal, rewritable?, core?] using ih

/-- Types that are equal either both have an enum or both have none. -/
theorem isSome_rewritable? (hab : a.equal b = true) :
    a.rewritable?.isSome = b.rewritable?.isSome := by
  rw [equal_iff_lifted] at hab
  induction hab with
  | simple kind => rfl
  | enum _ => rfl
  | list kind _ ih => exact ih

/-- Structural equality is reflexive without NaN and transitive, and if it holds one way only
then from a rewritable enum to one that is not. The equality of stored values is the same
relation. -/
theorem equal_preorder (a b c : FieldType) :
    ((∀ core ∈ a.core?, core.FreeOfNaN) → a.equal a = true) ∧
    (a.equal b = true → b.equal c = true → a.equal c = true) ∧
    (a.equal b = true →
      (a.rewritable? = b.rewritable? → b.equal a = true) ∧
      (b.equal a = false ↔ a.rewritable? = some true ∧ b.rewritable? = some false)) ∧
    a.equalValue b = a.equal b := by
  refine ⟨equal_self, equal_trans, ?_, ?_⟩
  · intro hab
    have hback := equal_back_iff hab
    have hsome := isSome_rewritable? hab
    constructor
    · intro hflags
      exact hback.2 fun ha => hflags ▸ ha
    · rw [← Bool.not_eq_true, hback, Classical.not_imp, and_congr_right_iff]
      intro ha
      rw [ha, Option.isSome_some, eq_comm, Option.isSome_iff_exists] at hsome
      obtain ⟨flag, hb⟩ := hsome
      simp [hb]
  · rw [equalValue_eq_compare, equal_eq_compare]

/-- A rewritable enum equals one with other values, which equals one that lists them in another
order. -/
theorem equal_preorder_rewritable :
    let loose := listOf (.enum {base := .string, values := [.string "new"], rewritable := true})
    let fixed := listOf (.enum {base := .string, values := [.string "new", .string "done"]})
    let turned := listOf (.enum {base := .string, values := [.string "done", .string "new"]})
    (∀ core ∈ loose.core?, core.FreeOfNaN) ∧ loose.equal loose = true ∧
    (loose.equal fixed = true ∧ fixed.equal turned = true ∧ loose.equal turned = true) ∧
    (loose.rewritable? = some true ∧ fixed.rewritable? = some false ∧
      fixed.equal loose = false) := by
  intro loose fixed turned
  have hfree : ∀ core ∈ loose.core?, core.FreeOfNaN := by
    rintro core ⟨⟩
    exact ⟨by decide, by decide⟩
  have hfirst : loose.equal fixed = true := by decide
  have hsecond : fixed.equal turned = true := by decide
  obtain ⟨hself, htrans, hback, _⟩ := equal_preorder loose fixed turned
  exact ⟨hfree, hself hfree, ⟨hfirst, hsecond, htrans hfirst hsecond⟩, rfl, rfl,
    (hback hfirst).2.2 ⟨rfl, rfl⟩⟩

/-- Types that are equal convert every value alike, to the same stored value or to the same
error, unless the first is rewritable; if they are valid, each then encloses the other. -/
theorem converts_alike_of_equal (a b : FieldType) (hequal : a.equal b = true)
    (hfixed : a.rewritable? ≠ some true) :
    (∀ value, a.convert value = b.convert value) ∧
    (a.validate = .ok () → b.validate = .ok () → a.encloses b = true ∧ b.encloses a = true) := by
  have hcores : Lifted (fun x y => x.equal y = true ∧ x.rewritable = false) a b := by
    refine (equal_iff_lifted.1 hequal).imp fun x hx y _ hxy => ⟨hxy, ?_⟩
    rw [rewritable?, Option.mem_def.1 hx, Option.map_some] at hfixed
    simpa using hfixed
  constructor
  · have halike : Lifted (fun x y => x.convert = y.convert) a b :=
      hcores.imp fun _ _ _ _ hxy => EnumType.convert_eq_of_equal hxy.1 hxy.2
    exact congrFun halike.convert_eq
  · intro ha hb
    have hboth : Lifted (fun x y => x.encloses y = true ∧ y.encloses x = true) a b :=
      hcores.imp fun x hx y hy hxy =>
        EnumType.encloses_of_equal hxy.1 hxy.2 (validate_core ha hx) (validate_core hb hy)
    rw [encloses_iff_lifted, encloses_iff_lifted]
    exact ⟨hboth.imp fun _ _ _ _ hxy => hxy.1, hboth.swap.imp fun _ _ _ _ hyx => hyx.2⟩

/-- The same two instants, in another order, with other offsets, and each of them listed twice
by one of the two. -/
theorem converts_alike_instants :
    let a := listOf (.enum {base := .instant, values := [
      .string "2024-06-01T12:00:00+02:00", .string "2024-06-02T00:00:00Z",
      .string "2024-06-02T00:00:00Z"]})
    let b := listOf (.enum {base := .instant, values := [
      .string "2024-06-02T01:00:00+01:00", .string "2024-06-01T10:00:00Z",
      .string "2024-06-01T05:00:00-05:00"]})
    a.equal b = true ∧ a.rewritable? ≠ some true ∧
    (∀ value, a.convert value = b.convert value) ∧
    (a.validate = .ok () ∧ b.validate = .ok () ∧ a.encloses b = true ∧ b.encloses a = true) := by
  intro a b
  have hequal : a.equal b = true := by decide +kernel
  have hfixed : a.rewritable? ≠ some true := nofun
  have ha : a.validate = .ok () :=
    Outcome.eq_ok_of_any (fun _ => true) (fun _ _ => rfl) (by decide +kernel)
  have hb : b.validate = .ok () :=
    Outcome.eq_ok_of_any (fun _ => true) (fun _ _ => rfl) (by decide +kernel)
  obtain ⟨hconvert, hencloses⟩ := converts_alike_of_equal a b hequal hfixed
  exact ⟨hequal, hfixed, hconvert, ha, hb, hencloses ha hb⟩

end FieldType

end WorkSchema
