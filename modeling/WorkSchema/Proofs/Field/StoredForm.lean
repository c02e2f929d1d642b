import WorkSchema.Proofs.Field.Conversion
import WorkSchema.Proofs.Instant

/-!
When a stored value is in stored form, so that converting it again gives the
value itself. Every kind but one stores what it also accepts; an instant whose
year in UTC does not have four digits is stored as a text that nothing reads.
A default is taken as it is declared, which need not be the form in which its
kind stores it. Conversion neither makes a NaN nor removes one, and a value counts as
the same as itself unless it holds one.
-/

namespace WorkSchema

namespace FieldValue

mutual

/-- All texts that stand in a value. -/
def texts : FieldValue → List String
  | string text => [text]
  | list items => textsOf items
  | boolean _ | integer _ | float _ => []

def textsOf : List FieldValue → List String
  | [] => []
  | item :: rest => texts item ++ textsOf rest

end

theorem mem_textsOf {text : String} {items : List FieldValue} :
    text ∈ textsOf items ↔ ∃ item ∈ items, text ∈ item.texts := by
  induction items with
  | nil => simp [textsOf]
  | cons item rest ih => simp [textsOf, ih]

end FieldValue

namespace Kind

theorem representation_eq_instant_iff {kind : Kind} :
    kind.representation = .instant ↔ kind = .instant := by
  cases kind <;> decide

theorem representation_eq_float_iff {kind : Kind} :
    kind.representation = .float ↔ kind = .float := by
  cases kind <;> decide

/-- Whether the instants in a value keep a year of four digits when they are moved
to UTC, if the kind is that of instants. -/
def KeepsYears (kind : Kind) (value : FieldValue) : Prop :=
  kind = .instant → ∀ text ∈ value.texts, ∀ t, Instant.ofText? text = some t → t.FourDigitYear

/-- Whether a value is one that the kind stores: a float that is a number, an
instant in the one notation that is written, and anything under other kinds. -/
def IsStoredForm (kind : Kind) (value : FieldValue) : Prop :=
  (kind = .float → ∃ x : Binary64, value = .float x ∧ x.isNaN = false) ∧
    (kind = .instant →
      ∃ t : Instant, Instant.ofText? t.toText = some t ∧ value = .string t.toText)

theorem convert_instant_iff {value stored : FieldValue} :
    Kind.instant.convert value = .ok stored ↔
      ∃ text t, value = .string text ∧ Instant.ofText? text = some t ∧
        stored = .string t.toText := by
  cases value with
  | string text =>
      cases hread : Instant.ofText? text with
      | none => simp [convert, representation, hread]
      | some t => simp [convert, representation, hread, eq_comm]
  | _ => simp [convert, representation]

theorem convert_float_iff {value stored : FieldValue} :
    Kind.float.convert value = .ok stored ↔
      (∃ n, value = .integer n ∧ stored = .float (Binary64.ofInt n.toInt)) ∨
        ∃ x, value = .float x ∧ stored = .float x := by
  cases value <;> simp [convert, representation, eq_comm]

/-- Every other kind stores a value as it is, and none of them accepts a NaN. -/
theorem convert_exact {kind : Kind} {value stored : FieldValue} (hfloat : kind ≠ .float)
    (hinstant : kind ≠ .instant) (hconvert : kind.convert value = .ok stored) :
    stored = value ∧ value.hasNaN = false := by
  unfold convert at hconvert
  split at hconvert
  · cases hconvert
    exact ⟨rfl, rfl⟩
  · cases hconvert
    exact ⟨rfl, rfl⟩
  · rename_i hrepresentation
    exact absurd (representation_eq_float_iff.1 hrepresentation) hfloat
  · cases hconvert
    exact ⟨rfl, rfl⟩
  · split at hconvert
    · cases hconvert
      exact ⟨rfl, rfl⟩
    · cases hconvert
  · rename_i hrepresentation
    exact absurd (representation_eq_instant_iff.1 hrepresentation) hinstant
  · rename_i hrepresentation
    exact absurd (representation_eq_float_iff.1 hrepresentation) hfloat
  · cases hconvert

/-- Conversion makes no NaN and removes none. -/
theorem hasNaN_of_convert {kind : Kind} {value stored : FieldValue}
    (hconvert : kind.convert value = .ok stored) : stored.hasNaN = value.hasNaN := by
  by_cases hfloat : kind = .float
  · subst hfloat
    rcases convert_float_iff.1 hconvert with ⟨n, rfl, rfl⟩ | ⟨x, rfl, rfl⟩
    · exact Binary64.isNaN_ofRatio _ _ _
    · rfl
  · by_cases hinstant : kind = .instant
    · subst hinstant
      obtain ⟨text, t, rfl, _, rfl⟩ := convert_instant_iff.1 hconvert
      rfl
    · rw [(convert_exact hfloat hinstant hconvert).1]

/-- A value counts as the same as itself exactly if it holds no NaN. -/
theorem sameValue_self (kind : Kind) (value : FieldValue) :
    kind.sameValue value value = !value.hasNaN := by
  unfold sameValue
  cases hconvert : kind.convert value with
  | ok stored => exact hasNaN_of_convert hconvert ▸ FieldValue.equal_self stored
  | error error => exact FieldValue.equal_self value

/-- A value in stored form is stored as it is. -/
theorem convert_of_isStoredForm {kind : Kind} {value stored : FieldValue}
    (hform : kind.IsStoredForm value) (hconvert : kind.convert value = .ok stored) :
    kind.convert value = .ok value ∧ value.hasNaN = false := by
  by_cases hfloat : kind = .float
  · obtain ⟨x, rfl, hnumber⟩ := hform.1 hfloat
    rw [hfloat]
    exact ⟨rfl, hnumber⟩
  · by_cases hinstant : kind = .instant
    · obtain ⟨t, hread, rfl⟩ := hform.2 hinstant
      rw [hinstant]
      exact ⟨convert_instant_iff.2 ⟨_, t, rfl, hread, rfl⟩, rfl⟩
    · obtain ⟨rfl, hnumber⟩ := convert_exact hfloat hinstant hconvert
      exact ⟨hconvert, hnumber⟩

private theorem convert_stored {kind : Kind} {value stored : FieldValue} (hkind : kind ≠ .instant)
    (hconvert : kind.convert value = .ok stored) : kind.convert stored = .ok stored := by
  by_cases hfloat : kind = .float
  · subst hfloat
    rcases convert_float_iff.1 hconvert with ⟨n, _, rfl⟩ | ⟨x, _, rfl⟩
    · rfl
    · rfl
  · obtain ⟨rfl, _⟩ := convert_exact hfloat hkind hconvert
    exact hconvert

theorem convert_stored_iff {kind : Kind} {value stored : FieldValue}
    (hconvert : kind.convert value = .ok stored) :
    kind.convert stored = .ok stored ↔ kind.KeepsYears value := by
  by_cases hkind : kind = .instant
  · subst hkind
    obtain ⟨text, t, rfl, hread, rfl⟩ := convert_instant_iff.1 hconvert
    have hkeeps : Kind.instant.KeepsYears (.string text) ↔ t.FourDigitYear := by
      simp [KeepsYears, FieldValue.texts, hread]
    have hreread := Instant.ofText?_toText (Instant.valid_of_ofText? hread)
    rw [hkeeps, convert_instant_iff]
    constructor
    · rintro ⟨text', t', htext, hread', _⟩
      cases htext
      rw [hreread] at hread'
      split at hread'
      · assumption
      · cases hread'
    · intro hyear
      rw [if_pos hyear] at hreread
      exact ⟨t.toText, t, rfl, hreread, rfl⟩
  · exact iff_of_true (convert_stored hkind hconvert) fun h => absurd h hkind

/-- If the stored form of a value converts at all, it converts to itself. -/
theorem convert_again {kind : Kind} {value stored again : FieldValue}
    (hconvert : kind.convert value = .ok stored) (hagain : kind.convert stored = .ok again) :
    again = stored := by
  by_cases hkind : kind = .instant
  · subst hkind
    obtain ⟨text, t, rfl, hread, rfl⟩ := convert_instant_iff.1 hconvert
    obtain ⟨text', t', htext, hread', rfl⟩ := convert_instant_iff.1 hagain
    cases htext
    rw [Instant.ofText?_toText (Instant.valid_of_ofText? hread)] at hread'
    split at hread'
    · cases hread'
      rfl
    · cases hread'
  · rw [convert_stored hkind hconvert] at hagain
    cases hagain
    rfl

/-- A value counts as the same as its stored form, if that conforms and holds no NaN. -/
theorem sameValue_stored {kind : Kind} {value stored : FieldValue}
    (hconvert : kind.convert value = .ok stored) (hconforms : kind.conforms stored = true)
    (hnumber : stored.hasNaN = false) : kind.sameValue value stored = true := by
  obtain ⟨again, hagain⟩ := conforms_iff.1 hconforms
  rw [convert_again hconvert hagain] at hagain
  have hequal : stored.equal stored = true := by
    rw [FieldValue.equal_self, hnumber]
    rfl
  exact sameValue_iff.2 (.inl ⟨stored, stored, hconvert, hagain, hequal⟩)

end Kind

namespace FieldType

/-- The kind of the values at the bottom of a type. -/
def leaf : FieldType → Kind
  | simple kind => kind
  | enum type => type.base
  | list _ component => component.leaf

theorem keepsYears_list_iff {kind : Kind} {items : List FieldValue} :
    kind.KeepsYears (.list items) ↔ ∀ item ∈ items, kind.KeepsYears item := by
  simp only [Kind.KeepsYears, FieldValue.texts, FieldValue.mem_textsOf]
  constructor
  · intro hall item hitem hkind text htext
    exact hall hkind text ⟨item, hitem, htext⟩
  · rintro hall hkind text ⟨item, hitem, htext⟩
    exact hall item hitem hkind text htext

private theorem forall_stored_iff {component : FieldType} {kind : Kind}
    {items results : List FieldValue}
    (hall : List.Forall₂ (fun item result => component.convert item = .ok result) items results)
    (hone : ∀ item result, component.convert item = .ok result →
      (component.convert result = .ok result ↔ kind.KeepsYears item)) :
    (∀ result ∈ results, component.convert result = .ok result) ↔
      ∀ item ∈ items, kind.KeepsYears item := by
  induction hall with
  | nil => simp
  | cons hitem _ ih => simp only [List.mem_cons, forall_eq_or_imp, hone _ _ hitem, ih]

/-- A value that was submitted is stored in stored form exactly if no instant in
it leaves the years of four digits. -/
theorem convert_stored_iff {type : FieldType} {value stored : FieldValue}
    (hconvert : type.convert value = .ok stored) :
    type.convert stored = .ok stored ↔ type.leaf.KeepsYears value := by
  induction type generalizing value stored with
  | simple kind => exact Kind.convert_stored_iff hconvert
  | enum type =>
      obtain ⟨hbase, hcontains⟩ := EnumType.convert_iff.1 hconvert
      have hagain : type.convert stored = .ok stored ↔ type.base.convert stored = .ok stored := by
        rw [EnumType.convert_iff, and_iff_left hcontains]
      exact hagain.trans (Kind.convert_stored_iff hbase)
  | list kind component ih =>
      obtain ⟨items, results, rfl, rfl, hall⟩ := convert_list_iff.1 hconvert
      have hlist : (FieldType.list kind component).convert (.list results) = .ok (.list results) ↔
          ∀ result ∈ results, component.convert result = .ok result := by
        rw [convert_list_iff]
        constructor
        · rintro ⟨_, _, hitems, hresults, hsame⟩
          cases hitems
          cases hresults
          exact List.forall₂_same.1 hsame
        · exact fun hsame => ⟨results, results, rfl, rfl, List.forall₂_same.2 hsame⟩
      rw [hlist, leaf, keepsYears_list_iff]
      exact forall_stored_iff hall fun item result => ih

private theorem items_again {component : FieldType} {items results again : List FieldValue}
    (hfirst : List.Forall₂ (fun item result => component.convert item = .ok result) items results)
    (hsecond : List.Forall₂ (fun item result => component.convert item = .ok result) results again)
    (hone : ∀ item result again, component.convert item = .ok result →
      component.convert result = .ok again → again = result) : again = results := by
  induction hfirst generalizing again with
  | nil =>
      cases hsecond
      rfl
  | cons hitem _ ih =>
      cases hsecond with
      | cons hresult hrest => rw [hone _ _ _ hitem hresult, ih hrest]

/-- A stored value that is accepted a second time is stored as it is. -/
theorem convert_again {type : FieldType} {value stored again : FieldValue}
    (hconvert : type.convert value = .ok stored) (hagain : type.convert stored = .ok again) :
    again = stored := by
  induction type generalizing value stored again with
  | simple kind => exact Kind.convert_again hconvert hagain
  | enum type =>
      exact Kind.convert_again (EnumType.convert_iff.1 hconvert).1
        (EnumType.convert_iff.1 hagain).1
  | list kind component ih =>
      obtain ⟨items, results, rfl, rfl, hfirst⟩ := convert_list_iff.1 hconvert
      obtain ⟨items', results', hitems, rfl, hsecond⟩ := convert_list_iff.1 hagain
      cases hitems
      rw [items_again hfirst hsecond fun item result again => ih]

end FieldType

namespace EnumType

variable {type : EnumType}

/-- What the check of an enum promises. -/
theorem validate_eq_ok :
    type.validate = .ok () ↔
      type.values.isEmpty = false ∧ type.kind = .enum ∧ type.base.isComposite = false ∧
        (∀ value ∈ type.values, type.base.conforms value = true) ∧
          ∀ value, type.default? = some value → type.contains value = true := by
  simp only [validate, bind, Except.bind, throw, throwThe, MonadExceptOf.throw, pure, Except.pure]
  constructor
  · intro hvalid
    split at hvalid
    · cases hvalid
    · rename_i hsome
      split at hvalid
      · cases hvalid
      · rename_i hkind
        split at hvalid
        · cases hvalid
        · rename_i hcomposite
          split at hvalid
          · cases hvalid
          · rename_i hall
            refine ⟨by simpa using hsome, by simpa using hkind, by simpa using hcomposite, ?_, ?_⟩
            · intro value hvalue
              have hnone := Option.eq_none_iff_forall_ne_some.2 hall
              simpa using List.find?_eq_none.1 hnone value hvalue
            · intro value hdefault
              rw [hdefault] at hvalid
              simp only at hvalid
              split at hvalid
              · assumption
              · cases hvalid
  · rintro ⟨hsome, hkind, hcomposite, hall, hdefault⟩
    have hnone : type.values.find? (!type.base.conforms ·) = none := by
      rw [List.find?_eq_none]
      intro value hvalue
      simp [hall value hvalue]
    simp only [hsome, hkind, hcomposite, hnone, Bool.false_eq_true, if_false, ne_eq, not_true]
    cases hdeclared : type.default? with
    | none => rfl
    | some value => simp [hdefault value hdeclared]

theorem contains_of_mem {value : FieldValue} (hmem : value ∈ type.values)
    (hnumber : value.hasNaN = false) : type.contains value = true := by
  refine contains_iff.2 ⟨value, hmem, ?_⟩
  rw [Kind.sameValue_self, hnumber]
  rfl

/-- What stands in for a field that is left out conforms, and it is allowed unless
it is a NaN, which not even the value that is one allows. -/
theorem conforms_default (hvalid : type.validate = .ok ()) {value : FieldValue}
    (hdefault : type.effectiveDefault? = some value) :
    (∃ stored, type.base.convert value = .ok stored) ∧
      ∀ stored, type.base.convert value = .ok stored → stored.hasNaN = false →
        type.contains value = true := by
  obtain ⟨_, _, _, hconform, hexplicit⟩ := validate_eq_ok.1 hvalid
  unfold effectiveDefault? at hdefault
  cases hdeclared : type.default? with
  | some declared =>
      rw [hdeclared] at hdefault
      cases hdefault
      have hcontains := hexplicit value hdeclared
      have hconforms : type.base.conforms value = true := conforms_of_contains hconform hcontains
      exact ⟨Kind.conforms_iff.1 hconforms, fun _ _ _ => hcontains⟩
  | none =>
      rw [hdeclared, Option.none_or] at hdefault
      have hmem : value ∈ type.values := List.mem_of_mem_head? hdefault
      refine ⟨Kind.conforms_iff.1 (hconform value hmem), ?_⟩
      intro stored hstored hnumber
      rw [Kind.hasNaN_of_convert hstored] at hnumber
      exact contains_of_mem hmem hnumber

/-- A float that is allowed and stored as it is, is a number. -/
private theorem number_of_contains {value : FieldValue} (hfloat : type.base = .float)
    (hself : type.base.convert value = .ok value) (hcontains : type.contains value = true) :
    ∃ x : Binary64, value = .float x ∧ x.isNaN = false := by
  obtain ⟨allowed, _, hsame⟩ := contains_iff.1 hcontains
  obtain ⟨other, _, hsame'⟩ := Kind.convert_of_sameValue hsame hself
  rw [hfloat] at hself
  rcases Kind.convert_float_iff.1 hself with ⟨n, rfl, hinteger⟩ | ⟨x, rfl, _⟩
  · cases hinteger
  · rw [FieldValue.equal_comm] at hsame'
    obtain ⟨_, _, hequal⟩ := FieldValue.float_equal_iff.1 hsame'
    exact ⟨x, rfl, Binary64.isNaN_of_equal hequal⟩

/-- A value that an enum stores as it is, is one that its base stores. -/
private theorem isStoredForm_of_convert {value : FieldValue}
    (hconvert : type.convert value = .ok value) : type.base.IsStoredForm value := by
  obtain ⟨hself, hcontains⟩ := convert_iff.1 hconvert
  refine ⟨fun hfloat => number_of_contains hfloat hself hcontains, ?_⟩
  intro hinstant
  rw [hinstant] at hself
  obtain ⟨text, t, rfl, hread, htext⟩ := Kind.convert_instant_iff.1 hself
  cases htext
  exact ⟨t, hread, rfl⟩

/-- Whatever the enum is like, a value that it accepts is stored as it is exactly if
it is in stored form. -/
theorem stored_eq_iff {value stored : FieldValue} (hconvert : type.convert value = .ok stored) :
    stored = value ↔ type.base.IsStoredForm value := by
  constructor
  · rintro rfl
    exact isStoredForm_of_convert hconvert
  · intro hform
    have hbase := (convert_iff.1 hconvert).1
    rw [(Kind.convert_of_isStoredForm hform hbase).1] at hbase
    cases hbase
    rfl

/-- A default of a valid enum is in stored form exactly if it is declared so. -/
theorem convert_default_iff (hvalid : type.validate = .ok ()) {value : FieldValue}
    (hdefault : type.effectiveDefault? = some value) :
    type.convert value = .ok value ↔ type.base.IsStoredForm value := by
  obtain ⟨⟨stored, hstored⟩, hallowed⟩ := conforms_default hvalid hdefault
  constructor
  · exact isStoredForm_of_convert
  · intro hform
    obtain ⟨hself, hnumber⟩ := Kind.convert_of_isStoredForm hform hstored
    exact convert_iff.2 ⟨hself, hallowed value hself hnumber⟩

end EnumType

namespace FieldType

/-- Whether what stands in for a field that is left out is in stored form. Only
enums have a default that is declared. -/
def IsStoredDefault : FieldType → FieldValue → Prop
  | enum type, value => type.base.IsStoredForm value
  | simple _, _ | list _ _, _ => True

theorem convert_default_iff {type : FieldType} (hvalid : type.validate = .ok ())
    {value : FieldValue} (hdefault : type.default? = some value) :
    type.convert value = .ok value ↔ type.IsStoredDefault value := by
  cases type with
  | simple kind => cases hdefault
  | enum type => exact EnumType.convert_default_iff hvalid hdefault
  | list kind component =>
      cases hdefault
      exact iff_of_true rfl trivial

/-- A default that its type accepts is stored as it is exactly if it is declared in
stored form. -/
theorem stored_eq_default_iff {type : FieldType} {value stored : FieldValue}
    (hdefault : type.default? = some value) (hconvert : type.convert value = .ok stored) :
    stored = value ↔ type.IsStoredDefault value := by
  cases type with
  | simple kind => cases hdefault
  | enum type => exact EnumType.stored_eq_iff hconvert
  | list kind component =>
      cases hdefault
      cases hconvert
      exact iff_of_true rfl trivial

end FieldType

end WorkSchema
