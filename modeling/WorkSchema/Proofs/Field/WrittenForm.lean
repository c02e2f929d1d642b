import WorkSchema.Field.TypeForm
import WorkSchema.Proofs.Field.Equality
import WorkSchema.Proofs.Outcome

/-!
A field type that is written as JSON and read back. Which of the three forms it has is
not written, yet every type, malformed or not, comes back as it was, unless there is a
float in it that JSON has no number for: such a float is written as null, which stands
for no value inside another and for no default in the place of one.
-/

namespace WorkSchema

namespace FieldValue

mutual

/-- All floating-point numbers that stand in a value. -/
def floats : FieldValue → List Binary64
  | float x => [x]
  | list items => floatsOf items
  | boolean _ | integer _ | string _ => []

def floatsOf : List FieldValue → List Binary64
  | [] => []
  | item :: rest => floats item ++ floatsOf rest

end

/-- Whether every float in a value is a finite number. -/
def isFinite (value : FieldValue) : Bool := value.floats.all Binary64.isFinite

def areFinite (items : List FieldValue) : Bool := (floatsOf items).all Binary64.isFinite

theorem isFinite_list (items : List FieldValue) : (list items).isFinite = areFinite items := by
  simp [isFinite, areFinite, floats]

theorem areFinite_cons (item : FieldValue) (rest : List FieldValue) :
    areFinite (item :: rest) = (item.isFinite && areFinite rest) := by
  simp [isFinite, areFinite, floatsOf]

end FieldValue

namespace Source

mutual

/-- A JSON value is a source without faults. -/
theorem fault?_ofJson : ∀ json : Json, (ofJson json).fault? = none
  | .null | .bool _ | .number _ | .string _ => rfl
  | .array items => by simp [ofJson, fault?, itemsFault?_ofJson items]
  | .object members => by simp [ofJson, fault?, membersFault?_ofJson members]

theorem itemsFault?_ofJson : ∀ items : List Json, itemsFault? (itemsOfJson items) = none
  | [] => rfl
  | item :: rest => by
      simp [itemsOfJson, itemsFault?, fault?_ofJson item, itemsFault?_ofJson rest]

theorem membersFault?_ofJson : ∀ members : List (String × Json),
    membersFault? (membersOfJson members) = none
  | [] => rfl
  | (name, value) :: rest => by
      simp [membersOfJson, membersFault?, fault?, fault?_ofJson value, membersFault?_ofJson rest]

end

end Source

namespace FieldValue

theorem int64?_toInt (n : Int64) : int64? n.toInt = some n := by
  have hlower := n.le_toInt
  have hupper := n.toInt_lt
  have hrange : Int64.minValue.toInt ≤ n.toInt ∧ n.toInt ≤ Int64.maxValue.toInt := by
    rw [Int64.toInt_minValue, Int64.toInt_maxValue]
    omega
  rw [int64?, if_pos hrange, Int64.ofInt_toInt]

theorem ofInt_toInt (n : Int64) : ∃ lower upper,
    Json.ofInt n.toInt = .number (.integer n.toInt lower upper) := by
  have hlower := n.le_toInt
  have hupper := n.toInt_lt
  have hrange : -0x8000000000000000 ≤ n.toInt ∧ n.toInt < 0x10000000000000000 := by omega
  exact ⟨hrange.1, hrange.2, dif_pos hrange⟩

mutual

/-- A value is read back from its JSON exactly if every float in it is finite. -/
theorem ofSource?_toJson : ∀ value : FieldValue,
    ofSource? (.ofJson value.toJson) = if value.isFinite then some value else none
  | boolean value => rfl
  | integer value => by
      obtain ⟨lower, upper, hjson⟩ := ofInt_toInt value
      simp only [toJson, toDocument, Document.toJson, hjson]
      simp [Source.ofJson, ofSource?, boolean?, integer?, int64?_toInt, isFinite, floats]
  | string value => rfl
  | float x => by
      cases hfinite : x.isFinite with
      | true =>
          simp [toJson, toDocument, Document.toJson, Json.ofFloat, hfinite, Source.ofJson,
            ofSource?, boolean?, integer?, float?, isFinite, floats]
      | false =>
          simp [toJson, toDocument, Document.toJson, Json.ofFloat, hfinite, Source.ofJson,
            ofSource?, boolean?, integer?, float?, string?, isFinite, floats]
  | list items => by
      have hitems := itemsOfSource?_toJson items
      simp only [toJson, toDocument, Document.toJson, Source.ofJson] at hitems ⊢
      simp [ofSource?, boolean?, integer?, float?, string?, hitems, isFinite_list]

theorem itemsOfSource?_toJson : ∀ items : List FieldValue,
    itemsOfSource? (Source.itemsOfJson (Document.itemsToJson (itemsToDocument items))) =
      if areFinite items then some items else none
  | [] => rfl
  | item :: rest => by
      have hitem := ofSource?_toJson item
      rw [toJson] at hitem
      simp only [itemsToDocument, Document.itemsToJson, Source.itemsOfJson, itemsOfSource?, hitem,
        itemsOfSource?_toJson rest, areFinite_cons]
      cases item.isFinite <;> cases areFinite rest <;> rfl

end

theorem read_toJson (value : FieldValue) :
    read (.ofJson value.toJson) = if value.isFinite then .ok value else .error .noValue := by
  rw [read, Source.fault?_ofJson, ofSource?_toJson]
  cases value.isFinite <;> rfl

/-- What a sequence of values is read as. -/
theorem readList_toJson (values : List FieldValue) :
    Source.readList read (.ofJson (.array (Document.itemsToJson (itemsToDocument values)))) =
      if areFinite values then .ok values else .error .noValue := by
  have hitems : (Source.itemsOfJson (Document.itemsToJson (itemsToDocument values))).mapM read =
      if areFinite values then .ok values else .error .noValue := by
    induction values with
    | nil => rfl
    | cons value rest ih =>
        have hvalue := read_toJson value
        rw [toJson] at hvalue
        simp only [itemsToDocument, Document.itemsToJson, Source.itemsOfJson, List.mapM_cons,
          hvalue, ih, areFinite_cons]
        cases value.isFinite <;> cases areFinite rest <;> rfl
  rw [Source.ofJson, Source.readList, hitems]
  cases areFinite values <;> rfl

/-- A float without a number is written as null, and so is no other value. -/
theorem isAbsent_toJson (value : FieldValue) :
    (Source.ofJson value.toJson).isAbsent = true ↔ ∃ x, value = float x ∧ x.isFinite = false := by
  cases value with
  | integer value =>
      obtain ⟨lower, upper, hjson⟩ := ofInt_toInt value
      simp [toJson, toDocument, Document.toJson, hjson, Source.ofJson, Source.isAbsent]
  | float x =>
      cases hfinite : x.isFinite <;>
        simp [toJson, toDocument, Document.toJson, Json.ofFloat, hfinite, Source.ofJson,
          Source.isAbsent]
  | _ => simp [toJson, toDocument, Document.toJson, Source.ofJson, Source.isAbsent]

end FieldValue

theorem Kind.read_name (kind : Kind) : read .jsonValue (.string kind.name) = .ok kind := by
  rw [read, ofNameOrFail, ofName?_name]
  rfl

namespace TypeForm

theorem readBase_toJson (kind : Kind) :
    readBase .jsonValue (.ofJson (kindDocument kind).toJson) = .ok kind := by
  have hjson : (kindDocument kind).toJson = .object [("kind", .string kind.name)] := rfl
  rw [hjson]
  simp [Source.ofJson, Source.membersOfJson, readBase, baseReader, RecordReader.read,
    RecordReader.readMembers, Source.readString, Kind.read_name, Source.close,
    RecordReader.checkMissing]
  rfl

/-- The JSON value that a form is written as. -/
def toJson (form : TypeForm) : Json := form.toDocument.toJson

/-- What a default is read back as. A float that is not finite is read as none. -/
def readDefault : Option FieldValue → Decoded (Option FieldValue)
  | none => .ok none
  | some value => (Source.ofJson value.toJson).readOptional FieldValue.read

theorem readDefault_some (value : FieldValue) :
    readDefault (some value) =
      if value.isFinite then .ok (some value)
      else if (Source.ofJson value.toJson).isAbsent then .ok none else .error .noValue := by
  have hnamed : (Source.ofJson value.toJson).misnamesNull = false := by
    cases value.toJson <;> rfl
  rw [readDefault, Source.readOptional, hnamed, FieldValue.read_toJson]
  cases habsent : (Source.ofJson value.toJson).isAbsent with
  | false => cases value.isFinite <;> rfl
  | true =>
      obtain ⟨x, rfl, hx⟩ := (FieldValue.isAbsent_toJson value).mp habsent
      simp [FieldValue.isFinite, FieldValue.floats, hx]
      rfl

section Members

variable {draft : Draft}

theorem readMembers_nil : readMembers .jsonValue draft [] = .ok draft := by
  rw [readMembers]
  rfl

theorem readMembers_cons {name : String} (hname : name ≠ "component_type") (value : Source)
    (rest : List (Source × Source)) :
    readMembers .jsonValue draft ((.string name, value) :: rest) = (do
      let draft ← draft.assign .jsonValue name value
      readMembers .jsonValue draft rest) := by
  simp [readMembers, Source.readString, hname]

theorem assign_kind (hnew : draft.kind? = none) (kind : Kind) :
    draft.assign .jsonValue "kind" (.string kind.name) = .ok {draft with kind? := some kind} := by
  simp [Draft.assign, Draft.once, hnew, Kind.read_name, Outcome.ok_bind, pure, Except.pure]

theorem assign_base (hnew : draft.base? = none) (base : Kind) :
    draft.assign .jsonValue "base_type" (.ofJson (kindDocument base).toJson) =
      .ok {draft with base? := some (some base)} := by
  have hread : (Source.ofJson (kindDocument base).toJson).readOptional (readBase .jsonValue) =
      .ok (some base) := by
    have hthere : (Source.ofJson (kindDocument base).toJson).isAbsent = false := rfl
    have hnamed : (Source.ofJson (kindDocument base).toJson).misnamesNull = false := rfl
    rw [Source.readOptional, hthere, hnamed, readBase_toJson]
    rfl
  simp [Draft.assign, Draft.once, hnew, hread, Outcome.ok_bind, pure, Except.pure]

theorem assign_values (hnew : draft.values? = none) (values : List FieldValue) :
    draft.assign .jsonValue "values"
        (.ofJson (.array (Document.itemsToJson (FieldValue.itemsToDocument values)))) =
      if FieldValue.areFinite values then .ok {draft with values? := some (some values)}
      else .error .noValue := by
  have hlist := FieldValue.readList_toJson values
  rw [Source.ofJson] at hlist ⊢
  simp [Draft.assign, Draft.once, hnew, Source.readOptional, Source.isAbsent, Source.misnamesNull,
    hlist]
  cases FieldValue.areFinite values <;> rfl

theorem assign_rewritable (hnew : draft.rewritable? = none) (rewritable : Bool) :
    draft.assign .jsonValue "rewritable" (.bool rewritable) =
      .ok {draft with rewritable? := some (some rewritable)} := by
  simp [Draft.assign, Draft.once, hnew, Source.readOptional, Source.isAbsent, Source.misnamesNull,
    Source.readBool]
  rfl

theorem assign_default (hnew : draft.default? = none) (value : FieldValue) :
    draft.assign .jsonValue "default" (.ofJson value.toJson) = (do
      let default? ← readDefault (some value)
      return {draft with default? := some default?}) := by
  simp [Draft.assign, Draft.once, hnew, readDefault]

end Members

theorem read_simple (kind : Kind) :
    read .jsonValue (.ofJson (toJson {kind})) = .ok {kind} := by
  have hjson : Source.ofJson (toJson {kind}) =
      .mapping [(.string "kind", .string kind.name)] none := rfl
  rw [hjson, read, readMembers_cons (by decide), assign_kind rfl, Outcome.ok_bind,
    readMembers_nil]
  rfl

theorem ofJson_toJson (form : TypeForm) :
    ∃ members, Source.ofJson form.toJson = .mapping members none := by
  obtain ⟨kind, base?, values?, rewritable?, default?, component?⟩ := form
  exact ⟨_, by rw [toJson, toDocument.eq_def, Document.toJson, Json.objectOf, Source.ofJson]⟩

theorem read_list (kind : Kind) (component : TypeForm) :
    read .jsonValue (.ofJson (toJson {kind, component? := some component})) = (do
      let component ← read .jsonValue (.ofJson component.toJson)
      return {kind, component? := some component}) := by
  have hjson : Source.ofJson (toJson {kind, component? := some component}) =
      .mapping [(.string "component_type", .ofJson component.toJson),
        (.string "kind", .string kind.name)] none := rfl
  have hcomponent : readComponent .jsonValue (.ofJson component.toJson) = (do
      return some (← read .jsonValue (.ofJson component.toJson))) := by
    obtain ⟨members, hmembers⟩ := ofJson_toJson component
    rw [hmembers, readComponent]
    rfl
  rw [hjson, read, readMembers, hcomponent]
  cases read .jsonValue (.ofJson component.toJson) with
  | error error => rfl
  | ok component =>
      simp only [Source.readString, Draft.once, pure_bind, if_true, Outcome.ok_bind]
      rw [readMembers_cons (by decide), assign_kind rfl, Outcome.ok_bind, readMembers_nil]
      rfl

theorem read_enum (type : EnumType) :
    read .jsonValue (.ofJson (FieldType.enum type).toForm.toJson) = (do
      let default? ← readDefault type.default?
      if FieldValue.areFinite type.values then
        return {(FieldType.enum type).toForm with default?}
      else throw .noValue) := by
  obtain ⟨kind, base, values, rewritable, default?⟩ := type
  let valuesJson := Json.array (Document.itemsToJson (FieldValue.itemsToDocument values))
  -- the members are in the order of their names, with the default in second place
  have hjson : Source.ofJson
      (FieldType.enum ⟨kind, base, values, rewritable, default?⟩).toForm.toJson =
        .mapping ((.string "base_type", .ofJson (kindDocument base).toJson) ::
          ((default?.map fun value => (.string "default", .ofJson value.toJson)).toList ++
          [(.string "kind", .string kind.name), (.string "rewritable", .bool rewritable),
            (.string "values", .ofJson valuesJson)])) none := by
    cases default? <;> rfl
  rw [hjson, read, readMembers_cons (by decide), assign_base rfl, Outcome.ok_bind]
  cases default? with
  | none =>
      simp only [Option.map_none, Option.toList_none, List.nil_append, valuesJson]
      rw [readMembers_cons (by decide), assign_kind rfl, Outcome.ok_bind,
        readMembers_cons (by decide), assign_rewritable rfl, Outcome.ok_bind,
        readMembers_cons (by decide), assign_values rfl]
      simp only [readMembers_nil]
      cases FieldValue.areFinite values <;> rfl
  | some value =>
      simp only [Option.map_some, Option.toList_some, List.singleton_append, valuesJson]
      rw [readMembers_cons (by decide), assign_default rfl]
      cases readDefault (some value) with
      | error error => rfl
      | ok default? =>
          simp only [Outcome.ok_bind, pure_bind]
          rw [readMembers_cons (by decide), assign_kind rfl, Outcome.ok_bind,
            readMembers_cons (by decide), assign_rewritable rfl, Outcome.ok_bind,
            readMembers_cons (by decide), assign_values rfl]
          simp only [readMembers_nil]
          cases FieldValue.areFinite values <;> rfl

end TypeForm

namespace FieldValue

mutual

/-- Finite numbers are no NaN, so a value of such numbers equals itself. -/
theorem hasNaN_of_isFinite : ∀ value : FieldValue, value.isFinite = true → value.hasNaN = false
  | boolean _, _ | integer _, _ | string _, _ => rfl
  | float x, hfinite => by
      have hnumber : x.isFinite = true := by simpa [isFinite, floats] using hfinite
      exact (Binary64.isFinite_iff.mp hnumber).1
  | list items, hfinite => by
      rw [isFinite_list] at hfinite
      exact anyNaN_of_areFinite items hfinite

theorem anyNaN_of_areFinite : ∀ items : List FieldValue,
    areFinite items = true → anyNaN items = false
  | [], _ => rfl
  | item :: rest, hfinite => by
      rw [areFinite_cons, Bool.and_eq_true] at hfinite
      rw [anyNaN, hasNaN_of_isFinite item hfinite.1, anyNaN_of_areFinite rest hfinite.2]
      rfl

end

end FieldValue

namespace FieldType

/-- All floating-point numbers that stand in a type, among its values or in its default. -/
def floats : FieldType → List Binary64
  | simple _ => []
  | enum type => FieldValue.floatsOf type.values ++ (type.default?.elim [] FieldValue.floats)
  | list _ component => component.floats

/-- Whether every float in a type is a finite number. -/
def isFinite (type : FieldType) : Bool := type.floats.all Binary64.isFinite

theorem isFinite_enum (type : EnumType) :
    (enum type).isFinite =
      (FieldValue.areFinite type.values && type.default?.all FieldValue.isFinite) := by
  rw [isFinite, floats, List.all_append]
  cases type.default? <;> rfl

theorem identical_self : ∀ type : FieldType, type.isFinite = true → type.identical type = true
  | simple kind, _ => beq_self_eq_true kind
  | enum type, hfinite => by
      obtain ⟨kind, base, values, rewritable, default?⟩ := type
      rw [isFinite_enum, Bool.and_eq_true] at hfinite
      have hvalues : FieldValue.equalItems values values = true := by
        rw [FieldValue.equalItems_self, FieldValue.anyNaN_of_areFinite values hfinite.1]
        rfl
      cases default? with
      | none => simp [identical, EnumType.identical, hvalues]
      | some value =>
          have hvalue : value.equal value = true := by
            rw [FieldValue.equal_self, FieldValue.hasNaN_of_isFinite value hfinite.2]
            rfl
          simp [identical, EnumType.identical, hvalues, hvalue]
  | list kind component, hfinite => by
      rw [identical, beq_self_eq_true, Bool.true_and]
      exact identical_self component hfinite

/-- A form does not say which form of type it is of, and still tells. -/
theorem toType_toForm : ∀ type : FieldType, type.toForm.toType = .ok type
  | simple kind => rfl
  | enum type => rfl
  | list kind component => by
      rw [toForm, TypeForm.toType, toType_toForm component]
      rfl

theorem readForm_of_isFinite : ∀ type : FieldType, type.isFinite = true →
    TypeForm.read .jsonValue (.ofJson type.toForm.toJson) = .ok type.toForm
  | simple kind, _ => TypeForm.read_simple kind
  | enum type, hfinite => by
      rw [isFinite_enum, Bool.and_eq_true] at hfinite
      have hdefault : TypeForm.readDefault type.default? = .ok type.default? := by
        cases hvalue : type.default? with
        | none => rfl
        | some value =>
            rw [hvalue] at hfinite
            have hone : value.isFinite = true := hfinite.2
            rw [TypeForm.readDefault_some, if_pos hone]
      rw [TypeForm.read_enum, hdefault, Outcome.ok_bind, if_pos hfinite.1]
      rfl
  | list kind component, hfinite => by
      rw [toForm, TypeForm.read_list, readForm_of_isFinite component hfinite]
      rfl

/-- Whatever is read back is a type again. It has lost its default if a float in it was
lost, so it is neither the same type nor an equal one. -/
theorem isFinite_of_readForm : ∀ {type : FieldType} {form : TypeForm},
    TypeForm.read .jsonValue (.ofJson type.toForm.toJson) = .ok form →
      ∃ again : FieldType, form = again.toForm ∧
        (again = type ∨ again.identical type = true → type.isFinite = true)
  | simple kind, form, hread => by
      rw [toForm, TypeForm.read_simple] at hread
      cases hread
      exact ⟨simple kind, rfl, fun _ => rfl⟩
  | enum type, form, hread => by
      rw [TypeForm.read_enum, Outcome.bind_eq_ok] at hread
      obtain ⟨default?, hdefault, hread⟩ := hread
      split at hread
      · rename_i hvalues
        cases hread
        refine ⟨enum {type with default?}, rfl, ?_⟩
        intro hsame
        rw [isFinite_enum, hvalues, Bool.true_and]
        cases hvalue : type.default? with
        | none => rfl
        | some value =>
            rw [hvalue, TypeForm.readDefault_some] at hdefault
            split at hdefault
            · rename_i hfinite
              exact hfinite
            · split at hdefault
              · cases hdefault
                rcases hsame with hsame | hsame
                · rw [← enum.inj hsame] at hvalue
                  cases hvalue
                · simp [identical, EnumType.identical, hvalue] at hsame
              · cases hdefault
      · cases hread
  | list kind component, form, hread => by
      rw [toForm, TypeForm.read_list, Outcome.bind_eq_ok] at hread
      obtain ⟨form, hcomponent, hread⟩ := hread
      cases hread
      obtain ⟨again, rfl, hfinite⟩ := isFinite_of_readForm hcomponent
      refine ⟨list kind again, rfl, ?_⟩
      rintro (hsame | hsame)
      · exact hfinite (Or.inl (list.inj hsame).2)
      · rw [identical, Bool.and_eq_true] at hsame
        exact hfinite (Or.inr hsame.2)

theorem isFinite_of_read {type again : FieldType}
    (hread : read .jsonValue (.ofJson type.toDocument.toJson) = .ok again)
    (hsame : again = type ∨ again.identical type = true) : type.isFinite = true := by
  rw [read, Outcome.bind_eq_ok] at hread
  obtain ⟨form, hform, htype⟩ := hread
  obtain ⟨found, rfl, hfinite⟩ := isFinite_of_readForm hform
  rw [toType_toForm] at htype
  cases htype
  exact hfinite hsame

/-- A type that is written as JSON is read back as an equal one exactly if no float in it
is a NaN or infinite, and then it is the very same. Its form alone always gives it back.
This holds of malformed types as of all others, at any depth. -/
theorem read_toJson_iff_finite (type : FieldType) :
    ((∃ again, read .jsonValue (.ofJson type.toDocument.toJson) = .ok again ∧
        again.identical type = true) ↔
      ∀ x ∈ type.floats, x.isNaN = false ∧ x.isInfinite = false) ∧
    (read .jsonValue (.ofJson type.toDocument.toJson) = .ok type ↔
      ∀ x ∈ type.floats, x.isNaN = false ∧ x.isInfinite = false) ∧
    type.toForm.toType = .ok type := by
  have hfloats : (∀ x ∈ type.floats, x.isNaN = false ∧ x.isInfinite = false) ↔
      type.isFinite = true := by
    simp only [isFinite, List.all_eq_true, Binary64.isFinite_iff]
  have hexact : type.isFinite = true →
      read .jsonValue (.ofJson type.toDocument.toJson) = .ok type := by
    intro hfinite
    have hread := readForm_of_isFinite type hfinite
    rw [TypeForm.toJson] at hread
    rw [read, toDocument, hread, Outcome.ok_bind, toType_toForm]
    rfl
  rw [hfloats]
  refine ⟨⟨?_, ?_⟩, ⟨?_, hexact⟩, toType_toForm type⟩
  · rintro ⟨again, hread, hsame⟩
    exact isFinite_of_read hread (Or.inr hsame)
  · intro hfinite
    exact ⟨type, hexact hfinite, identical_self type hfinite⟩
  · intro hread
    exact isFinite_of_read hread (Or.inl rfl)

end FieldType

end WorkSchema
