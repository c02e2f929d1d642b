import WorkSchema.Proofs.Field.WrittenForm

/-!
JSON as values are submitted. Null stands for absence, but only on its own: an object stands for
no value and neither does a null in an array, at whatever depth. All else is read as it is, but
for integers beyond 64 bits with a sign, which are floats when they are written again. What was
written is read back unless there is a float in it that JSON has no number for.
-/

namespace WorkSchema

namespace Json

variable {items : List Json}

/-- Whether a value is another one, or has it as a part at any depth. -/
inductive Holds : Json → Json → Prop
  | self (json : Json) : Holds json json
  | item {items : List Json} {item part : Json} (hmem : item ∈ items) (hpart : Holds item part) :
      Holds (.array items) part
  | member {members : List (String × Json)} {name : String} {value part : Json}
      (hmem : (name, value) ∈ members) (hpart : Holds value part) : Holds (.object members) part

/-- Whether there is no object in a value, and no null in any of its arrays. -/
structure Readable (json : Json) : Prop where
  object (members : List (String × Json)) : ¬ json.Holds (.object members)
  null (items : List Json) : json.Holds (.array items) → .null ∉ items

theorem readable_null : Readable .null := ⟨nofun, nofun⟩

theorem not_readable_object (members : List (String × Json)) : ¬ Readable (.object members) :=
  fun hreadable => hreadable.object members (.self _)

theorem readable_array_iff :
    Readable (.array items) ↔ ∀ item ∈ items, item ≠ .null ∧ item.Readable := by
  constructor
  · intro hreadable item hmem
    refine ⟨?_, ?_, ?_⟩
    · rintro rfl
      exact hreadable.null items (.self _) hmem
    · exact fun members hpart => hreadable.object members (.item hmem hpart)
    · exact fun parts hpart => hreadable.null parts (.item hmem hpart)
  · intro hitems
    constructor
    · rintro members (_ | ⟨hmem, hpart⟩)
      exact (hitems _ hmem).2.object members hpart
    · rintro parts (_ | ⟨hmem, hpart⟩)
      · intro hnull
        exact (hitems _ hnull).1 rfl
      · exact (hitems _ hmem).2.null parts hpart

mutual

/-- The parts of a value that are looked at when it is read, in their order: the value itself and
what is in its arrays, but not the members of objects. -/
def parts : Json → List Json
  | .array items => .array items :: partsOf items
  | .null => [.null]
  | .bool value => [.bool value]
  | .number value => [.number value]
  | .string value => [.string value]
  | .object members => [.object members]

def partsOf : List Json → List Json
  | [] => []
  | item :: rest => parts item ++ partsOf rest

end

/-- What stands for no value inside another one. -/
def isUnreadable : Json → Bool
  | .null | .object _ => true
  | .bool _ | .number _ | .string _ | .array _ => false

mutual

theorem readable_iff_parts : ∀ json : Json,
    (json ≠ .null ∧ json.Readable) ↔ ∀ part ∈ json.parts, part.isUnreadable = false
  | .null => by simp [parts, isUnreadable]
  | .bool _ | .number _ | .string _ => by
      simp only [parts, List.forall_mem_singleton, isUnreadable, iff_true]
      exact ⟨nofun, nofun, nofun⟩
  | .object members => by simp [parts, isUnreadable, not_readable_object]
  | .array items => by
      rw [parts, List.forall_mem_cons, readable_array_iff, readable_iff_partsOf items]
      exact and_congr_left fun _ => by simp [isUnreadable]

theorem readable_iff_partsOf : ∀ items : List Json,
    (∀ item ∈ items, item ≠ .null ∧ item.Readable) ↔
      ∀ part ∈ partsOf items, part.isUnreadable = false
  | [] => by simp [partsOf]
  | item :: rest => by
      rw [partsOf, List.forall_mem_cons, List.forall_mem_append, readable_iff_parts item,
        readable_iff_partsOf rest]

end

end Json

/-- A number as it is after it was read and written: an integer that does not fit a signed
64-bit integer is the nearest float. -/
def JsonNumber.asRead : JsonNumber → JsonNumber
  | .integer value lower upper =>
      if -0x8000000000000000 ≤ value ∧ value < 0x8000000000000000 then .integer value lower upper
      else .float (.ofInt value) (Binary64.isFinite_ofInt lower upper)
  | .float value finite => .float value finite

namespace Json

mutual

/-- A value as it is after it was read and written. -/
def asRead : Json → Json
  | .number value => .number value.asRead
  | .array items => .array (itemsAsRead items)
  | .null => .null
  | .bool value => .bool value
  | .string value => .string value
  | .object members => .object members

def itemsAsRead : List Json → List Json
  | [] => []
  | item :: rest => asRead item :: itemsAsRead rest

end

end Json

namespace FieldValue

theorem ofJsonInner_number (number : JsonNumber) : ∃ value,
    ofJsonInner (.number number) = .ok value ∧ value.toJson = .number number.asRead := by
  cases number with
  | float x hfinite =>
      exact ⟨.float x, rfl, by simp [toJson, toDocument, Document.toJson, Json.ofFloat, hfinite,
        JsonNumber.asRead]⟩
  | integer n lower upper =>
      have hbounds : Int64.minValue.toInt ≤ n ∧ n ≤ Int64.maxValue.toInt ↔
          -0x8000000000000000 ≤ n ∧ n < 0x8000000000000000 := by
        rw [Int64.toInt_minValue, Int64.toInt_maxValue]
        omega
      rw [JsonNumber.asRead]
      by_cases hfits : -0x8000000000000000 ≤ n ∧ n < 0x8000000000000000
      · rw [if_pos hfits]
        have hread : int64? n = some (Int64.ofInt n) := if_pos (hbounds.mpr hfits)
        have hsame : (Int64.ofInt n).toInt = n := Int64.toInt_ofInt_of_le hfits.1 hfits.2
        refine ⟨.integer (Int64.ofInt n), ?_, ?_⟩
        · rw [ofJsonInner, hread]
          rfl
        · rw [toJson, toDocument, Document.toJson, hsame, Json.ofInt, dif_pos ⟨lower, upper⟩]
      · rw [if_neg hfits]
        have hfinite := Binary64.isFinite_ofInt lower upper
        have hread : int64? n = none := if_neg (mt hbounds.mp hfits)
        refine ⟨.float (.ofInt n), ?_, ?_⟩
        · rw [ofJsonInner, hread]
          rfl
        · simp [toJson, toDocument, Document.toJson, Json.ofFloat, hfinite]

mutual

/-- What a value is read as, or the first part of it that cannot be read. -/
theorem ofJsonInner_spec : ∀ json : Json,
    match json.parts.find? Json.isUnreadable with
    | none => ∃ value, ofJsonInner json = .ok value ∧ value.toJson = json.asRead
    | some part => ofJsonInner json = .error (.unsupportedValue (JsonText.compact (.ofJson part)))
  | .null => rfl
  | .bool value => ⟨_, rfl, rfl⟩
  | .number value => ofJsonInner_number value
  | .string value => ⟨_, rfl, rfl⟩
  | .object members => rfl
  | .array items => by
      have hitems := itemsOfJson_spec items
      rw [Json.parts, List.find?_cons, Json.isUnreadable]
      cases hfirst : (Json.partsOf items).find? Json.isUnreadable with
      | none =>
          rw [hfirst] at hitems
          obtain ⟨values, hread, hjson⟩ := hitems
          refine ⟨.list values, by rw [ofJsonInner, hread]; rfl, ?_⟩
          rw [toJson, toDocument, Document.toJson, hjson, Json.asRead]
      | some part =>
          rw [hfirst] at hitems
          change ofJsonInner (.array items) = _
          rw [ofJsonInner, hitems]
          rfl

theorem itemsOfJson_spec : ∀ items : List Json,
    match (Json.partsOf items).find? Json.isUnreadable with
    | none => ∃ values, itemsOfJson items = .ok values ∧
        Document.itemsToJson (itemsToDocument values) = Json.itemsAsRead items
    | some part => itemsOfJson items = .error (.unsupportedValue (JsonText.compact (.ofJson part)))
  | [] => ⟨_, rfl, rfl⟩
  | item :: rest => by
      have hitem := ofJsonInner_spec item
      have hrest := itemsOfJson_spec rest
      rw [Json.partsOf, List.find?_append, itemsOfJson]
      cases hfirst : item.parts.find? Json.isUnreadable with
      | some part =>
          rw [hfirst] at hitem
          rw [hitem]
          rfl
      | none =>
          rw [hfirst] at hitem
          obtain ⟨value, hread, hjson⟩ := hitem
          rw [Option.none_or, hread]
          cases hlater : (Json.partsOf rest).find? Json.isUnreadable with
          | some part =>
              rw [hlater] at hrest
              rw [hrest]
              rfl
          | none =>
              rw [hlater] at hrest
              obtain ⟨values, hreads, hjsons⟩ := hrest
              refine ⟨value :: values, by rw [hreads]; rfl, ?_⟩
              rw [itemsToDocument, Document.itemsToJson, hjsons, Json.itemsAsRead, ← hjson, toJson]

end

mutual

/-- What was written is read back, or something in it was written as null. -/
theorem ofJsonInner_toJson : ∀ value : FieldValue,
    ofJsonInner value.toJson =
      if value.isFinite then .ok value else .error (.unsupportedValue "null")
  | boolean value => rfl
  | integer value => by
      obtain ⟨lower, upper, hjson⟩ := ofInt_toInt value
      rw [toJson, toDocument, Document.toJson, hjson, ofJsonInner, int64?_toInt]
      rfl
  | string value => rfl
  | float x => by
      have hfloats : (float x).isFinite = x.isFinite := by simp [isFinite, floats]
      rw [toJson, toDocument, Document.toJson, Json.ofFloat, hfloats]
      split <;> rfl
  | list items => by
      rw [toJson, toDocument, Document.toJson, ofJsonInner, itemsOfJson_toJson items,
        isFinite_list]
      cases areFinite items <;> rfl

theorem itemsOfJson_toJson : ∀ items : List FieldValue,
    itemsOfJson (Document.itemsToJson (itemsToDocument items)) =
      if areFinite items then .ok items else .error (.unsupportedValue "null")
  | [] => rfl
  | item :: rest => by
      have hitem := ofJsonInner_toJson item
      rw [toJson] at hitem
      rw [itemsToDocument, Document.itemsToJson, itemsOfJson, hitem, itemsOfJson_toJson rest,
        areFinite_cons]
      cases item.isFinite <;> cases areFinite rest <;> rfl

end

section Submitted

variable {json : Json}

theorem ofJson_of_ne_null (hnull : json ≠ .null) :
    ofJson json = (ofJsonInner json).map some := by
  cases json <;> first | exact absurd rfl hnull | rfl

/-- Null is read as absence, and every other readable value as a value that is written as it was
submitted. -/
theorem ofJson_of_readable (hreadable : json.Readable) :
    (json = .null ∧ ofJson json = .ok none) ∨
      (json ≠ .null ∧ ∃ value, ofJson json = .ok (some value) ∧ value.toJson = json.asRead) := by
  by_cases hnull : json = .null
  · refine .inl ⟨hnull, ?_⟩
    rw [hnull]
    rfl
  · have hspec := ofJsonInner_spec json
    have hparts := json.readable_iff_parts.mp ⟨hnull, hreadable⟩
    rw [List.find?_eq_none.mpr fun part hmem => by simp [hparts part hmem]] at hspec
    obtain ⟨value, hread, hjson⟩ := hspec
    exact .inr ⟨hnull, value, by rw [ofJson_of_ne_null hnull, hread]; rfl, hjson⟩

/-- The text of the first part that stands for no value is what is wrong with any other. -/
theorem ofJson_of_not_readable (hunreadable : ¬ json.Readable) :
    ∃ part, Outcome.First (·.isUnreadable = true) json.parts part ∧
      ofJson json = .error (.unsupportedValue (JsonText.compact (.ofJson part))) := by
  have hnull : json ≠ .null := by
    rintro rfl
    exact hunreadable Json.readable_null
  have hspec := ofJsonInner_spec json
  cases hfirst : json.parts.find? Json.isUnreadable with
  | none =>
      have hparts := List.find?_eq_none.mp hfirst
      refine absurd (json.readable_iff_parts.mpr ?_).2 hunreadable
      intro part hmem
      simpa using hparts part hmem
  | some part =>
      rw [hfirst] at hspec
      refine ⟨part, Outcome.find?_eq_some_iff_first.mp hfirst, ?_⟩
      rw [ofJson_of_ne_null hnull, hspec]
      rfl

theorem readable_of_ofJson {value? : Option FieldValue} (hread : ofJson json = .ok value?) :
    json.Readable := by
  by_contra hunreadable
  obtain ⟨_, _, herror⟩ := ofJson_of_not_readable hunreadable
  rw [hread] at herror
  cases herror

theorem ofJson_eq_error {reason : FieldError} :
    ofJson json = .error reason ↔
      ¬ json.Readable ∧ ∃ part, Outcome.First (·.isUnreadable = true) json.parts part ∧
        reason = .unsupportedValue (JsonText.compact (.ofJson part)) := by
  by_cases hreadable : json.Readable
  · rcases ofJson_of_readable hreadable with ⟨_, hread⟩ | ⟨_, value, hread, _⟩ <;>
      simp [hread, hreadable]
  · obtain ⟨part, hpart, hread⟩ := ofJson_of_not_readable hreadable
    rw [hread, Except.error.injEq]
    constructor
    · rintro rfl
      exact ⟨hreadable, part, hpart, rfl⟩
    · rintro ⟨_, other, hother, rfl⟩
      rw [← Outcome.find?_eq_some_iff_first] at hpart hother
      rw [Option.some.inj (hpart.symm.trans hother)]

/-- A value comes back from its JSON exactly if all floats in it are finite. -/
theorem ofJson_toJson_iff {value : FieldValue} :
    ofJson value.toJson = .ok (some value) ↔ value.isFinite = true := by
  have hinner := ofJsonInner_toJson value
  by_cases hnull : value.toJson = .null
  · rw [hnull] at hinner ⊢
    cases hfinite : value.isFinite with
    | false => simp [ofJson, pure, Except.pure]
    | true => simp [ofJsonInner, hfinite, throw, throwThe, MonadExceptOf.throw] at hinner
  · rw [ofJson_of_ne_null hnull, hinner]
    cases value.isFinite <;> simp [Except.map]

end Submitted

end FieldValue

end WorkSchema
