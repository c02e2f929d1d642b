import WorkSchema.Proofs.Field.Stability
import WorkSchema.Proofs.Field.SubmittedForm

/-!
Two readers of field values. Types and definitions try one representation after the other, from
the narrowest on, and payloads go by the shape of the JSON. They read the same values out of the
same JSON and refuse the same, at every depth; only a null at the top, which means absence in a
payload, is no value in a definition. What an enum lists is therefore allowed when the same JSON
is submitted for it.
-/

namespace WorkSchema

namespace FieldValue

/-- A whole number that is too large for an integer is left over for the floats. -/
private theorem ofSource?_number : ∀ number : JsonNumber,
    ofSource? (.number number) = (ofJsonInner (.number number)).toOption
  | .float x _ => by
      simp [ofSource?, boolean?, integer?, float?, ofJsonInner, pure, Except.pure,
        Except.toOption]
  | .integer n _ _ => by
      cases hfits : int64? n <;>
        simp [ofSource?, boolean?, integer?, float?, hfits, ofJsonInner, pure, Except.pure,
          Except.toOption]

mutual

theorem ofSource?_ofJson : ∀ json : Json,
    ofSource? (.ofJson json) = (ofJsonInner json).toOption
  | .null | .bool _ | .string _ | .object _ => rfl
  | .number number => ofSource?_number number
  | .array items => by
      rw [Source.ofJson, ofJsonInner]
      simp only [ofSource?, boolean?, integer?, float?, string?, Option.map_none, Option.none_or,
        itemsOfSource?_ofJson items]
      cases itemsOfJson items <;> rfl

theorem itemsOfSource?_ofJson : ∀ items : List Json,
    itemsOfSource? (Source.itemsOfJson items) = (itemsOfJson items).toOption
  | [] => rfl
  | item :: rest => by
      rw [Source.itemsOfJson, itemsOfSource?, ofSource?_ofJson item, itemsOfSource?_ofJson rest,
        itemsOfJson]
      cases ofJsonInner item <;> cases itemsOfJson rest <;> rfl

end

/-- A definition takes what is inside a payload, and does not say what it refuses. -/
theorem read_ofJson (json : Json) :
    read (.ofJson json) = (ofJsonInner json).mapError fun _ => .noValue := by
  rw [read, Source.fault?_ofJson, ofSource?_ofJson]
  cases ofJsonInner json <;> rfl

section Agreement

variable {json : Json}

theorem ofJson_eq_ok_iff_read (hnull : json ≠ .null) (value : FieldValue) :
    ofJson json = .ok (some value) ↔ read (.ofJson json) = .ok value := by
  rw [ofJson_of_ne_null hnull, read_ofJson]
  cases ofJsonInner json <;> simp [Except.map, Except.mapError]

theorem ofJson_eq_error_iff_read (hnull : json ≠ .null) :
    (∃ reason, ofJson json = .error reason) ↔ ∃ error, read (.ofJson json) = .error error := by
  rw [ofJson_of_ne_null hnull, read_ofJson]
  cases ofJsonInner json <;> simp [Except.map, Except.mapError]

/-- What is read at all has no object in it and no null. -/
theorem exists_read_iff :
    (∃ value, read (.ofJson json) = .ok value) ↔ json ≠ .null ∧ json.Readable := by
  by_cases hnull : json = .null
  · subst hnull
    exact iff_of_false (fun ⟨_, hread⟩ => nomatch hread) fun hreadable => hreadable.1 rfl
  · rw [and_iff_right hnull]
    constructor
    · rintro ⟨value, hread⟩
      exact readable_of_ofJson ((ofJson_eq_ok_iff_read hnull value).mpr hread)
    · intro hreadable
      rcases ofJson_of_readable hreadable with ⟨hself, _⟩ | ⟨_, value, hread, _⟩
      · exact absurd hself hnull
      · exact ⟨value, (ofJson_eq_ok_iff_read hnull value).mp hread⟩

/-- Unless it is null, JSON is read as the same value in a payload and in a definition, or in
neither. It is read exactly if there is no object in it and no null in its arrays. -/
theorem readers_agree (hnull : json ≠ .null) :
    (∀ value, ofJson json = .ok (some value) ↔ read (.ofJson json) = .ok value) ∧
    ((∃ reason, ofJson json = .error reason) ↔ ∃ error, read (.ofJson json) = .error error) ∧
    ((∃ value, read (.ofJson json) = .ok value) ↔ json.Readable) :=
  ⟨ofJson_eq_ok_iff_read hnull, ofJson_eq_error_iff_read hnull,
    exists_read_iff.trans (and_iff_right hnull)⟩

/-- The least integer that does not fit is a float to both, in a list in a list; both refuse it
beside a null. -/
theorem readers_agree_nested :
    let large : JsonNumber := .integer 0x8000000000000000 (by decide) (by decide)
    let nested : Json := .array [.bool true, .array [.number large, .string "x"]]
    let broken : Json := .array [.bool true, .array [.number large, .null]]
    let value := list [boolean true, list [float (.ofInt 0x8000000000000000), string "x"]]
    (nested ≠ .null ∧ ofJson nested = .ok (some value) ∧ read (.ofJson nested) = .ok value) ∧
    broken ≠ .null ∧ ofJson broken = .error (.unsupportedValue "null") ∧
      ∃ error, read (.ofJson broken) = .error error := by
  intro large nested broken value
  have hlarge : int64? 0x8000000000000000 = none := by decide
  have hnested : nested ≠ .null := by simp [nested]
  have hread : ofJson nested = .ok (some value) := by
    simp [nested, large, value, ofJson, ofJsonInner, itemsOfJson, hlarge, pure, Except.pure,
      bind, Except.bind]
  have hbroken : broken ≠ .null := by simp [broken]
  have hrefused : ofJson broken = .error (.unsupportedValue "null") := by
    simp [broken, large, ofJson, ofJsonInner, itemsOfJson, hlarge, pure, Except.pure,
      bind, Except.bind, throw, throwThe, MonadExceptOf.throw]
  exact ⟨⟨hnested, hread, ((readers_agree hnested).1 value).mp hread⟩, hbroken, hrefused,
    (readers_agree hbroken).2.1.mp ⟨_, hrefused⟩⟩

end Agreement

mutual

/-- No JSON stands for a number that is not finite. -/
theorem isFinite_of_ofJsonInner : ∀ {json : Json} {value : FieldValue},
    ofJsonInner json = .ok value → value.isFinite = true
  | .null, _, hread | .object _, _, hread => nomatch hread
  | .bool _, _, rfl | .string _, _, rfl => rfl
  | .number (.float x hfinite), _, rfl => by simpa [isFinite, floats] using hfinite
  | .number (.integer n lower upper), value, hread => by
      rw [ofJsonInner] at hread
      split at hread
      · cases hread
        rfl
      · cases hread
        simpa [isFinite, floats] using Binary64.isFinite_ofInt lower upper
  | .array items, value, hread => by
      rw [ofJsonInner] at hread
      obtain ⟨values, hitems, hvalue⟩ := Outcome.bind_eq_ok.mp hread
      cases hvalue
      rw [isFinite_list]
      exact areFinite_of_itemsOfJson hitems

theorem areFinite_of_itemsOfJson : ∀ {items : List Json} {values : List FieldValue},
    itemsOfJson items = .ok values → areFinite values = true
  | [], _, rfl => rfl
  | item :: rest, values, hread => by
      rw [itemsOfJson] at hread
      obtain ⟨first, hfirst, hread⟩ := Outcome.bind_eq_ok.mp hread
      obtain ⟨later, hlater, hvalues⟩ := Outcome.bind_eq_ok.mp hread
      cases hvalues
      rw [areFinite_cons, isFinite_of_ofJsonInner hfirst, areFinite_of_itemsOfJson hlater]
      rfl

end

theorem hasNaN_of_read {json : Json} {value : FieldValue}
    (hread : read (.ofJson json) = .ok value) : value.hasNaN = false := by
  rw [read_ofJson] at hread
  cases hinner : ofJsonInner json with
  | error reason =>
      rw [hinner] at hread
      cases hread
  | ok inner =>
      rw [hinner] at hread
      cases hread
      exact hasNaN_of_isFinite value (isFinite_of_ofJsonInner hinner)

end FieldValue

namespace EnumType

/-- The JSON of a listed value is allowed when it is submitted. -/
theorem contains_submitted {type : EnumType} {json : Json} {value : FieldValue}
    (hread : FieldValue.read (.ofJson json) = .ok value) (hmem : value ∈ type.values) :
    ∃ submitted, FieldValue.ofJson json = .ok (some submitted) ∧
      type.contains submitted = true := by
  have hnull : json ≠ .null := (FieldValue.exists_read_iff.mp ⟨value, hread⟩).1
  exact ⟨value, (FieldValue.ofJson_eq_ok_iff_read hnull value).mpr hread,
    contains_of_mem hmem (FieldValue.hasNaN_of_read hread)⟩

end EnumType

end WorkSchema
