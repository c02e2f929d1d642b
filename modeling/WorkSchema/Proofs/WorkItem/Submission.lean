import WorkSchema.Proofs.Collection.OrderedMap
import WorkSchema.Proofs.Field.SubmittedForm
import WorkSchema.Proofs.Json.Members
import WorkSchema.WorkItem.Payload

/-!
Payloads that are submitted as JSON objects. The members are read in their order, and the first
one that stands for no value is named. Reading loses nothing: an object that was made of stored
values is read as these values, and what is read from any object is written as it was.
-/

namespace WorkSchema

namespace Payload

variable {members : List (String × Json)} {entries : List (String × Option FieldValue)}
  {payload : Payload} {error : FieldError}

/-- A read object has the names of its members, each with what is read from that member. -/
theorem of_entriesOfJson_eq_ok (hread : entriesOfJson members = .ok entries) :
    entries.map Prod.fst = members.map Prod.fst ∧
      ∀ name json, (name, json) ∈ members →
        ∃ value?, FieldValue.ofJson json = .ok value? ∧ (name, value?) ∈ entries := by
  induction members generalizing entries with
  | nil =>
      cases hread
      exact ⟨rfl, nofun⟩
  | cons member rest ih =>
      obtain ⟨name, json⟩ := member
      rw [entriesOfJson] at hread
      cases hvalue : FieldValue.ofJson json with
      | error reason =>
          rw [hvalue] at hread
          cases hread
      | ok value? =>
          rw [hvalue] at hread
          obtain ⟨others, hrest, hentries⟩ := Outcome.bind_eq_ok.mp hread
          cases hentries
          obtain ⟨hnames, hmembers⟩ := ih hrest
          refine ⟨by rw [List.map_cons, List.map_cons, hnames], ?_⟩
          intro other otherJson hmem
          rcases List.mem_cons.mp hmem with hsame | hmem
          · cases hsame
            exact ⟨value?, hvalue, List.mem_cons_self⟩
          · obtain ⟨other?, hother, hentry⟩ := hmembers other otherJson hmem
            exact ⟨other?, hother, List.mem_cons_of_mem _ hentry⟩

/-- Reading fails for the first member that cannot be read. -/
theorem entriesOfJson_eq_error :
    entriesOfJson members = .error error ↔
      ∃ name json reason, Outcome.First (fun member => ¬ member.2.Readable) members (name, json) ∧
        FieldValue.ofJson json = .error reason ∧ error = .invalidValue name reason := by
  induction members with
  | nil => simp [entriesOfJson, Outcome.First, pure, Except.pure]
  | cons member rest ih =>
      obtain ⟨name, json⟩ := member
      rw [entriesOfJson]
      simp only [Outcome.first_cons_iff]
      by_cases hreadable : json.Readable
      · have hread : ∃ value?, FieldValue.ofJson json = .ok value? := by
          rcases FieldValue.ofJson_of_readable hreadable with ⟨_, hread⟩ | ⟨_, _, hread, _⟩
          · exact ⟨_, hread⟩
          · exact ⟨_, hread⟩
        obtain ⟨value?, hread⟩ := hread
        simp only [hread, hreadable, not_true, false_and, not_false_eq_true, true_and, false_or,
          ← ih, Outcome.bind_eq_error]
        simp [pure, Except.pure]
      · obtain ⟨_, _, hread⟩ := FieldValue.ofJson_of_not_readable hreadable
        simp only [hread, hreadable, not_false_eq_true, true_and, not_true, false_and, or_false]
        constructor
        · intro herror
          cases herror
          exact ⟨name, json, _, rfl, hread, rfl⟩
        · rintro ⟨_, _, reason, hsame, hreason, rfl⟩
          cases hsame
          rw [hread] at hreason
          cases hreason
          rfl

theorem ofJson_eq_error :
    ofJson members = .error error ↔
      ∃ name json part, Outcome.First (fun member => ¬ member.2.Readable) members (name, json) ∧
        Outcome.First (·.isUnreadable = true) json.parts part ∧
        error = .invalidValue name (.unsupportedValue (JsonText.compact (.ofJson part))) := by
  have hentries : ofJson members = .error error ↔ entriesOfJson members = .error error := by
    rw [ofJson, Outcome.bind_eq_error]
    simp [pure, Except.pure]
  rw [hentries, entriesOfJson_eq_error]
  constructor
  · rintro ⟨name, json, reason, hfirst, hreason, rfl⟩
    obtain ⟨_, part, hpart, rfl⟩ := FieldValue.ofJson_eq_error.mp hreason
    exact ⟨name, json, part, hfirst, hpart, rfl⟩
  · rintro ⟨name, json, part, hfirst, hpart, rfl⟩
    have hunreadable : ¬ json.Readable := by
      obtain ⟨_, _, _, hunreadable, _⟩ := hfirst
      exact hunreadable
    exact ⟨name, json, _, hfirst,
      FieldValue.ofJson_eq_error.mpr ⟨hunreadable, part, hpart, rfl⟩, rfl⟩

/-- A payload that was read from members of different names has an entry for each. -/
theorem of_ofJson_eq_ok (hnodup : (members.map Prod.fst).Nodup)
    (hread : ofJson members = .ok payload) :
    payload.keys = members.map Prod.fst ∧
      ∀ name json, (name, json) ∈ members →
        ∃ value?, FieldValue.ofJson json = .ok value? ∧ payload.get? name = some value? := by
  obtain ⟨entries, hentries, hpayload⟩ := Outcome.bind_eq_ok.mp hread
  cases hpayload
  obtain ⟨hnames, hmembers⟩ := of_entriesOfJson_eq_ok hentries
  have hdistinct : (entries.map Prod.fst).Nodup := hnames ▸ hnodup
  refine ⟨by rw [OrderedMap.keys, OrderedMap.entries_ofList hdistinct, hnames], ?_⟩
  intro name json hmem
  obtain ⟨value?, hvalue, hentry⟩ := hmembers name json hmem
  refine ⟨value?, hvalue, ?_⟩
  rw [OrderedMap.get?_ofList hdistinct]
  exact OrderedMap.lookup_of_mem hdistinct hentry

theorem exists_ofJson_iff (hnodup : (members.map Prod.fst).Nodup) :
    (∃ payload, ofJson members = .ok payload) ↔ ∀ member ∈ members, member.2.Readable := by
  constructor
  · rintro ⟨payload, hread⟩ ⟨name, json⟩ hmem
    obtain ⟨_, hvalue, _⟩ := (of_ofJson_eq_ok hnodup hread).2 name json hmem
    exact FieldValue.readable_of_ofJson hvalue
  · intro hall
    cases hread : ofJson members with
    | ok payload => exact ⟨payload, rfl⟩
    | error error =>
        obtain ⟨name, json, _, ⟨before, after, rfl, hunreadable, _⟩, _⟩ := ofJson_eq_error.mp hread
        exact absurd (hall _ (by simp)) hunreadable

end Payload

namespace FieldValues

variable {values : FieldValues} {members : List (String × Json)}

/-- The JSON object of values has a member for each of them, in ascending order. -/
theorem toJson_eq (values : FieldValues) :
    ∃ members, values.toJson = .object members ∧ Json.Sorted members ∧
      members.Perm (values.entries.map fun (name, value) => (name, value.toJson)) := by
  have hmembers : ∀ entries : List (String × FieldValue),
      Document.membersToJson (entries.map fun (name, value) => (name, value.toDocument)) =
        entries.map fun (name, value) => (name, value.toJson) := by
    intro entries
    induction entries with
    | nil => rfl
    | cons entry rest ih => rw [List.map_cons, Document.membersToJson, ih]; rfl
  have hnodup : ((values.entries.map fun (name, value) =>
      (name, value.toJson)).map Prod.fst).Nodup := by
    rw [List.map_map]
    exact values.nodup
  rw [toJson, toDocument, Document.toJson, hmembers]
  exact Json.objectOf_eq hnodup

/-- Whether every float in any of the values is a finite number. -/
def AreFinite (values : FieldValues) : Prop :=
  ∀ name value, values.get? name = some value → value.isFinite = true

/-- The members that stand for values are read as these values, each of them present, exactly if
all floats are finite. -/
theorem ofJson_iff_areFinite (hsorted : Json.Sorted members)
    (hperm : members.Perm (values.entries.map fun (name, value) => (name, value.toJson))) :
    (∃ payload, Payload.ofJson members = .ok payload ∧
        ∀ name, payload.get? name = (values.get? name).map some) ↔ values.AreFinite := by
  have hmember : ∀ name value, values.get? name = some value → (name, value.toJson) ∈ members := by
    intro name value hvalue
    rw [hperm.mem_iff]
    exact List.mem_map_of_mem ((values.mem_entries_iff name value).mpr hvalue)
  constructor
  · rintro ⟨payload, hread, hsame⟩ name value hvalue
    obtain ⟨value?, hjson, hentry⟩ :=
      (Payload.of_ofJson_eq_ok hsorted.nodup hread).2 name _ (hmember name value hvalue)
    rw [hsame, hvalue] at hentry
    cases hentry
    exact FieldValue.ofJson_toJson_iff.mp hjson
  · intro hfinite
    have hvalues : ∀ name json, (name, json) ∈ members →
        ∃ value, values.get? name = some value ∧ FieldValue.ofJson json = .ok (some value) := by
      intro name json hmem
      obtain ⟨⟨_, value⟩, hentry, hsame⟩ := List.mem_map.mp (hperm.mem_iff.mp hmem)
      cases hsame
      have hvalue := (values.mem_entries_iff name value).mp hentry
      exact ⟨value, hvalue, FieldValue.ofJson_toJson_iff.mpr (hfinite name value hvalue)⟩
    obtain ⟨payload, hread⟩ := (Payload.exists_ofJson_iff hsorted.nodup).mpr fun member hmem => by
      obtain ⟨_, _, hjson⟩ := hvalues member.1 member.2 hmem
      exact FieldValue.readable_of_ofJson hjson
    obtain ⟨hkeys, hentries⟩ := Payload.of_ofJson_eq_ok hsorted.nodup hread
    refine ⟨payload, hread, ?_⟩
    intro name
    cases hvalue : values.get? name with
    | some value =>
        obtain ⟨_, hjson, hentry⟩ := hentries name _ (hmember name value hvalue)
        rw [FieldValue.ofJson_toJson_iff.mpr (hfinite name value hvalue)] at hjson
        cases hjson
        exact hentry
    | none =>
        rw [Option.map_none, OrderedMap.get?_eq_none_iff, hkeys]
        intro hmem
        obtain ⟨⟨_, json⟩, hmember, rfl⟩ := List.mem_map.mp hmem
        obtain ⟨value, hfound, _⟩ := hvalues _ json hmember
        rw [hvalue] at hfound
        cases hfound

end FieldValues

/-- Values and JSON are translated into each other without loss. Values come back from their
JSON, each of them present, exactly if all floats are finite. An object is read unless a member
cannot be, of which the first is named; what is read is an absence for a null, and for any other
member a value that is written as it was submitted. -/
theorem Payload.ofJson_lossless :
    (∀ values : FieldValues, ∃ members, values.toJson = .object members ∧
      ((∃ payload, Payload.ofJson members = .ok payload ∧
        ∀ name, payload.get? name = (values.get? name).map some) ↔ values.AreFinite)) ∧
    ∀ members, Json.Sorted members →
      ((∃ payload, Payload.ofJson members = .ok payload) ↔
        ∀ member ∈ members, member.2.Readable) ∧
      (∀ error, Payload.ofJson members = .error error ↔
        ∃ name json part,
          Outcome.First (fun member => ¬ member.2.Readable) members (name, json) ∧
            Outcome.First (·.isUnreadable = true) json.parts part ∧
            error = .invalidValue name (.unsupportedValue (JsonText.compact (.ofJson part)))) ∧
      ∀ payload, Payload.ofJson members = .ok payload →
        payload.keys = members.map Prod.fst ∧
          ∀ name json, (name, json) ∈ members →
            (json = .null ∧ payload.get? name = some none) ∨
              (json ≠ .null ∧
                ∃ value, payload.get? name = some (some value) ∧ value.toJson = json.asRead) := by
  constructor
  · intro values
    obtain ⟨members, hjson, hsorted, hperm⟩ := values.toJson_eq
    exact ⟨members, hjson, FieldValues.ofJson_iff_areFinite hsorted hperm⟩
  · intro members hsorted
    refine ⟨Payload.exists_ofJson_iff hsorted.nodup, fun error => Payload.ofJson_eq_error, ?_⟩
    intro payload hread
    obtain ⟨hkeys, hentries⟩ := Payload.of_ofJson_eq_ok hsorted.nodup hread
    refine ⟨hkeys, ?_⟩
    intro name json hmem
    obtain ⟨value?, hjson, hentry⟩ := hentries name json hmem
    rcases FieldValue.ofJson_of_readable (FieldValue.readable_of_ofJson hjson) with
      ⟨hnull, hread⟩ | ⟨hnull, value, hread, hwritten⟩
    · rw [hread] at hjson
      cases hjson
      exact .inl ⟨hnull, hentry⟩
    · rw [hread] at hjson
      cases hjson
      exact .inr ⟨hnull, value, hentry, hwritten⟩

section Nested

/-- Values of which one is a list in a list. -/
def nestedValues : FieldValues :=
  .ofList [("sizes", .list [.list [.float (.ofInt 2), .integer 3]]), ("done", .boolean true)]

/-- Members of which one is an integer that is no signed 64-bit integer. -/
def submittedMembers : List (String × Json) :=
  [("done", .null),
    ("sizes", .array [.number (.integer 0x8000000000000000 (by decide) (by decide))])]

private theorem nestedValues_areFinite : nestedValues.AreFinite := by
  intro name value hvalue
  have hentries := OrderedMap.entries_ofList (show List.Nodup (List.map Prod.fst
    [("sizes", FieldValue.list [.list [.float (.ofInt 2), .integer 3]]),
      ("done", .boolean true)]) by decide)
  rw [← OrderedMap.mem_entries_iff, nestedValues, hentries] at hvalue
  simp only [List.mem_cons, Prod.mk.injEq, List.not_mem_nil, or_false] at hvalue
  rcases hvalue with ⟨_, rfl⟩ | ⟨_, rfl⟩ <;> decide

theorem Payload.ofJson_lossless_nested :
    (∃ members payload, nestedValues.toJson = .object members ∧
      Payload.ofJson members = .ok payload ∧
      payload.get? "sizes" = some (some (.list [.list [.float (.ofInt 2), .integer 3]]))) ∧
    Json.Sorted submittedMembers ∧
    (∃ payload, Payload.ofJson submittedMembers = .ok payload ∧
      payload.get? "done" = some none ∧
      ∃ value, payload.get? "sizes" = some (some value) ∧
        value.toJson = .array [.number (.float (.ofInt 0x8000000000000000) (by decide))]) ∧
    Payload.ofJson [("done", .null), ("parts", .array [.object [], .null]), ("sizes", .object [])] =
      .error (.invalidValue "parts" (.unsupportedValue "\x7b\x7d")) := by
  obtain ⟨hvalues, hmembers⟩ := Payload.ofJson_lossless
  have hsorted : Json.Sorted submittedMembers := by
    refine List.pairwise_pair.mpr ?_
    decide
  refine ⟨?_, hsorted, ?_, ?_⟩
  · obtain ⟨members, hjson, hread⟩ := hvalues nestedValues
    obtain ⟨payload, hpayload, hsame⟩ := hread.mpr nestedValues_areFinite
    refine ⟨members, payload, hjson, hpayload, ?_⟩
    rw [hsame]
    rfl
  · obtain ⟨hreads, _, hentries⟩ := hmembers submittedMembers hsorted
    have hreadable : ∀ member ∈ submittedMembers, member.2.Readable := by
      simp only [submittedMembers, List.forall_mem_cons, List.not_mem_nil, false_imp_iff,
        implies_true, and_true]
      exact ⟨Json.readable_null, ((Json.readable_iff_parts _).mpr (by
        simp [Json.parts, Json.partsOf, Json.isUnreadable])).2⟩
    obtain ⟨payload, hread⟩ := hreads.mpr hreadable
    obtain ⟨_, hentry⟩ := hentries payload hread
    refine ⟨payload, hread, ?_, ?_⟩
    · exact (hentry "done" .null (by simp [submittedMembers])).elim (·.2) (absurd rfl ·.1)
    · obtain ⟨hnull, _⟩ | ⟨_, value, hvalue, hwritten⟩ :=
        hentry "sizes" _ (List.mem_cons_of_mem _ List.mem_cons_self)
      · cases hnull
      · exact ⟨value, hvalue, hwritten⟩
  · refine ((hmembers _ ?_).2.1 _).mpr
      ⟨"parts", .array [.object [], .null], .object [], ?_, ?_, rfl⟩
    · simp only [Json.Sorted, List.pairwise_cons]
      decide
    · refine ⟨[("done", .null)], [("sizes", .object [])], rfl, ?_, ?_⟩
      · intro hreadable
        exact Json.not_readable_object [] (Json.readable_array_iff.mp hreadable _ (by simp)).2
      · simp [Json.readable_null]
    · exact ⟨[.array [.object [], .null]], [.null], rfl, rfl, by simp [Json.isUnreadable]⟩

end Nested

end WorkSchema
