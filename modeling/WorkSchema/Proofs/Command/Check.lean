import WorkSchema.Command.Program
import WorkSchema.Proofs.Engine.Inheritance
import WorkSchema.Proofs.Engine.Validation

/-!
What the check of a store tells. It reports on every file that was skipped and then on every type,
in the order of their ids: a type that does not resolve, or has a field with a malformed type, is
an entry of the report like any other, and those after it are checked all the same. So all is well
exactly if no file was skipped and every type resolves to a schema of valid fields. After that
nothing but the values of a request can be at fault when they are validated.
-/

namespace WorkSchema

namespace Report

/-- Whether a list names the fields of a schema that are malformed, in their order, and says what
is wrong with each of them. -/
structure NamesDefects (schema : Schema) (broken : List (String × FieldError)) : Prop where
  mem (name : String) (error : FieldError) : (name, error) ∈ broken ↔
    ∃ definition, schema.get? name = some definition ∧ definition.type.validate = .error error
  ordered : (broken.map (·.1)).Sublist schema.keys

/-- Whether a type resolves, and all fields of its schema have valid types, those that it inherits
included. -/
def Sound (catalog : Catalog) (maxDepth : Nat) (type : WorkItemType) : Prop :=
  ∃ chain, catalog.chain maxDepth type.id = .ok chain ∧
    ∀ name definition, (Schema.ofChain chain).get? name = some definition →
      definition.type.validate = .ok ()

/-- What there is to report about a type, by the catalog alone. -/
inductive Finds (catalog : Catalog) (maxDepth : Nat) (type : WorkItemType) : Finding → Prop where
  | unresolved {error : SchemaError} (hchain : catalog.chain maxDepth type.id = .error error) :
      Finds catalog maxDepth type (.unresolved type error)
  | malformed {chain : List WorkItemType} {broken : List (String × FieldError)}
      (hchain : catalog.chain maxDepth type.id = .ok chain) (hsome : broken ≠ [])
      (hbroken : NamesDefects (Schema.ofChain chain) broken) :
      Finds catalog maxDepth type (.malformed type broken)
  | sound {chain : List WorkItemType} (hchain : catalog.chain maxDepth type.id = .ok chain)
      (hnone : NamesDefects (Schema.ofChain chain) []) :
      Finds catalog maxDepth type (.sound type (Schema.ofChain chain).size)

/-- What the report says about a finding. Every entry starts with the verdict, and names the file
or the type that it is about; where something is wrong, it gives the kind of the error and its
message, for each field whose type is malformed. -/
inductive Entry : Finding → String → Prop where
  | skipped (file : SkippedFile) :
      Entry (.skipped file)
        ("error  " ++ file.path.text ++ ": [configuration] " ++ file.error.message)
  | unresolved (type : WorkItemType) (error : SchemaError) :
      Entry (.unresolved type error)
        ("error  " ++ type.id.toText ++ "  " ++ type.name ++ ": [" ++ error.kind.name ++ "] " ++
          error.message)
  | malformed (type : WorkItemType) (broken : List (String × FieldError)) :
      Entry (.malformed type broken)
        ("error  " ++ type.id.toText ++ "  " ++ type.name ++ ": [configuration] " ++
          "; ".intercalate (broken.map fun (name, error) => name ++ ": " ++ error.message))
  | sound (type : WorkItemType) (fields : Nat) :
      Entry (.sound type fields)
        ("ok     " ++ type.id.toText ++ "  " ++ type.name ++ " (" ++ toString fields ++ " fields)")

private theorem append_configuration (start rest : String) :
    start ++ ": [" ++ ErrorKind.configuration.name ++ "] " ++ rest =
      start ++ ": [configuration] " ++ rest := by
  have hkind : ": [configuration] " = ": [" ++ ErrorKind.configuration.name ++ "] " := rfl
  simp only [hkind, String.append_assoc]

theorem entry_line (finding : Finding) : Entry finding finding.line := by
  cases finding with
  | skipped file =>
      change Entry _ (_ ++ ": [" ++ ErrorKind.configuration.name ++ "] " ++ _)
      rw [append_configuration]
      exact .skipped file
  | unresolved type error => exact .unresolved type error
  | malformed type broken =>
      change Entry _ (_ ++ ": [" ++ ErrorKind.configuration.name ++ "] " ++ _)
      rw [append_configuration]
      exact .malformed type broken
  | sound type fields => exact .sound type fields

/-- The text of a report is its entries, one on each line. -/
theorem exists_text_eq (findings : List Finding) :
    ∃ entries, text findings = String.join (entries.map (· ++ "\n")) ∧
      List.Forall₂ Entry findings entries := by
  refine ⟨findings.map Finding.line, rfl, ?_⟩
  rw [List.forall₂_map_right_iff, List.forall₂_same]
  exact fun finding _ => entry_line finding

private theorem sublist_defects (entries : List (String × FieldDefinition)) :
    ((entries.filterMap fun (name, definition) =>
      match definition.type.validate with
      | .ok () => none
      | .error error => some (name, error)).map (·.1)).Sublist (entries.map (·.1)) := by
  induction entries with
  | nil => exact .slnil
  | cons entry rest ih =>
      obtain ⟨name, definition⟩ := entry
      cases hvalid : definition.type.validate with
      | ok =>
          rw [List.filterMap_cons_none (by simp only [hvalid]), List.map_cons]
          exact ih.cons name
      | error error =>
          rw [List.filterMap_cons_some (b := (name, error)) (by simp only [hvalid]), List.map_cons,
            List.map_cons]
          exact ih.cons_cons name

theorem namesDefects_defects (schema : Schema) : NamesDefects schema (defects schema) where
  mem name error := by
    simp only [defects, List.mem_filterMap, Prod.exists, OrderedMap.mem_entries_iff]
    constructor
    · rintro ⟨found, definition, hfound, hdefect⟩
      cases hvalid : definition.type.validate with
      | ok =>
          rw [hvalid] at hdefect
          cases hdefect
      | error reason =>
          rw [hvalid] at hdefect
          cases hdefect
          exact ⟨definition, hfound, hvalid⟩
    · rintro ⟨definition, hfound, hinvalid⟩
      exact ⟨name, definition, hfound, by rw [hinvalid]⟩
  ordered := sublist_defects schema.entries

theorem NamesDefects.eq_nil_iff {schema : Schema} {broken : List (String × FieldError)}
    (hbroken : NamesDefects schema broken) :
    broken = [] ↔ ∀ name definition, schema.get? name = some definition →
      definition.type.validate = .ok () := by
  rw [List.eq_nil_iff_forall_not_mem]
  constructor
  · intro hnone name definition hfound
    cases hvalid : definition.type.validate with
    | ok => rfl
    | error error => exact absurd ((hbroken.mem name error).mpr ⟨_, hfound, hvalid⟩) (hnone _)
  · rintro hvalid ⟨name, error⟩ hmem
    obtain ⟨definition, hfound, hinvalid⟩ := (hbroken.mem name error).mp hmem
    rw [hvalid name definition hfound] at hinvalid
    cases hinvalid

/-- What the check finds about a type, as the catalog has it. -/
def findingOf (catalog : Catalog) (maxDepth : Nat) (type : WorkItemType) : Finding :=
  match catalog.flatten maxDepth type.id with
  | .error error => .unresolved type error
  | .ok schema =>
      if (defects schema).isEmpty then .sound type schema.size
      else .malformed type (defects schema)

theorem finds_findingOf (catalog : Catalog) (maxDepth : Nat) (type : WorkItemType) :
    Finds catalog maxDepth type (findingOf catalog maxDepth type) := by
  unfold findingOf Catalog.flatten
  cases hchain : catalog.chain maxDepth type.id with
  | error error => exact .unresolved hchain
  | ok chain =>
      have hdefects := namesDefects_defects (Schema.ofChain chain)
      simp only [bind, Except.bind, pure, Except.pure]
      split
      · rename_i hempty
        rw [List.isEmpty_iff.mp hempty] at hdefects
        exact .sound hchain hdefects
      · rename_i hsome
        exact .malformed hchain (mt List.isEmpty_iff.mpr hsome) hdefects

theorem Finds.isSound_iff {catalog : Catalog} {maxDepth : Nat} {type : WorkItemType}
    {finding : Finding} (hfinds : Finds catalog maxDepth type finding) :
    finding.isSound = true ↔ Sound catalog maxDepth type := by
  cases hfinds with
  | unresolved hchain => simp [Finding.isSound, Sound, hchain]
  | sound hchain hnone => exact iff_of_true rfl ⟨_, hchain, hnone.eq_nil_iff.mp rfl⟩
  | malformed hchain hsome hbroken =>
      refine iff_of_false Bool.false_ne_true ?_
      rintro ⟨chain, hchain', hvalid⟩
      rw [hchain] at hchain'
      cases hchain'
      exact hsome (hbroken.eq_nil_iff.mpr hvalid)

section Run

variable {σ : Type} [TypeStore σ] {engine : Engine σ}

/-- Whatever is wrong with a type, its check goes through. -/
theorem reads_checkType (hagrees : engine.CacheAgrees) (type : WorkItemType) :
    engine.Reads (checkType type)
      (.ok (findingOf engine.catalog engine.rules.maxDepth type)) := by
  obtain ⟨cache, hcache, hrun⟩ := Engine.reads_resolveSchema hagrees type.id
  refine ⟨cache, hcache, ?_⟩
  have hrun' : Engine.resolveSchema type.id engine = _ := hrun
  unfold checkType findingOf
  simp only [EStateM.run, hrun']
  cases engine.catalog.flatten engine.rules.maxDepth type.id <;> rfl

theorem reads_checkTypes (hagrees : engine.CacheAgrees) (types : List WorkItemType) :
    engine.Reads (checkTypes types)
      (.ok (types.map (findingOf engine.catalog engine.rules.maxDepth))) := by
  induction types generalizing engine with
  | nil => exact Engine.reads_pure hagrees []
  | cons type rest ih =>
      -- The cache may have changed when the rest is checked, but it still agrees.
      have hstep : engine.Reads
          (checkType type >>= fun finding => do return finding :: (← checkTypes rest))
          (.ok (findingOf engine.catalog engine.rules.maxDepth type) >>= fun finding => do
            return finding :: (← .ok
              (rest.map (findingOf engine.catalog engine.rules.maxDepth)))) := by
        apply (reads_checkType hagrees type).bind
        intro finding cache _ hcache
        exact (ih hcache).map (finding :: ·)
      exact hstep

/-- The report on a store: what was skipped, and then what there is to find about each type. -/
def findingsOf (engine : Engine σ) : List Finding :=
  (TypeStore.skipped engine.store).map .skipped ++
    engine.catalog.types.elements.map (findingOf engine.catalog engine.rules.maxDepth)

theorem reads_check (hagrees : engine.CacheAgrees) :
    engine.Reads check (.ok (findingsOf engine)) := by
  apply Engine.reads_get
  exact (reads_checkTypes hagrees _).map ((TypeStore.skipped engine.store).map .skipped ++ ·)

/-- The command answers with the report, and nothing but the cache changes. -/
theorem runCommand_check {engine : Engine DirectoryStore} (hagrees : engine.CacheAgrees)
    (disk : Disk) :
    ∃ cache, Engine.CacheAgrees {engine with cache} ∧
      (Program.runCommand disk .check).run engine =
        .ok (isHealthy (findingsOf engine), text (findingsOf engine)) {engine with cache} := by
  obtain ⟨cache, hcache, hrun⟩ := reads_check hagrees
  refine ⟨cache, hcache, ?_⟩
  have hreport : (onEngine check).run engine = .ok (findingsOf engine) {engine with cache} := by
    have hrun' : check engine = .ok (findingsOf engine) {engine with cache} := hrun
    simp only [onEngine, EStateM.run, EStateM.adaptExcept, hrun']
  rw [Program.runCommand, EStateM.run_bind, hreport]
  rfl

theorem isHealthy_iff (engine : Engine σ) :
    isHealthy (findingsOf engine) = true ↔
      TypeStore.skipped engine.store = [] ∧ ∀ type ∈ engine.catalog.types.elements,
        Sound engine.catalog engine.rules.maxDepth type := by
  rw [isHealthy, findingsOf, List.all_append, Bool.and_eq_true, List.all_map, List.all_map,
    List.all_eq_true, List.all_eq_true]
  refine and_congr ?_ ?_
  · rw [List.eq_nil_iff_forall_not_mem]
    exact forall_congr' fun file => by simp [Finding.isSound]
  · exact forall₂_congr fun type _ => (finds_findingOf _ _ type).isSound_iff

/-- Once a type resolves, values that are refused are refused for what they are. -/
theorem validateFields_of_chain (hagrees : engine.CacheAgrees) {id : TypeId}
    {chain : List WorkItemType}
    (hchain : engine.catalog.chain engine.rules.maxDepth id = .ok chain) (payload : Payload) :
    (∃ values, engine.answer (.validateFields id payload) = .ok (.values values)) ∨
      ∃ error, engine.answer (.validateFields id payload) = .error error ∧
        error.kind = .badParameter := by
  rw [Engine.answer_of_schema (Engine.answer_of_chain hagrees hchain) payload]
  cases hresult : (Schema.ofChain chain).validate engine.settings.fillDefaults payload with
  | ok values => exact .inl ⟨values, rfl⟩
  | error error => exact .inr ⟨_, rfl, Schema.kind_of_validate hresult⟩

end Run

/-- Whatever a store holds and however it is configured, the check gives a verdict and a report, if
only the cache agrees with the store as it does when that was just opened. The report has one entry
for each file that was skipped and then one for each type that is listed, in the order of their ids;
each entry says what the catalog has about its type, whatever the entries before it say, and is
written on a line of its own. The verdict is good exactly if no file was skipped and every listed
type is sound. Then, before the check and after it, every payload for a listed type is accepted or
is at fault itself. -/
theorem check_sound_complete {engine : Engine DirectoryStore} (hagrees : engine.CacheAgrees)
    (disk : Disk) :
    ∃ types found entries after,
      let findings := engine.store.skipped.map .skipped ++ found
      engine.answer .list = .ok (.types types) ∧
      types.Pairwise (fun first second => rank first.id < rank second.id) ∧
      (Program.runCommand disk .check).run engine =
        .ok (isHealthy findings, String.join (entries.map (· ++ "\n"))) after ∧
      (after.store = engine.store ∧ after.settings = engine.settings) ∧
      List.Forall₂ Entry findings entries ∧
      List.Forall₂ (Finds engine.catalog engine.settings.maxInheritanceDepth) types found ∧
      (isHealthy findings = true ↔ engine.store.skipped = [] ∧ ∀ type ∈ types,
        Sound engine.catalog engine.settings.maxInheritanceDepth type) ∧
      (isHealthy findings = true → ∀ type ∈ types, ∀ payload, ∀ state ∈ [engine, after],
        (∃ values, state.answer (.validateFields type.id payload) = .ok (.values values)) ∨
          ∃ error, state.answer (.validateFields type.id payload) = .error error ∧
            error.kind = .badParameter) := by
  obtain ⟨cache, hcache, hrun⟩ := runCommand_check hagrees disk
  obtain ⟨entries, htext, hentries⟩ := exists_text_eq (findingsOf engine)
  rw [htext] at hrun
  have hhealthy := isHealthy_iff engine
  refine ⟨engine.catalog.types.elements, _, entries, {engine with cache},
    Engine.answer_of_reply hagrees rfl, engine.catalog.types.sorted, hrun, ⟨rfl, rfl⟩, hentries,
    ?_, hhealthy, ?_⟩
  · rw [List.forall₂_map_right_iff, List.forall₂_same]
    exact fun type _ => finds_findingOf _ _ type
  · intro hverdict type hmem payload state hstate
    obtain ⟨chain, hchain, _⟩ := (hhealthy.mp hverdict).2 type hmem
    simp only [List.mem_cons, List.not_mem_nil, or_false] at hstate
    rcases hstate with rfl | rfl
    · exact validateFields_of_chain hagrees hchain payload
    · exact validateFields_of_chain hcache hchain payload

/-- An engine that was just opened has nothing in its cache. -/
theorem cacheAgrees_of_openEngine {environment : List (String × String)}
    {config? root? : Option Path} {disk after : Disk} {engine : Engine DirectoryStore}
    (hopen : (Program.openEngine environment config? root?).run disk = .ok engine after) :
    engine.CacheAgrees := by
  obtain ⟨_, _, _, hopen⟩ := Outcome.run_bind_eq_ok.mp hopen
  split at hopen
  · cases hopen
  · obtain ⟨store, _, _, hengine⟩ := Outcome.run_bind_eq_ok.mp hopen
    cases hengine
    exact Engine.cacheAgrees_of_empty rfl

/-- Where the store can be opened, the program tells by its exit code whether all is well. -/
theorem exitCode_check_iff {options : Options} {environment : List (String × String)}
    {disk after : Disk} {engine : Engine DirectoryStore}
    (hopen : (Program.openEngine environment options.config? options.root?).run disk =
      .ok engine after) :
    (Program.execute options .check environment disk).exitCode = 0 ↔
      engine.store.skipped = [] ∧ ∀ type ∈ engine.catalog.types.elements,
        Sound engine.catalog engine.settings.maxInheritanceDepth type := by
  obtain ⟨_, _, hrun⟩ := runCommand_check (cacheAgrees_of_openEngine hopen) after
  have hopen' : Program.openEngine environment options.config? options.root? disk =
      .ok engine after := hopen
  have hrun' : Program.runCommand after .check engine = _ := hrun
  unfold Program.execute
  rw [hopen']
  simp only [hrun']
  refine Iff.trans ?_ (isHealthy_iff engine)
  cases isHealthy (findingsOf engine) <;> simp

section Stores

/-- A type with a choice among the given values. -/
def choice (id : Nat) (values : List FieldValue) : WorkItemType where
  id := .ofNat id
  name := "Task"
  fields := .ofList [("state", {type := .enum {base := .string, values}})]

/-- A type with no fields of its own. -/
def below (id base : Nat) : WorkItemType :=
  {id := .ofNat id, name := "Subtask", base? := some (.ofNat base)}

def storeOf (types : List WorkItemType) (skipped : List SkippedFile) : DirectoryStore where
  format := .yaml
  root := ⟨"schema"⟩
  catalog := {types := .ofList types}
  skipped := skipped
  disk := {}

/-- In the first store there are a sound type and one below it. In the second one there are also a
choice among no values, a type that inherits it, a type that extends one that is not there, and a
file that was skipped. -/
theorem check_sound_complete_stores :
    let sound := storeOf [below 2 1, choice 1 [.string "new"]] []
    let damaged := storeOf [choice 1 [.string "new"], below 4 3, choice 3 [], below 5 9, below 2 1]
      [⟨⟨"schema/types/broken.yaml"⟩, .noValue⟩]
    (∃ report after, (Program.runCommand {} .check).run {store := sound} =
        .ok (true, report) after ∧
      ∀ payload, (∃ values,
        after.answer (.validateFields (.ofNat 2) payload) = .ok (.values values)) ∨
        ∃ error, after.answer (.validateFields (.ofNat 2) payload) = .error error ∧
          error.kind = .badParameter) ∧
    ∃ first rest after, (Program.runCommand {} .check).run {store := damaged} =
        .ok (false, String.join ((first :: rest).map (· ++ "\n"))) after ∧
      first = "error  schema/types/broken.yaml: [configuration] " ++ DecodeError.noValue.message ∧
      rest.length = 5 := by
  intro sound damaged
  constructor
  · have hlisted : sound.catalog.types.elements = [choice 1 [.string "new"], below 2 1] := rfl
    have hsound : isHealthy (findingsOf {store := sound}) = true := by decide
    have hagrees : Engine.CacheAgrees {store := sound} := Engine.cacheAgrees_of_empty rfl
    obtain ⟨types, found, entries, after, hlist, _, hrun, _, _, _, hhealthy, hvalid⟩ :=
      check_sound_complete hagrees {}
    cases hlist
    have hverdict := hhealthy.mpr ((isHealthy_iff {store := sound}).mp hsound)
    rw [hverdict] at hrun
    refine ⟨_, after, hrun, fun payload => ?_⟩
    refine hvalid hverdict (below 2 1) ?_ payload after (by simp)
    change below 2 1 ∈ sound.catalog.types.elements
    rw [hlisted]
    simp
  · have hlisted : damaged.catalog.types.elements.length = 5 := rfl
    have hagrees : Engine.CacheAgrees {store := damaged} := Engine.cacheAgrees_of_empty rfl
    obtain ⟨types, found, entries, after, hlist, _, hrun, _, hentries, hfound, hhealthy, _⟩ :=
      check_sound_complete hagrees {}
    cases hlist
    have hverdict : isHealthy (damaged.skipped.map .skipped ++ found) = false := by
      rw [Bool.eq_false_iff]
      intro hverdict
      cases (hhealthy.mp hverdict).1
    rw [hverdict] at hrun
    -- The one file that was skipped comes first, the types after it.
    obtain ⟨first, rest, hfirst, hrest, rfl⟩ := List.forall₂_cons_left_iff.mp hentries
    refine ⟨first, rest, after, hrun, ?_, ?_⟩
    · cases hfirst
      rfl
    · exact hrest.length_eq.symm.trans (hfound.length_eq.symm.trans hlisted)

end Stores

end Report

end WorkSchema
