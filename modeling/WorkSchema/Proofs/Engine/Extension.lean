import WorkSchema.Proofs.Engine.Failure
import WorkSchema.Proofs.Engine.Transparency
import WorkSchema.Proofs.Engine.Validity
import WorkSchema.Proofs.Store.Writing

/-!
What adding fields to a type needs and what it does. The definitions are checked against the
resolved schema of the type and written to its own fields. An inherited name that is
redefined becomes a field of the type's own in that way, and keeps its place in the schema
all the same. Types that do not extend the type resolve as before.
-/

namespace WorkSchema

namespace Schema

variable {current fields : Schema}

/-- Whether fields may be added to a type with the given schema. -/
structure Accepts (current fields : Schema) : Prop where
  proper : fields.Proper
  encloses : ∀ name new old, fields.get? name = some new → current.get? name = some old →
    new.encloses old = true

/-- Whether an entry does not enclose the definition that is in force under its name. -/
def Conflicts (current : Schema) (entry : String × FieldDefinition) : Prop :=
  ∃ old, current.get? entry.1 = some old ∧ entry.2.encloses old = false

theorem not_conflicts_iff {entry : String × FieldDefinition} :
    ¬ current.Conflicts entry ↔
      ∀ old, current.get? entry.1 = some old → entry.2.encloses old = true := by
  simp [Conflicts]

end Schema

/-- The check of definitions reports the first conflict. -/
theorem Engine.checkCompatible_eq_error {current fields : Schema} {error : SchemaError} :
    checkCompatible current fields = .error error ↔
      ∃ name new old, Outcome.First current.Conflicts fields.entries (name, new) ∧
        current.get? name = some old ∧ error = .conflict name (conflictMessage new old) := by
  rw [checkCompatible_eq, Outcome.forM_eq_error]
  simp only [Outcome.First, checkReplaces_eq_ok, checkReplaces_eq_error, Schema.not_conflicts_iff]
  constructor
  · rintro ⟨before, ⟨name, new⟩, after, hsplit, hbefore, old, hold, hencloses, rfl⟩
    exact ⟨name, new, old, ⟨before, after, hsplit, ⟨old, hold, hencloses⟩, hbefore⟩, hold, rfl⟩
  · rintro ⟨name, new, old, ⟨before, after, hsplit, ⟨kept, hkept, hencloses⟩, hbefore⟩, hold, rfl⟩
    obtain rfl : kept = old := Option.some.inj (hkept.symm.trans hold)
    exact ⟨before, (name, new), after, hsplit, hbefore, kept, hold, hencloses, rfl⟩

namespace Catalog

variable {rules : Rules} {before after catalog : Catalog} {id : TypeId} {fields : Schema}

theorem revise_iff_accepts :
    (∃ revised, catalog.revise rules id fields = .ok revised) ↔
      ∃ current, catalog.flatten rules.maxDepth id = .ok current ∧ current.Accepts fields := by
  simp only [revise_eq_ok, Engine.checkDefinitions_eq_ok, Engine.checkCompatible_eq_ok]
  constructor
  · rintro ⟨revised, hfields, current, hcurrent, hencloses, _⟩
    exact ⟨current, hcurrent, hfields, hencloses⟩
  · rintro ⟨current, hcurrent, hfields, hencloses⟩
    obtain ⟨chain, hchain, _⟩ := flatten_eq_ok.mp hcurrent
    obtain ⟨hlineage, _⟩ := chain_eq_ok.mp hchain
    obtain ⟨type, above, rfl, hid⟩ := hlineage.head
    have htype : catalog.type? id = some type := hid ▸ hlineage.type?_of_mem List.mem_cons_self
    exact ⟨_, hfields, current, hcurrent, hencloses, type, htype, rfl⟩

/-- A walk fails for what it finds, and never for a conflict of definitions. -/
private theorem kind_of_chainAbove {max budget : Nat} {below : List WorkItemType}
    {current : TypeId} {error : SchemaError}
    (hwalk : catalog.chainAbove max id below current budget = .error error) :
    error.kind ≠ .conflict := by
  intro hkind
  induction budget generalizing below current with
  | zero =>
      unfold chainAbove at hwalk
      split at hwalk <;> cases hwalk <;> cases hkind
  | succ budget ih =>
      unfold chainAbove at hwalk
      split at hwalk
      · cases hwalk
        cases hkind
      · rcases Outcome.bind_eq_error.mp hwalk with hload | ⟨type, _, hrest⟩
        · unfold load at hload
          split at hload <;> cases hload
          cases hkind
        · split at hrest
          · cases hrest
          · exact ih hrest

private theorem kind_of_flatten {max : Nat} {error : SchemaError}
    (hflatten : catalog.flatten max id = .error error) : error.kind ≠ .conflict := by
  rcases Outcome.bind_eq_error.mp hflatten with hchain | ⟨_, _, hschema⟩
  · exact kind_of_chainAbove hchain
  · cases hschema

private theorem kind_of_checkDefinitions {error : SchemaError}
    (hcheck : Engine.checkDefinitions fields = .error error) : error.kind ≠ .conflict := by
  obtain ⟨_, ⟨name, definition⟩, _, _, _, hentry⟩ := Outcome.forM_eq_error.mp hcheck
  intro hkind
  simp only at hentry
  split at hentry
  · cases hentry
    cases hkind
  · split at hentry <;> cases hentry
    cases hkind

/-- A revision fails for a conflict exactly if all that is checked before is in order and
there is one, and it names the first. -/
theorem revise_eq_conflict {name message : String} :
    catalog.revise rules id fields = .error (.conflict name message) ↔
      fields.Proper ∧ ∃ current new old, catalog.flatten rules.maxDepth id = .ok current ∧
        Outcome.First current.Conflicts fields.entries (name, new) ∧
          current.get? name = some old ∧ message = Engine.conflictMessage new old := by
  have hkind : (SchemaError.conflict name message).kind = .conflict := rfl
  simp only [revise, Outcome.bind_eq_error, Engine.checkCompatible_eq_error]
  constructor
  · rintro (hcheck | ⟨_, hcheck, hflatten | ⟨current, hcurrent, hconflict | ⟨_, _, hload⟩⟩⟩)
    · exact absurd hkind (kind_of_checkDefinitions hcheck)
    · exact absurd hkind (kind_of_flatten hflatten)
    · obtain ⟨_, new, old, hfirst, hold, hsame⟩ := hconflict
      cases hsame
      exact ⟨Engine.checkDefinitions_eq_ok.mp hcheck, current, new, old, hcurrent, hfirst, hold,
        rfl⟩
    · rcases hload with hload | ⟨_, _, hrest⟩
      · unfold load at hload
        split at hload <;> cases hload
      · cases hrest
  · rintro ⟨hfields, current, new, old, hcurrent, hfirst, hold, rfl⟩
    exact Or.inr ⟨(), Engine.checkDefinitions_eq_ok.mpr hfields,
      Or.inr ⟨current, hcurrent, Or.inl ⟨name, new, old, hfirst, hold, rfl⟩⟩⟩

theorem map_replacedBy_of_not_mem {revised : WorkItemType} {chain : List WorkItemType}
    (hnot : revised.id ∉ chain.map (·.id)) : chain.map (replacedBy revised) = chain := by
  rw [List.map_congr_left (g := fun type => type), List.map_id']
  intro type hmem
  have hne : type.id ≠ revised.id := fun hsame => hnot (hsame ▸ List.mem_map_of_mem hmem)
  rw [replacedBy, if_neg hne]

/-- A type whose chain does not go through the revised one resolves as before, and so does
one without a chain. -/
theorem flatten_of_revised {revised : WorkItemType}
    (hrevise : before.revise rules id fields = .ok revised)
    (htypes : after.types = (before.save revised).types) {max : Nat} {other : TypeId}
    (hother : ∀ found, before.chain max other = .ok found → id ∉ found.map (·.id)) :
    after.flatten max other = before.flatten max other := by
  rw [flatten, flatten, chain_revised hrevise htypes]
  cases hchain : before.chain max other with
  | error error => rfl
  | ok found =>
      have hnot : revised.id ∉ found.map (·.id) := id_of_revise hrevise ▸ hother found hchain
      rw [Except.map, map_replacedBy_of_not_mem hnot]

/-- The schema of the revised type is its old one with the fields put over it, because
what it inherits lies under its own fields before and after. -/
theorem overlays_of_revised {revised : WorkItemType} {current : Schema}
    (hrevise : before.revise rules id fields = .ok revised)
    (htypes : after.types = (before.save revised).types)
    (hcurrent : before.flatten rules.maxDepth id = .ok current) :
    ∃ later, after.flatten rules.maxDepth id = .ok later ∧ later.Overlays current fields := by
  obtain ⟨_, _, _, _, type, htype, hrevised⟩ := revise_eq_ok.mp hrevise
  obtain ⟨chain, hchain, rfl⟩ := flatten_eq_ok.mp hcurrent
  obtain ⟨hlineage, _⟩ := chain_eq_ok.mp hchain
  obtain ⟨lowest, above, rfl, hid⟩ := hlineage.head
  have hlowest : lowest = type := by
    have hfound := hlineage.type?_of_mem List.mem_cons_self
    rw [hid, htype] at hfound
    exact (Option.some.inj hfound).symm
  have hsame : lowest.id = revised.id := hid.trans (id_of_revise hrevise).symm
  -- No id comes twice in a chain, so the types above are not exchanged.
  have hnot : revised.id ∉ above.map (·.id) := hsame ▸ (List.nodup_cons.mp hlineage.nodup).1
  have hafter : after.chain rules.maxDepth id = .ok (revised :: above) := by
    rw [chain_revised hrevise htypes, hchain, Except.map, List.map_cons, replacedBy,
      if_pos hsame, map_replacedBy_of_not_mem hnot]
  refine ⟨_, flatten_eq_ok.mpr ⟨_, hafter, rfl⟩, ?_⟩
  rw [Schema.ofChain_cons, Schema.ofChain_cons, hrevised, hlowest]
  exact (Schema.overlays_extend _ _).over (Schema.overlays_extend _ _) (Schema.overlays_extend _ _)

end Catalog

/-- An extension that fails, though the disk does not, has failed at a check. -/
theorem AnyStore.revise_of_addFields {rules : Rules} {store after : AnyStore} {id : TypeId}
    {fields : Schema} {error : SchemaError}
    (hrun : (TypeStore.addFields rules id fields).run store = .error error after)
    (hdisk : ∀ failure, error ≠ .file failure) :
    (TypeStore.catalog store).revise rules id fields = .error error ∧ after = store := by
  rcases TypeStore.addFields_eq_error.mp hrun with hreject | ⟨revised, hrevise, hwrite⟩
  · exact hreject
  · exfalso
    rcases hwrite with hsave | ⟨hsave, hresolve⟩
    · rcases (performs_save revised).error hsave with hrefused | ⟨failure, hfile⟩
      · cases hrefused
      · exact hdisk failure hfile
    · obtain ⟨resolved, hresolved⟩ := Catalog.resolve_of_revise hrevise
      rw [(LawfulStore.save revised).ok hsave, hresolved] at hresolve
      cases hresolve

namespace Engine

/-- What adding fields does to a type that was stored and resolved in some way: its own
fields are extended, and nothing else is stored differently. Its schema is extended alike,
and is the one that was returned, whether or not schemas are kept. Types whose chain does
not go through the type resolve as they did. -/
structure Extended {σ : Type} [TypeStore σ] (before after : Engine σ) (old : WorkItemType)
    (current fields : Schema) (resolved : ResolvedType) : Prop where
  type : resolved.type = {old with fields := resolved.type.fields}
  ownFields : resolved.type.fields.Overlays old.fields fields
  types (type : WorkItemType) : type ∈ after.catalog.types.elements ↔
    type = resolved.type ∨ (type.id ≠ old.id ∧ type ∈ before.catalog.types.elements)
  categories : after.catalog.categories = before.catalog.categories
  links : after.catalog.links = before.catalog.links
  schema : resolved.schema.Overlays current fields
  resolves (keeps : Bool) :
    (after.keeping keeps).answer (.resolveSchema old.id) = .ok (.schema resolved.schema)
  others (other : TypeId) :
    (∀ found, before.catalog.chain before.settings.maxInheritanceDepth other = .ok found →
        old.id ∉ found.map (·.id)) →
      after.answer (.resolveSchema other) = before.answer (.resolveSchema other)

theorem extended_of_run {before after : Engine AnyStore} {id : TypeId} {fields : Schema}
    {resolved : ResolvedType} (hagrees : before.CacheAgrees) (hagrees' : after.CacheAgrees)
    (hrules : after.rules = before.rules)
    (hrun : (TypeStore.addFields before.rules id fields).run before.store =
      .ok resolved after.store) :
    ∃ old current, old ∈ before.catalog.types.elements ∧ old.id = id ∧
      before.catalog.flatten before.rules.maxDepth id = .ok current ∧
        before.Extended after old current fields resolved := by
  obtain ⟨revised, hrevise, hsave, hresolve⟩ := TypeStore.addFields_eq_ok.mp hrun
  have hcatalog : after.catalog = before.catalog.save revised :=
    (LawfulStore.save revised).ok hsave
  have htypes : after.catalog.types = (before.catalog.save revised).types := by rw [hcatalog]
  obtain ⟨_, current, hcurrent, _, old, hold, hrevised⟩ := Catalog.revise_eq_ok.mp hrevise
  obtain rfl := Catalog.id_of_type? hold
  have hid : revised.id = old.id := Catalog.id_of_revise hrevise
  obtain ⟨later, hlater, hschema⟩ := Catalog.overlays_of_revised hrevise htypes hcurrent
  have hresolved : resolved = {type := revised, schema := later} := by
    have hload : after.catalog.load old.id = .ok revised := by
      rw [hcatalog, ← hid]
      exact before.catalog.load_save revised
    change after.catalog.resolve _ _ = _ at hresolve
    rw [Catalog.resolve, hlater, hload] at hresolve
    exact (Except.ok.inj hresolve).symm
  subst hresolved
  refine ⟨old, current, Catalog.mem_of_type? hold, rfl, hcurrent, ?_⟩
  constructor
  case type => rw [hrevised]
  case ownFields =>
    rw [hrevised]
    exact Schema.overlays_extend old.fields fields
  case types =>
    intro type
    rw [htypes, Catalog.save, RankedList.mem_insert_iff, ne_eq, WorkItemType.rank_eq_iff, hid]
  case categories => rw [hcatalog, Catalog.save]
  case links => rw [hcatalog, Catalog.save]
  case schema => exact hschema
  case resolves =>
    rw [← hrules] at hlater
    exact answer_keeping hagrees' hlater
  case others =>
    intro other hother
    exact answer_resolveSchema_congr hagrees hagrees' hrules
      (Catalog.flatten_of_revised hrevise htypes hother)

/-- In every state that an engine reaches, whatever its store held at first, fields can be
added to a type exactly if they are proper and enclose what is in force under their names,
unless the disk fails. Adding them does what it says and nothing else, and does nothing if
it fails. A conflict is reported for the first field in order that is in one. -/
theorem addFields_effect (start : Engine AnyStore) (operations : List Operation) (id : TypeId)
    (fields : Schema) (hempty : start.cache.entries = []) (hfresh : start.FreshIds operations)
    (hdisk : ∀ failure, (start.after operations).answer (.addFields id fields) ≠
      .error (.file failure)) :
    let before := start.after operations
    let after := before.next (.addFields id fields)
    let answer := before.answer (.addFields id fields)
    ((∃ resolved, answer = .ok (.resolved resolved)) ↔
        ∃ current, before.answer (.resolveSchema id) = .ok (.schema current) ∧
          current.Accepts fields) ∧
      (∀ resolved, answer = .ok (.resolved resolved) →
        ∃ old current, old ∈ before.catalog.types.elements ∧ old.id = id ∧
          before.answer (.resolveSchema id) = .ok (.schema current) ∧
            before.Extended after old current fields resolved) ∧
      (∀ error, answer = .error error → after.store = before.store) ∧
      ∀ name message, answer = .error (.conflict name message) ↔
        fields.Proper ∧ ∃ current new old,
          before.answer (.resolveSchema id) = .ok (.schema current) ∧
            Outcome.First current.Conflicts fields.entries (name, new) ∧
              current.get? name = some old ∧ message = conflictMessage new old := by
  intro before after answer
  obtain ⟨hagrees, _, _⟩ := after_evolves (cacheAgrees_of_empty hempty) hfresh
  have hlast : (Operation.addFields id fields).Fresh before.catalog := nofun
  obtain ⟨hagrees', hrules', _⟩ := next_evolves hagrees hlast
  obtain ⟨hanswer, hstore⟩ :=
    (follows_addFields hagrees id fields).answer_next (.addFields id fields) .resolved rfl
  have hcurrent : ∀ current, before.answer (.resolveSchema id) = .ok (.schema current) ↔
      before.catalog.flatten before.rules.maxDepth id = .ok current :=
    fun current => answer_resolveSchema_iff hagrees
  simp only [hcurrent]
  rw [← Catalog.revise_iff_accepts]
  simp only [← Catalog.revise_eq_conflict]
  cases hrun : (TypeStore.addFields before.rules id fields).run before.store with
  | ok resolved store =>
      rw [hrun] at hanswer hstore
      obtain rfl : after.store = store := hstore
      have hok : answer = .ok (.resolved resolved) := hanswer
      obtain ⟨revised, hrevise, _⟩ := TypeStore.addFields_eq_ok.mp hrun
      rw [hok]
      refine ⟨⟨fun _ => ⟨revised, hrevise⟩, fun _ => ⟨resolved, rfl⟩⟩, ?_, nofun, ?_⟩
      · intro other hother
        cases hother
        exact extended_of_run hagrees hagrees' hrules' hrun
      · intro name message
        exact ⟨nofun, fun hconflict => by cases hrevise.symm.trans hconflict⟩
  | error error store =>
      rw [hrun] at hanswer hstore
      have herror : answer = .error error := hanswer
      have hother : ∀ failure, error ≠ .file failure := by
        rintro failure rfl
        exact hdisk failure herror
      obtain ⟨hreject, hsame⟩ := AnyStore.revise_of_addFields hrun hother
      have hreject' : before.catalog.revise before.rules id fields = .error error := hreject
      rw [herror, hreject']
      refine ⟨⟨nofun, nofun⟩, nofun, fun _ _ => hstore.trans hsame, ?_⟩
      intro name message
      exact ⟨fun hconflict => by cases hconflict; rfl, fun hconflict => by cases hconflict; rfl⟩

/-- A new field, and after it an inherited one that allows more values. -/
def notesAndSeverity : Schema := .ofList (("notes", {type := .simple .string}) ::
  (severity [3, 2, 1]).entries)

theorem addFields_effect_inherited :
    let start : Engine AnyStore := {store := .memory {}}
    let before := start.after inheritingType
    let operation := Operation.addFields (.ofNat 2) notesAndSeverity
    start.FreshIds inheritingType ∧
      (∀ failure, before.answer operation ≠ .error (.file failure)) ∧
      ∃ resolved, before.answer operation = .ok (.resolved resolved) ∧
        resolved.type.fields.keys = ["notes", "severity"] ∧
        resolved.schema.keys = ["severity", "notes"] ∧
        ∃ old current, old ∈ before.catalog.types.elements ∧ old.id = .ofNat 2 ∧
          before.answer (.resolveSchema (.ofNat 2)) = .ok (.schema current) ∧
            before.Extended (before.next operation) old current notesAndSeverity resolved := by
  intro start before operation
  have hfresh : start.FreshIds inheritingType := by decide
  have hanswer : ∃ resolved, before.answer operation = .ok (.resolved resolved) ∧
      resolved.type.fields.keys = ["notes", "severity"] ∧
        resolved.schema.keys = ["severity", "notes"] := ⟨_, rfl, rfl, rfl⟩
  obtain ⟨resolved, hresolved, hown, hkeys⟩ := hanswer
  have hdisk : ∀ failure, before.answer operation ≠ .error (.file failure) := by
    intro failure
    rw [hresolved]
    nofun
  obtain ⟨_, hextended, _⟩ :=
    addFields_effect start inheritingType (.ofNat 2) notesAndSeverity rfl hfresh hdisk
  exact ⟨hfresh, hdisk, resolved, hresolved, hown, hkeys, hextended resolved hresolved⟩

end Engine

end WorkSchema
