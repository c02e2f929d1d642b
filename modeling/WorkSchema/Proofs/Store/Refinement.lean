import WorkSchema.Proofs.Store.Links

/-!
A directory store does what a memory store does, also if it is closed and opened again
at any points. The two are related while the catalogs are the same and the disk records
the catalog. Every operation gives the same answer in related stores and leaves related
stores, so two runs that begin alike never differ.
-/

namespace WorkSchema

namespace Catalog

variable {catalog linked : Catalog} {format : DefinitionFormat} {id : TypeId}
  {categories : List CategoryId}

/-- Links that make the list of links longer make it a list with elements. -/
theorem links_ne_nil (hlink : catalog.link id categories = .ok linked)
    (hsize : linked.links.size ≠ catalog.links.size) : linked.links.elements ≠ [] := by
  obtain ⟨_, _, rfl⟩ := link_eq_ok.mp hlink
  have hgrown := RankedList.size_le_insertAll catalog.links (categories.map (⟨id, ·⟩))
  intro hnil
  rw [RankedList.size, hnil] at hsize
  rw [RankedList.size, RankedList.size, hnil] at hgrown
  simp only [List.length_nil] at hsize hgrown
  rw [RankedList.size] at hsize
  omega

namespace ReadsBack

theorem save (hreads : catalog.ReadsBack format) {type : WorkItemType}
    (htype : format.readType (format.writeType type) = .ok type) :
    (catalog.save type).ReadsBack format where
  types other hmem := by
    rcases RankedList.mem_insert hmem with rfl | hold
    · exact htype
    · exact hreads.types other hold
  categories := hreads.categories
  links := hreads.links

theorem saveCategory (hreads : catalog.ReadsBack format) {category : Category}
    (hcategory : format.readCategory (format.writeCategory category) = .ok category) :
    (catalog.saveCategory category).ReadsBack format where
  types := hreads.types
  categories other hmem := by
    rcases RankedList.mem_insert hmem with rfl | hold
    · exact hcategory
    · exact hreads.categories other hold
  links := hreads.links

theorem seed (hreads : catalog.ReadsBack format) {defaults : List Category}
    (hdefaults : ∀ category ∈ defaults,
      format.readCategory (format.writeCategory category) = .ok category) :
    (catalog.seed defaults).ReadsBack format := by
  induction defaults generalizing catalog with
  | nil => exact hreads
  | cons category rest ih =>
      obtain ⟨hfirst, hrest⟩ := List.forall_mem_cons.mp hdefaults
      rw [seed_cons]
      split
      · exact ih hreads hrest
      · exact ih (hreads.saveCategory hfirst) hrest

end ReadsBack

end Catalog

namespace StoreOperation

/-- Whether what an operation writes reads back from its text. A list of links is
written if it is longer than the one before. -/
def ReadsBack (format : DefinitionFormat) (catalog : Catalog) : StoreOperation → Prop
  | save type => format.readType (format.writeType type) = .ok type
  | saveCategory category => format.readCategory (format.writeCategory category) = .ok category
  | linkCategories id categories => ∀ linked, catalog.link id categories = .ok linked →
      linked.links.size ≠ catalog.links.size →
        format.readLinks (format.writeLinks linked.links.elements) = .ok linked.links.elements
  | _ => True

/-- Whether all that the operations of a run write reads back. -/
def AllReadBack (format : DefinitionFormat) (defaults : List Category) :
    MemoryStore → List StoreOperation → Prop
  | _, [] => True
  | store, operation :: rest =>
      operation.ReadsBack format store.catalog ∧
        AllReadBack format defaults (next defaults store operation) rest

end StoreOperation

namespace DirectoryStore

variable {format : DefinitionFormat} {defaults : List Category} {store : DirectoryStore}

/-- An empty folder is opened as the store that has the default categories. -/
theorem openAt_of_vacant {disk : Disk} {root : Path} (hvacant : disk.Vacant root.names)
    (hfaults : disk.faults = [])
    (hreads : ∀ category ∈ defaults,
      format.readCategory (format.writeCategory category) = .ok category) :
    let catalog := Catalog.seed {} defaults
    catalog.ReadsBack format ∧ catalog.LinksKnown ∧
      ∃ after, (openAt format root defaults).run disk =
          .ok {format, root, catalog, skipped := [], disk := after} after ∧
        after.Records format root catalog ∧ after.Ready root := by
  have hnothing : Catalog.ReadsBack {} format := by
    constructor
    · intro type hmem
      cases hmem
    · intro category hmem
      cases hmem
    · intro hlinks
      exact absurd rfl hlinks
  have hknown : Catalog.LinksKnown {} := by
    intro link hmem
    cases hmem
  have hreadsBack := hnothing.seed hreads
  have hlinksKnown := hknown.seed defaults
  exact ⟨hreadsBack, hlinksKnown,
    openAt_of_records (records_of_vacant hvacant hfaults) hreadsBack hlinksKnown⟩

/-- Whether a store would come back as it is if it were closed and opened again, with
the given defaults or without. -/
structure Faithful (store : DirectoryStore) (defaults : List Category) : Prop where
  skipped : store.skipped = []
  records : store.disk.Records store.format store.root store.catalog
  ready : store.disk.Ready store.root
  readsBack : store.catalog.ReadsBack store.format
  linksKnown : store.catalog.LinksKnown
  defaults : ∀ category ∈ defaults, store.catalog.categories.contains (rank category) = true

namespace Faithful

theorem save (hfaithful : store.Faithful defaults) {type : WorkItemType}
    (htype : store.format.readType (store.format.writeType type) = .ok type) :
    ∃ after, (DirectoryStore.save type).run store = .ok () after ∧ after.Faithful defaults ∧
      after.catalog = store.catalog.save type ∧ after.format = store.format := by
  obtain ⟨disk, hrun, hrecords, hready⟩ :=
    replaceType_eq_ok hfaithful.records hfaithful.ready type
  refine ⟨_, replace_run_eq_ok.mpr ⟨disk, hrun, rfl⟩, ?_, rfl, rfl⟩
  exact ⟨hfaithful.skipped, hrecords, hready, hfaithful.readsBack.save htype,
    hfaithful.linksKnown.save type, hfaithful.defaults⟩

theorem saveCategory (hfaithful : store.Faithful defaults) {category : Category}
    (hcategory : store.format.readCategory (store.format.writeCategory category) =
      .ok category) :
    ∃ after, (DirectoryStore.saveCategory category).run store = .ok () after ∧
      after.Faithful defaults ∧ after.catalog = store.catalog.saveCategory category ∧
      after.format = store.format := by
  obtain ⟨disk, hrun, hrecords, hready⟩ :=
    replaceCategory_eq_ok hfaithful.records hfaithful.ready category
  refine ⟨_, replace_run_eq_ok.mpr ⟨disk, hrun, rfl⟩, ?_, rfl, rfl⟩
  refine ⟨hfaithful.skipped, hrecords, hready, hfaithful.readsBack.saveCategory hcategory,
    hfaithful.linksKnown.saveCategory category, ?_⟩
  intro other hother
  change (store.catalog.saveCategory category).categories.contains _ = true
  rw [Catalog.contains_saveCategory, hfaithful.defaults other hother, Bool.or_true]

/-- Linking fails on unknown ids only. Links that add nothing are not written, and
nothing is lost by that. -/
theorem link (hfaithful : store.Faithful defaults) {id : TypeId} {categories : List CategoryId}
    {linked : Catalog} (hlink : store.catalog.link id categories = .ok linked)
    (hlinks : linked.links.size ≠ store.catalog.links.size →
      store.format.readLinks (store.format.writeLinks linked.links.elements) =
        .ok linked.links.elements) :
    ∃ after, (DirectoryStore.link id categories).run store = .ok () after ∧
      after.Faithful defaults ∧ after.catalog = linked ∧ after.format = store.format := by
  rw [link_run, hlink]
  by_cases hsize : linked.links.size = store.catalog.links.size
  · have hsame := Catalog.link_eq_self hlink hsize
    exact ⟨store, by simp only [hsize, if_true], hfaithful, hsame.symm, rfl⟩
  · obtain ⟨disk, hrun, hrecords, hready⟩ := replaceLinks_eq_ok hfaithful.records
      hfaithful.ready (Catalog.links_ne_nil hlink hsize)
    rw [Catalog.with_links_of_link hlink] at hrecords
    refine ⟨{store with disk, catalog := linked}, ?_, ?_, rfl, rfl⟩
    · simp only [hsize, if_false]
      exact replace_run_eq_ok.mpr ⟨disk, hrun, rfl⟩
    · obtain ⟨_, _, rfl⟩ := Catalog.link_eq_ok.mp hlink
      exact ⟨hfaithful.skipped, hrecords, hready,
        ⟨hfaithful.readsBack.types, hfaithful.readsBack.categories, fun _ => hlinks hsize⟩,
        hfaithful.linksKnown.link hlink, hfaithful.defaults⟩

theorem reopen (hfaithful : store.Faithful defaults) (withDefaults : Bool) :
    ∃ after, (Reopenable.reopen (if withDefaults then defaults else [])).run store =
        .ok () after ∧
      after.Faithful defaults ∧ after.catalog = store.catalog ∧ after.format = store.format := by
  have hseed : store.catalog.seed (if withDefaults then defaults else []) = store.catalog := by
    apply Catalog.seed_eq_self
    split
    · exact hfaithful.defaults
    · simp
  have hreads := hfaithful.readsBack
  have hknown := hfaithful.linksKnown
  rw [← hseed] at hreads hknown
  obtain ⟨disk, hopen, hrecords, hready⟩ := openAt_of_records hfaithful.records hreads hknown
  rw [hseed] at hopen hrecords
  refine ⟨{store with skipped := [], disk}, ?_, ?_, rfl, rfl⟩
  · rw [reopen_run, hopen]
  · exact ⟨rfl, hrecords, hready, hfaithful.readsBack, hfaithful.linksKnown, hfaithful.defaults⟩

end Faithful

/-- Whether a directory store and a memory store hold the same, the former also in its
files. -/
structure Mirrors (store : DirectoryStore) (memory : MemoryStore) (format : DefinitionFormat)
    (defaults : List Category) : Prop where
  faithful : store.Faithful defaults
  catalogs : store.catalog = memory.catalog
  formats : store.format = format

namespace Mirrors

variable {memory : MemoryStore}

open StoreOperation

private theorem of_actions {α : Type} (first : StoreM DirectoryStore α)
    (second : StoreM MemoryStore α)
    (hanswers : Outcome.answer (first.run store) = Outcome.answer (second.run memory))
    (hstates : (Outcome.endState (first.run store)).Mirrors (Outcome.endState (second.run memory))
      format defaults)
    {respond : α → StoreResponse} {operation : StoreOperation}
    (hfirst : operation.perform defaults = do return respond (← first))
    (hsecond : operation.perform defaults = do return respond (← second)) :
    answer defaults store operation = answer defaults memory operation ∧
      (next defaults store operation).Mirrors (next defaults memory operation) format defaults := by
  unfold answer next
  rw [hfirst, hsecond, Outcome.answer_map, Outcome.answer_map, Outcome.endState_map,
    Outcome.endState_map, hanswers]
  exact ⟨rfl, hstates⟩

private theorem of_consult {α : Type} (hmirrors : store.Mirrors memory format defaults)
    (question : Catalog → Except SchemaError α) {respond : α → StoreResponse}
    {operation : StoreOperation}
    (hfirst : operation.perform (σ := DirectoryStore) defaults =
      do return respond (← TypeStore.consult question))
    (hsecond : operation.perform (σ := MemoryStore) defaults =
      do return respond (← TypeStore.consult question)) :
    answer defaults store operation = answer defaults memory operation ∧
      (next defaults store operation).Mirrors (next defaults memory operation) format defaults := by
  apply of_actions _ _ _ _ hfirst hsecond
  · rw [TypeStore.consult_run, TypeStore.consult_run, Outcome.answer_inState,
      Outcome.answer_inState]
    exact congrArg question hmirrors.catalogs
  · rw [TypeStore.consult_run, TypeStore.consult_run, Outcome.endState_inState,
      Outcome.endState_inState]
    exact hmirrors

/-- Two writes that both succeed, with the same effect on the catalogs. -/
private theorem of_writes {first : StoreM DirectoryStore Unit} {after : DirectoryStore}
    {memoryAfter : MemoryStore} (hmirrors : store.Mirrors memory format defaults)
    (second : StoreM MemoryStore Unit)
    (hrun : first.run store = .ok () after) (hfaithful : after.Faithful defaults)
    (hmemory : second.run memory = .ok () memoryAfter)
    (hcatalogs : after.catalog = memoryAfter.catalog) (hformat : after.format = store.format)
    {operation : StoreOperation}
    (hfirst : operation.perform defaults = do return (fun _ => .done) (← first))
    (hsecond : operation.perform defaults = do return (fun _ => .done) (← second)) :
    answer defaults store operation = answer defaults memory operation ∧
      (next defaults store operation).Mirrors (next defaults memory operation) format defaults := by
  apply of_actions _ _ _ _ hfirst hsecond
  · rw [hrun, hmemory]
    rfl
  · rw [hrun, hmemory]
    exact ⟨hfaithful, hcatalogs, hformat.trans hmirrors.formats⟩

private theorem step_link (hmirrors : store.Mirrors memory format defaults) (id : TypeId)
    (categories : List CategoryId)
    (hreads : (linkCategories id categories).ReadsBack format memory.catalog) :
    answer defaults store (.linkCategories id categories) =
        answer defaults memory (.linkCategories id categories) ∧
      (next defaults store (.linkCategories id categories)).Mirrors
        (next defaults memory (.linkCategories id categories)) format defaults := by
  have hmemory := MemoryStore.link_run id categories memory
  rw [← hmirrors.catalogs] at hmemory
  cases hlink : store.catalog.link id categories with
  | error error =>
      have hdirectory := link_run id categories store
      rw [hlink] at hmemory hdirectory
      refine of_actions (DirectoryStore.link id categories) (MemoryStore.link id categories)
        ?_ ?_ rfl rfl
      · rw [hmemory, hdirectory]
        rfl
      · rw [hmemory, hdirectory]
        exact hmirrors
  | ok linked =>
      rw [hlink] at hmemory
      have hlinks : linked.links.size ≠ store.catalog.links.size →
          store.format.readLinks (store.format.writeLinks linked.links.elements) =
            .ok linked.links.elements := by
        rw [hmirrors.formats, hmirrors.catalogs]
        exact hreads linked (hmirrors.catalogs ▸ hlink)
      obtain ⟨after, hrun, hfaithful, hcatalog, hformat⟩ := hmirrors.faithful.link hlink hlinks
      exact of_writes hmirrors (MemoryStore.link id categories) hrun hfaithful hmemory hcatalog
        hformat rfl rfl

/-- Every operation answers alike in both stores, and leaves them alike. -/
theorem step (hmirrors : store.Mirrors memory format defaults) {operation : StoreOperation}
    (hreads : operation.ReadsBack format memory.catalog) :
    answer defaults store operation = answer defaults memory operation ∧
      (next defaults store operation).Mirrors (next defaults memory operation) format defaults := by
  cases operation with
  | load id => exact hmirrors.of_consult (·.load id) rfl rfl
  | list => exact hmirrors.of_consult (fun catalog => .ok catalog.types.elements) rfl rfl
  | loadCategory id => exact hmirrors.of_consult (·.loadCategory id) rfl rfl
  | listCategories =>
      exact hmirrors.of_consult (fun catalog => .ok catalog.categories.elements) rfl rfl
  | categoriesOf id => exact hmirrors.of_consult (·.categoriesOf id) rfl rfl
  | typesIn category => exact hmirrors.of_consult (·.typesIn category) rfl rfl
  | save type =>
      have htype : store.format.readType (store.format.writeType type) = .ok type := by
        rw [hmirrors.formats]
        exact hreads
      obtain ⟨after, hrun, hfaithful, hcatalog, hformat⟩ := hmirrors.faithful.save htype
      rw [hmirrors.catalogs] at hcatalog
      exact of_writes hmirrors (MemoryStore.save type) hrun hfaithful rfl hcatalog hformat rfl rfl
  | saveCategory category =>
      have hcategory : store.format.readCategory (store.format.writeCategory category) =
          .ok category := by
        rw [hmirrors.formats]
        exact hreads
      obtain ⟨after, hrun, hfaithful, hcatalog, hformat⟩ :=
        hmirrors.faithful.saveCategory hcategory
      rw [hmirrors.catalogs] at hcatalog
      exact of_writes hmirrors (MemoryStore.saveCategory category) hrun hfaithful rfl hcatalog
        hformat rfl rfl
  | linkCategories id categories => exact hmirrors.step_link id categories hreads
  | reopen withDefaults =>
      obtain ⟨after, hrun, hfaithful, hcatalog, hformat⟩ := hmirrors.faithful.reopen withDefaults
      rw [hmirrors.catalogs] at hcatalog
      exact of_writes hmirrors (pure ()) hrun hfaithful rfl hcatalog hformat rfl rfl

/-- So do runs of any length. -/
theorem run (hmirrors : store.Mirrors memory format defaults) {operations : List StoreOperation}
    (hreads : AllReadBack format defaults memory operations) :
    answers defaults store operations = answers defaults memory operations ∧
      (after defaults store operations).Mirrors (after defaults memory operations) format
        defaults := by
  induction operations generalizing store memory with
  | nil => exact ⟨rfl, hmirrors⟩
  | cons operation rest ih =>
      obtain ⟨hfirst, hrest⟩ := hreads
      obtain ⟨hanswer, hnext⟩ := hmirrors.step hfirst
      obtain ⟨hanswers, hafter⟩ := ih hnext hrest
      rw [answers, answers, hanswer, hanswers]
      exact ⟨rfl, hafter⟩

end Mirrors

/-- A store that is opened in an empty folder with default categories is the memory store
that begins with them. -/
theorem mirrors_of_vacant {disk : Disk} {root : Path} (hvacant : disk.Vacant root.names)
    (hfaults : disk.faults = []) (hdistinct : (defaults.map (·.id)).Nodup)
    (hreads : ∀ category ∈ defaults,
      format.readCategory (format.writeCategory category) = .ok category) :
    ∃ store, (openAt format root defaults).run disk = .ok store store.disk ∧
      store.Mirrors (MemoryStore.withCategories defaults) format defaults := by
  have hseed : Catalog.seed {} defaults = (MemoryStore.withCategories defaults).catalog :=
    Catalog.seed_eq_foldl (fun _ _ => rfl) hdistinct
  obtain ⟨hreadsBack, hknown, after, hopen, hrecords, hready⟩ :=
    openAt_of_vacant hvacant hfaults hreads
  refine ⟨_, hopen, ⟨rfl, hrecords, hready, hreadsBack, hknown, ?_⟩, hseed, rfl⟩
  intro category hmem
  exact Catalog.contains_seed.mpr (Or.inr (List.mem_map_of_mem hmem))

/-- A directory store refines a memory store. Beginning with the same categories, the one
in an empty folder, both answer alike for good, errors and orders included, wherever the
directory store is closed and opened again in between, with its defaults or without, and
it never skips a file. This holds as long as files can be replaced and what was written
reads back. -/
theorem refines_memory (format : DefinitionFormat) (root : Path) (defaults : List Category)
    (disk : Disk) (operations : List StoreOperation) (hvacant : disk.Vacant root.names)
    (hfaults : disk.faults = []) (hdistinct : (defaults.map (·.id)).Nodup)
    (hdefaults : ∀ category ∈ defaults,
      format.readCategory (format.writeCategory category) = .ok category)
    (hreads : StoreOperation.AllReadBack format defaults (MemoryStore.withCategories defaults)
      operations) :
    ∃ store, (openAt format root defaults).run disk = .ok store store.disk ∧
      StoreOperation.answers defaults store operations =
        StoreOperation.answers defaults (MemoryStore.withCategories defaults) operations ∧
      (StoreOperation.after defaults store operations).skipped = [] := by
  obtain ⟨store, hopen, hmirrors⟩ := mirrors_of_vacant hvacant hfaults hdistinct hdefaults
  obtain ⟨hanswers, hafter⟩ := hmirrors.run hreads
  exact ⟨store, hopen, hanswers, hafter.faithful.skipped⟩

section Planned

open StoreOperation

def issues : Category := {id := .ofNat 1, name := "planner.issues"}

def bug : WorkItemType := {id := .ofNat 2, name := "Bug"}

/-- A type and its link survive two closings, and the default category is not added
a second time. -/
def reopeningRun : List StoreOperation :=
  [.save bug, .linkCategories bug.id [issues.id], .reopen false, .categoriesOf bug.id, .reopen true,
    .load bug.id, .listCategories]

/-- Whether a type is the one above, as a test that evaluates. -/
private def isBug : WorkItemType → Bool
  | ⟨id, name, none, none, none, ⟨[], _⟩⟩ => id == bug.id && name == bug.name
  | _ => false

private theorem eq_of_isBug {type : WorkItemType} (hbug : isBug type = true) : type = bug := by
  unfold isBug at hbug
  split at hbug
  · simp only [Bool.and_eq_true, beq_iff_eq] at hbug
    obtain ⟨rfl, rfl⟩ := hbug
    rfl
  · cases hbug

private theorem bug_readsBack :
    DefinitionFormat.yaml.readType (DefinitionFormat.yaml.writeType bug) = .ok bug :=
  Outcome.eq_ok_of_any isBug (fun _ => eq_of_isBug) (by decide +kernel)

private theorem issues_readsBack :
    DefinitionFormat.yaml.readCategory (DefinitionFormat.yaml.writeCategory issues) = .ok issues :=
  Outcome.eq_ok_of_any (fun category => decide (category = issues)) (fun _ => of_decide_eq_true)
    (by decide +kernel)

private theorem link_readsBack :
    DefinitionFormat.yaml.readLinks (DefinitionFormat.yaml.writeLinks [⟨bug.id, issues.id⟩]) =
      .ok [⟨bug.id, issues.id⟩] :=
  Outcome.eq_ok_of_any (fun links => decide (links = [⟨bug.id, issues.id⟩]))
    (fun _ => of_decide_eq_true) (by decide +kernel)

theorem refines_memory_reopening :
    let root : Path := ⟨"schema"⟩
    let memory := MemoryStore.withCategories [issues]
    Disk.Vacant {} root.names ∧
      AllReadBack .yaml [issues] memory reopeningRun ∧
      ∃ store, (openAt .yaml root [issues]).run {} = .ok store store.disk ∧
        answers [issues] store reopeningRun = answers [issues] memory reopeningRun ∧
        (after [issues] store reopeningRun).skipped = [] := by
  intro root memory
  have hvacant : Disk.Vacant {} root.names := by
    refine ⟨?_, rfl⟩
    intro way content _
    cases way <;> nofun
  have hdefaults : ∀ category ∈ [issues],
      DefinitionFormat.yaml.readCategory (DefinitionFormat.yaml.writeCategory category) =
        .ok category := by
    simpa using issues_readsBack
  have hreads : AllReadBack .yaml [issues] memory reopeningRun := by
    refine ⟨bug_readsBack, ?_, trivial, trivial, trivial, trivial, trivial, trivial⟩
    intro linked hlink _
    cases hlink
    exact link_readsBack
  exact ⟨hvacant, hreads, refines_memory .yaml root [issues] {} reopeningRun hvacant rfl
    (by decide) hdefaults hreads⟩

end Planned

end DirectoryStore

end WorkSchema
