import WorkSchema.Proofs.Outcome
import WorkSchema.Proofs.Store.Chain
import WorkSchema.Store.Any

/-!
What the engine may rely on in a store: a write that succeeds changes the
catalog as it says, and one that fails leaves it as it was. Both kinds of store
obey this, also when a write to the disk fails at any point.
-/

namespace WorkSchema

variable {σ : Type}

/-- A write with the given effect on the catalog, which is all or nothing. -/
structure Writes [TypeStore σ] (action : StoreM σ Unit) (effect : Catalog → Catalog → Prop) :
    Prop where
  ok {store after : σ} : action.run store = .ok () after →
    effect (TypeStore.catalog store) (TypeStore.catalog after)
  error {store after : σ} {error : SchemaError} : action.run store = .error error after →
    TypeStore.catalog after = TypeStore.catalog store

theorem CategoryLink.rank_injective {a b : CategoryLink} (hrank : rank a = rank b) : a = b := by
  have hparts : (rank a.type <<< 128) + rank a.category =
      (rank b.type <<< 128) + rank b.category := hrank
  have ha : rank a.category < 2 ^ 128 := a.category.value.isLt
  have hb : rank b.category < 2 ^ 128 := b.category.value.isLt
  rw [Nat.shiftLeft_eq, Nat.shiftLeft_eq] at hparts
  have htype : a.type = b.type := Identifier.rank_injective (by omega)
  have hcategory : a.category = b.category := Identifier.rank_injective (by omega)
  cases a
  cases b
  cases htype
  cases hcategory
  rfl

/-- Whether two catalogs hold the same types and categories. -/
def Catalog.SameDefinitions (before after : Catalog) : Prop :=
  after.types = before.types ∧ after.categories = before.categories

class LawfulStore (σ : Type) [TypeStore σ] : Prop where
  save (type : WorkItemType) :
    Writes (σ := σ) (TypeStore.save type) fun before after => after = before.save type
  saveCategory (category : Category) :
    Writes (σ := σ) (TypeStore.saveCategory category) fun before after =>
      after = before.saveCategory category
  link (id : TypeId) (categories : List CategoryId) :
    Writes (σ := σ) (TypeStore.link id categories) Catalog.SameDefinitions

theorem Catalog.link_eq_ok {catalog linked : Catalog} {id : TypeId}
    {categories : List CategoryId} :
    catalog.link id categories = .ok linked ↔
      (catalog.type? id).isSome ∧ (∀ category ∈ categories, (catalog.category? category).isSome) ∧
        linked = {catalog with links := catalog.links.insertAll (categories.map (⟨id, ·⟩))} := by
  have hknown : (categories.find? fun category => (catalog.category? category).isNone) = none ↔
      ∀ category ∈ categories, (catalog.category? category).isSome := by
    simp [List.find?_eq_none, Option.isSome_iff_ne_none]
  rw [Option.isSome_iff_exists, ← hknown]
  simp only [link, Outcome.bind_eq_ok, load_eq_ok]
  cases categories.find? fun category => (catalog.category? category).isNone with
  | none =>
      constructor
      · rintro ⟨type, htype, hlinked⟩
        cases hlinked
        exact ⟨⟨type, htype⟩, rfl, rfl⟩
      · rintro ⟨⟨type, htype⟩, _, rfl⟩
        exact ⟨type, htype, rfl⟩
  | some missing =>
      constructor
      · rintro ⟨_, _, hlinked⟩
        cases hlinked
      · rintro ⟨_, hnone, _⟩
        cases hnone

/-- Links that are all there already change nothing. -/
theorem Catalog.link_eq_self {catalog linked : Catalog} {id : TypeId}
    {categories : List CategoryId} (hlink : catalog.link id categories = .ok linked)
    (hsize : linked.links.size = catalog.links.size) : linked = catalog := by
  obtain ⟨_, _, rfl⟩ := link_eq_ok.mp hlink
  have hsame := RankedList.insertAll_eq_self (fun _ _ => CategoryLink.rank_injective) hsize
  rw [hsame]

theorem Catalog.sameDefinitions_of_link {catalog linked : Catalog} {id : TypeId}
    {categories : List CategoryId} (hlink : catalog.link id categories = .ok linked) :
    catalog.SameDefinitions linked := by
  obtain ⟨_, _, rfl⟩ := link_eq_ok.mp hlink
  exact ⟨rfl, rfl⟩

theorem Catalog.with_links_of_link {catalog linked : Catalog} {id : TypeId}
    {categories : List CategoryId} (hlink : catalog.link id categories = .ok linked) :
    {catalog with links := linked.links} = linked := by
  obtain ⟨_, _, rfl⟩ := link_eq_ok.mp hlink
  rfl

namespace MemoryStore

theorem link_run (id : TypeId) (categories : List CategoryId) (store : MemoryStore) :
    (link id categories).run store =
      match store.catalog.link id categories with
      | .ok linked => .ok () ⟨linked⟩
      | .error error => .error error store := by
  simp only [link, EStateM.run_bind, EStateM.run_get]
  cases store.catalog.link id categories <;> rfl

instance : LawfulStore MemoryStore where
  save type := ⟨fun hsave => by cases hsave; rfl, fun hsave => by cases hsave⟩
  saveCategory category := ⟨fun hsave => by cases hsave; rfl, fun hsave => by cases hsave⟩
  link id categories := by
    constructor
    · intro store after hlink
      have hrun := (link_run id categories store).symm.trans hlink
      split at hrun
      · rename_i linked hcatalog
        cases hrun
        exact Catalog.sameDefinitions_of_link hcatalog
      · cases hrun
    · intro store after error hlink
      have hrun := (link_run id categories store).symm.trans hlink
      split at hrun
      · cases hrun
      · cases hrun
        rfl

end MemoryStore

namespace DirectoryStore

variable {names : List String} {text : String} {change : Catalog → Catalog}
  {store after : DirectoryStore} {error : SchemaError}

theorem write_run (names : List String) (text : String) (store : DirectoryStore) :
    (write names text).run store =
      match (replaceText names text).run store.disk with
      | .ok () disk => .ok () {store with disk}
      | .error error disk => .error error {store with disk} := rfl

/-- The catalog changes if the file was replaced. -/
theorem replace_run_eq_ok :
    (do write names text; setCatalog change : StoreM DirectoryStore Unit).run store =
        .ok () after ↔
      ∃ disk, (replaceText names text).run store.disk = .ok () disk ∧
        after = {store with disk, catalog := change store.catalog} := by
  rw [EStateM.run_bind, write_run]
  cases (replaceText names text).run store.disk with
  | ok _ disk =>
      constructor
      · intro hrun
        cases hrun
        exact ⟨disk, rfl, rfl⟩
      · rintro ⟨_, hdisk, rfl⟩
        cases hdisk
        rfl
  | error reason disk => simp

/-- It does not if that failed, which may change the disk nevertheless. -/
theorem replace_run_eq_error :
    (do write names text; setCatalog change : StoreM DirectoryStore Unit).run store =
        .error error after ↔
      ∃ disk, (replaceText names text).run store.disk = .error error disk ∧
        after = {store with disk} := by
  rw [EStateM.run_bind, write_run]
  cases (replaceText names text).run store.disk with
  | ok _ disk =>
      constructor
      · intro hrun
        cases hrun
      · rintro ⟨_, hdisk, _⟩
        cases hdisk
  | error reason disk => simp [and_comm, eq_comm]

private theorem run_tryCatch (action : StoreM DirectoryStore Unit)
    (handle : SchemaError → StoreM DirectoryStore Unit) (store : DirectoryStore) :
    (tryCatch action handle).run store =
      match action.run store with
      | .ok value after => .ok value after
      | .error error after => (handle error).run after := by
  change EStateM.tryCatch action handle store = _
  rw [EStateM.tryCatch, EStateM.run]
  cases action store <;> rfl

/-- Links that were taken back were never there. Only if there is no text to write do they
stay. -/
theorem linkBy_run (writers : Writers) (id : TypeId) (categories : List CategoryId)
    (store : DirectoryStore) :
    (linkBy writers id categories).run store =
      match store.catalog.link id categories with
      | .error error => .error error store
      | .ok linked =>
          if linked.links.size = store.catalog.links.size then .ok () store
          else
            match writers.links linked.links.elements with
            | .error error => .error error {store with catalog := linked}
            | .ok text =>
                (do
                  write (store.root.names ++ [linksFile]) text
                  setCatalog fun _ => linked : StoreM DirectoryStore Unit).run store := by
  simp only [linkBy, EStateM.run_bind, EStateM.run_get]
  cases hlink : store.catalog.link id categories with
  | error refusal => rfl
  | ok linked =>
      simp only [liftResult, EStateM.run_pure, EStateM.run_set]
      by_cases hsize : linked.links.size = store.catalog.links.size
      · rw [if_pos hsize, if_pos hsize, Catalog.link_eq_self hlink hsize]
        rfl
      · rw [if_neg hsize, if_neg hsize, EStateM.run_bind]
        cases writers.links linked.links.elements with
        | error reason => rfl
        | ok text =>
            -- The definitions were not changed, and the links are put back.
            obtain ⟨htypes, hcategories⟩ := Catalog.sameDefinitions_of_link hlink
            have hback :
                {linked with links := .ofList store.catalog.links.elements} = store.catalog := by
              rw [RankedList.ofList_elements, htypes, hcategories]
            simp only [EStateM.run_pure]
            rw [run_tryCatch, write_run, write_run]
            cases (replaceText (store.root.names ++ [linksFile]) text).run store.disk with
            | ok _ disk => rfl
            | error reason disk =>
                exact congrArg
                  (fun catalog => EStateM.Result.error reason {store with disk, catalog}) hback

theorem link_run (id : TypeId) (categories : List CategoryId) (store : DirectoryStore) :
    (link id categories).run store =
      match store.catalog.link id categories with
      | .error error => .error error store
      | .ok linked =>
          if linked.links.size = store.catalog.links.size then .ok () store
          else
            (do
              write (store.root.names ++ [linksFile])
                (store.format.writeLinks linked.links.elements)
              setCatalog fun _ => linked : StoreM DirectoryStore Unit).run store :=
  linkBy_run (writersOf store.format) id categories store

theorem save_run (type : WorkItemType) (store : DirectoryStore) :
    (save type).run store =
      (do
        write (typeFile store.root type.id) (store.format.writeType type)
        setCatalog (·.save type) : StoreM DirectoryStore Unit).run store := rfl

theorem saveCategory_run (category : Category) (store : DirectoryStore) :
    (saveCategory category).run store =
      (do
        write (categoryFile store.root category.id) (store.format.writeCategory category)
        setCatalog (·.saveCategory category) : StoreM DirectoryStore Unit).run store := rfl

instance : LawfulStore DirectoryStore where
  save type := by
    constructor
    · intro store after hrun
      obtain ⟨disk, _, rfl⟩ := replace_run_eq_ok.mp ((save_run type store).symm.trans hrun)
      rfl
    · intro store after error hrun
      obtain ⟨disk, _, rfl⟩ := replace_run_eq_error.mp ((save_run type store).symm.trans hrun)
      rfl
  saveCategory category := by
    constructor
    · intro store after hrun
      obtain ⟨disk, _, rfl⟩ :=
        replace_run_eq_ok.mp ((saveCategory_run category store).symm.trans hrun)
      rfl
    · intro store after error hrun
      obtain ⟨disk, _, rfl⟩ :=
        replace_run_eq_error.mp ((saveCategory_run category store).symm.trans hrun)
      rfl
  link id categories := by
    constructor
    · intro store after hlink
      have hrun := (link_run id categories store).symm.trans hlink
      split at hrun
      · cases hrun
      · rename_i linked hcatalog
        split at hrun
        · cases hrun
          exact ⟨rfl, rfl⟩
        · obtain ⟨disk, _, rfl⟩ := replace_run_eq_ok.mp hrun
          exact Catalog.sameDefinitions_of_link hcatalog
    · intro store after error hlink
      have hrun := (link_run id categories store).symm.trans hlink
      split at hrun
      · cases hrun
        rfl
      · split at hrun
        · cases hrun
        · obtain ⟨disk, _, rfl⟩ := replace_run_eq_error.mp hrun
          rfl

end DirectoryStore

namespace AnyStore

section Act

variable {α : Type} (memory : StoreM MemoryStore α) (directory : StoreM DirectoryStore α)

theorem act_run_memory (inner : MemoryStore) :
    (act memory directory).run (.memory inner) =
      match memory.run inner with
      | .ok value inner => .ok value (.memory inner)
      | .error error inner => .error error (.memory inner) := rfl

theorem act_run_directory (inner : DirectoryStore) :
    (act memory directory).run (.directory inner) =
      match directory.run inner with
      | .ok value inner => .ok value (.directory inner)
      | .error error inner => .error error (.directory inner) := rfl

variable {memory directory} {store after : AnyStore}

/-- A run of a chosen action is one of the action that was chosen. -/
theorem act_run_eq_ok {value : α} (hrun : (act memory directory).run store = .ok value after) :
    (∃ inner later, store = .memory inner ∧ after = .memory later ∧
        memory.run inner = .ok value later) ∨
      ∃ inner later, store = .directory inner ∧ after = .directory later ∧
        directory.run inner = .ok value later := by
  cases store with
  | memory inner =>
      rw [act_run_memory] at hrun
      split at hrun
      · rename_i hinner
        cases hrun
        exact Or.inl ⟨inner, _, rfl, rfl, hinner⟩
      · cases hrun
  | directory inner =>
      rw [act_run_directory] at hrun
      split at hrun
      · rename_i hinner
        cases hrun
        exact Or.inr ⟨inner, _, rfl, rfl, hinner⟩
      · cases hrun

theorem act_run_eq_error {error : SchemaError}
    (hrun : (act memory directory).run store = .error error after) :
    (∃ inner later, store = .memory inner ∧ after = .memory later ∧
        memory.run inner = .error error later) ∨
      ∃ inner later, store = .directory inner ∧ after = .directory later ∧
        directory.run inner = .error error later := by
  cases store with
  | memory inner =>
      rw [act_run_memory] at hrun
      split at hrun
      · cases hrun
      · rename_i hinner
        cases hrun
        exact Or.inl ⟨inner, _, rfl, rfl, hinner⟩
  | directory inner =>
      rw [act_run_directory] at hrun
      split at hrun
      · cases hrun
      · rename_i hinner
        cases hrun
        exact Or.inr ⟨inner, _, rfl, rfl, hinner⟩

end Act

theorem save_run (type : WorkItemType) (store : AnyStore) :
    (TypeStore.save type).run store =
      (act (MemoryStore.save type) (DirectoryStore.save type)).run store := rfl

theorem saveCategory_run (category : Category) (store : AnyStore) :
    (TypeStore.saveCategory category).run store =
      (act (MemoryStore.saveCategory category) (DirectoryStore.saveCategory category)).run store :=
  rfl

theorem link_run (id : TypeId) (categories : List CategoryId) (store : AnyStore) :
    (TypeStore.link id categories).run store =
      (act (MemoryStore.link id categories) (DirectoryStore.link id categories)).run store := rfl

/-- What holds of the writes of either kind of store holds of a store whose
kind was chosen when it was opened. -/
theorem writes_act {memory : StoreM MemoryStore Unit}
    {directory : StoreM DirectoryStore Unit} {effect : Catalog → Catalog → Prop}
    (hmemory : Writes memory effect) (hdirectory : Writes directory effect) :
    Writes (act memory directory) effect := by
  constructor
  · intro store after hrun
    rcases act_run_eq_ok hrun with
      ⟨inner, later, rfl, rfl, hinner⟩ | ⟨inner, later, rfl, rfl, hinner⟩
    · exact hmemory.ok hinner
    · exact hdirectory.ok hinner
  · intro store after error hrun
    rcases act_run_eq_error hrun with
      ⟨inner, later, rfl, rfl, hinner⟩ | ⟨inner, later, rfl, rfl, hinner⟩
    · exact hmemory.error hinner
    · exact hdirectory.error hinner

instance : LawfulStore AnyStore where
  save type := writes_act (LawfulStore.save type) (LawfulStore.save type)
  saveCategory category :=
    writes_act (LawfulStore.saveCategory category) (LawfulStore.saveCategory category)
  link id categories :=
    writes_act (LawfulStore.link id categories) (LawfulStore.link id categories)

end AnyStore

end WorkSchema
