import WorkSchema.Proofs.Store.Laws
import WorkSchema.Proofs.Store.Leftovers

/-!
Writes that fail. Whatever stops a write to a store, neither what the store holds nor what
it holds when it was closed and opened again is any different from before.
-/

namespace WorkSchema

namespace DirectoryStore

variable {store after : DirectoryStore} {error : SchemaError}

/-- Whether a store is what another one was, but for what failed writes left behind on
the disk. -/
structure Intact (before after : DirectoryStore) : Prop where
  format : after.format = before.format
  root : after.root = before.root
  catalog : after.catalog = before.catalog
  disk : before.disk.Alike before.root after.disk

theorem Intact.refl (store : DirectoryStore) : store.Intact store := ⟨rfl, rfl, rfl, .refl _ _⟩

theorem Intact.symm (hintact : store.Intact after) : after.Intact store where
  format := hintact.format.symm
  root := hintact.root.symm
  catalog := hintact.catalog.symm
  disk := by
    rw [hintact.root]
    exact hintact.disk.symm

theorem intact_of_replace {names : List String} {text : String} {change : Catalog → Catalog}
    (hfolder : names.dropLast ∈ folders store.root)
    (hrun : (do write names text; setCatalog change : StoreM DirectoryStore Unit).run store =
      .error error after) : store.Intact after := by
  obtain ⟨disk, hdisk, rfl⟩ := replace_run_eq_error.mp hrun
  exact ⟨rfl, rfl, rfl, alike_of_replaceText_error hfolder hdisk⟩

theorem intact_of_save {type : WorkItemType} (hrun : (save type).run store = .error error after) :
    store.Intact after := by
  rw [save_run] at hrun
  exact intact_of_replace (dropLast_typeFile_mem _ _) hrun

theorem intact_of_saveCategory {category : Category}
    (hrun : (saveCategory category).run store = .error error after) : store.Intact after := by
  rw [saveCategory_run] at hrun
  exact intact_of_replace (dropLast_categoryFile_mem _ _) hrun

theorem intact_of_link {id : TypeId} {categories : List CategoryId}
    (hrun : (link id categories).run store = .error error after) : store.Intact after := by
  rw [link_run] at hrun
  cases hlink : store.catalog.link id categories with
  | error reason =>
      rw [hlink] at hrun
      cases hrun
      exact .refl store
  | ok linked =>
      rw [hlink] at hrun
      simp only at hrun
      split at hrun
      · cases hrun
      · exact intact_of_replace (dropLast_linksFile_mem _) hrun

/-- Whether a store can be closed and opened again with default categories so that it
then holds a catalog and has passed over some files, whatever becomes of the writes until
then. -/
def Reopens (store : DirectoryStore) (defaults : List Category) (catalog : Catalog)
    (skipped : List SkippedFile) : Prop :=
  ∃ faults opened disk,
    (openAt store.format store.root defaults).run {store.disk with faults} = .ok opened disk ∧
      opened.catalog = catalog ∧ opened.skipped = skipped

theorem Intact.reopens (hintact : store.Intact after) {defaults : List Category}
    {catalog : Catalog} {skipped : List SkippedFile}
    (hreopens : store.Reopens defaults catalog skipped) :
    after.Reopens defaults catalog skipped := by
  obtain ⟨faults, opened, disk, hopen, rfl, rfl⟩ := hreopens
  have halike : Disk.Alike store.root {store.disk with faults} {after.disk with faults := []} :=
    hintact.disk
  obtain ⟨opened', disk', hopen', hcatalog, hskipped, _⟩ := halike.openAt_eq_ok rfl hopen
  rw [Reopens, hintact.format, hintact.root]
  exact ⟨[], opened', disk', hopen', hcatalog, hskipped⟩

end DirectoryStore

namespace AnyStore

variable {store after : AnyStore} {error : SchemaError} {rules : Rules}

/-- What a store can be opened as after it was closed. A memory store is never closed. -/
def Reopens : AnyStore → List Category → Catalog → List SkippedFile → Prop
  | .memory _, _, _, _ => False
  | .directory store, defaults, catalog, skipped => store.Reopens defaults catalog skipped

/-- Whether two stores cannot be told apart, neither now nor after they were closed and
opened again. -/
structure SameView (before after : AnyStore) : Prop where
  catalog : TypeStore.catalog after = TypeStore.catalog before
  reopened (defaults : List Category) (catalog : Catalog) (skipped : List SkippedFile) :
    after.Reopens defaults catalog skipped ↔ before.Reopens defaults catalog skipped

theorem SameView.refl (store : AnyStore) : store.SameView store := ⟨rfl, fun _ _ _ => .rfl⟩

theorem SameView.symm (hview : store.SameView after) : after.SameView store :=
  ⟨hview.catalog.symm, fun defaults catalog skipped =>
    (hview.reopened defaults catalog skipped).symm⟩

theorem sameView_of_intact {a b : DirectoryStore} (hintact : a.Intact b) :
    SameView (.directory a) (.directory b) :=
  ⟨hintact.catalog, fun _ _ _ => ⟨hintact.symm.reopens, hintact.reopens⟩⟩

/-- A write to whichever store there is, which fails without a trace in either. -/
private theorem sameView_of_act {memory : StoreM MemoryStore Unit}
    {directory : StoreM DirectoryStore Unit} {effect : Catalog → Catalog → Prop}
    (hmemory : Writes memory effect)
    (hintact : ∀ {inner after}, directory.run inner = .error error after → inner.Intact after)
    (hrun : (act memory directory).run store = .error error after) : store.SameView after := by
  rcases act_run_eq_error hrun with
    ⟨inner, later, rfl, rfl, hinner⟩ | ⟨inner, later, rfl, rfl, hinner⟩
  · exact ⟨hmemory.error hinner, fun _ _ _ => .rfl⟩
  · exact sameView_of_intact (hintact hinner)

theorem sameView_of_save {type : WorkItemType}
    (hrun : (TypeStore.save type).run store = .error error after) : store.SameView after :=
  sameView_of_act (LawfulStore.save type) DirectoryStore.intact_of_save hrun

theorem sameView_of_saveCategory {category : Category}
    (hrun : (TypeStore.saveCategory category).run store = .error error after) :
    store.SameView after :=
  sameView_of_act (LawfulStore.saveCategory category) DirectoryStore.intact_of_saveCategory hrun

theorem sameView_of_link {id : TypeId} {categories : List CategoryId}
    (hrun : (TypeStore.link id categories).run store = .error error after) :
    store.SameView after :=
  sameView_of_act (LawfulStore.link id categories) DirectoryStore.intact_of_link hrun

end AnyStore

end WorkSchema
