import WorkSchema.Proofs.Engine.Lasting

/-!
What an operation that fails leaves behind. All checks come before the first write and a
write that fails changes nothing that can be seen, so an operation that writes once leaves
no trace of its own. A creation writes twice: if the links of a new type cannot be written,
the type stays. What an engine shows after it was reopened is what it showed before only
where its store lasts, whether an operation failed or not.
-/

namespace WorkSchema

namespace Catalog

variable {catalog : Catalog} {rules : Rules}

theorem load_save (catalog : Catalog) (type : WorkItemType) :
    (catalog.save type).load type.id = .ok type := by
  rw [load_eq_ok, type?_save, if_pos rfl]

/-- Once a request is accepted and its type saved, the links of the type are those of a
known type to known categories. -/
theorem link_of_accept {request : NewType} {inherited : Schema}
    (haccept : catalog.accept rules request = .ok inherited) (id : TypeId) :
    ∃ linked, (catalog.save (request.toType id)).link id request.categories = .ok linked := by
  obtain ⟨_, _, _, hcategories⟩ := accept_eq_ok.mp haccept
  have hload := load_eq_ok.mp (catalog.load_save (request.toType id))
  exact ⟨_, link_eq_ok.mpr ⟨Option.isSome_of_eq_some hload, hcategories, rfl⟩⟩

/-- A type that was revised and saved can be resolved. -/
theorem resolve_of_revise {id : TypeId} {fields : Schema} {revised : WorkItemType}
    (hrevise : catalog.revise rules id fields = .ok revised) :
    ∃ resolved, (catalog.save revised).resolve rules id = .ok resolved := by
  obtain ⟨_, current, hcurrent, _, type, htype, _⟩ := revise_eq_ok.mp hrevise
  have hevolves : catalog.Evolves rules (catalog.save revised) :=
    evolves_of_change (.revised id fields revised hrevise rfl)
  obtain ⟨schema, hschema, _⟩ := hevolves id current hcurrent
  have hload := catalog.load_save revised
  rw [id_of_revise hrevise] at hload
  refine ⟨{type := revised, schema}, ?_⟩
  rw [resolve, hschema, hload]
  rfl

end Catalog

namespace AnyStore

variable {store after : AnyStore} {error : SchemaError} {rules : Rules}

/-- Whether an operation creates a type in a folder, passes all checks, and saves the
type. -/
def SavesType (store : AnyStore) (rules : Rules) : Operation → Prop
  | .create request id => ∃ folder saved inherited, store = .directory folder ∧
      folder.catalog.accept rules request = .ok inherited ∧
      (DirectoryStore.save (request.toType id)).run folder = .ok () saved
  | _ => False

/-- In memory the links of a type that passed the checks can be made. -/
private theorem linkNew_memory {request : NewType} {inherited : Schema} {inner : MemoryStore}
    (haccept : inner.catalog.accept rules request = .ok inherited) (id : TypeId) :
    (TypeStore.linkNew request id).run (.memory ⟨inner.catalog.save (request.toType id)⟩) ≠
      .error error after := by
  obtain ⟨linked, hlinked⟩ := Catalog.link_of_accept haccept id
  intro hrun
  unfold TypeStore.linkNew at hrun
  split at hrun
  · cases hrun
  · rw [link_run, act_run_memory, MemoryStore.link_run, hlinked] at hrun
    cases hrun

/-- A creation that fails leaves no trace, unless it has saved the type. -/
theorem sameView_of_create {request : NewType} {id : TypeId}
    (hrun : (TypeStore.create rules request id).run store = .error error after) :
    store.SameView after ∨ store.SavesType rules (.create request id) := by
  rcases TypeStore.create_eq_error.mp hrun with ⟨_, rfl⟩ | ⟨inherited, haccept, hwrite⟩
  · exact Or.inl (.refl _)
  · rcases hwrite with hsave | ⟨saved, hsave, hlink⟩
    · exact Or.inl (sameView_of_save hsave)
    · right
      cases store with
      | memory inner =>
          cases hsave
          exact absurd hlink (linkNew_memory haccept id)
      | directory folder =>
          rw [save_run, act_run_directory] at hsave
          split at hsave
          · rename_i hfolder
            exact ⟨folder, _, inherited, rfl, haccept, hfolder⟩
          · cases hsave

theorem sameView_of_addFields {id : TypeId} {fields : Schema}
    (hrun : (TypeStore.addFields rules id fields).run store = .error error after) :
    store.SameView after := by
  rcases TypeStore.addFields_eq_error.mp hrun with ⟨_, rfl⟩ | ⟨revised, hrevise, hwrite⟩
  · exact .refl _
  · rcases hwrite with hsave | ⟨hsave, hresolve⟩
    · exact sameView_of_save hsave
    · obtain ⟨resolved, hresolved⟩ := Catalog.resolve_of_revise hrevise
      rw [(LawfulStore.save revised).ok hsave, hresolved] at hresolve
      cases hresolve

theorem sameView_of_createCategory {category : Category}
    (hrun : (TypeStore.createCategory category).run store = .error error after) :
    store.SameView after := by
  rcases TypeStore.createCategory_eq_error.mp hrun with ⟨_, rfl⟩ | ⟨_, hsave⟩
  · exact .refl _
  · exact sameView_of_saveCategory hsave

/-- An operation that fails leaves no trace, unless it has saved a new type. -/
theorem sameView_of_plain {operation : Operation}
    (hrun : (operation.plain rules).run store = .error error after) :
    store.SameView after ∨ store.SavesType rules operation := by
  cases hreply : operation.reply? (TypeStore.catalog store) rules with
  | some reply =>
      rw [Operation.plain_of_reply hreply] at hrun
      obtain ⟨_, rfl⟩ := TypeStore.consult_eq_error.mp hrun
      exact Or.inl (.refl _)
  | none =>
      cases operation with
      | create request id => exact sameView_of_create (Outcome.run_map_eq_error.mp hrun)
      | addFields id fields =>
          exact Or.inl (sameView_of_addFields (Outcome.run_map_eq_error.mp hrun))
      | createCategory category =>
          exact Or.inl (sameView_of_createCategory (Outcome.run_map_eq_error.mp hrun))
      | linkCategories id categories =>
          have hlink := (Outcome.run_map_eq_error (f := fun _ => Response.done)).mp hrun
          exact Or.inl (sameView_of_link hlink)
      | clearCache | invalidate => cases hrun
      | load | resolve | resolveSchema | validateFields | validateUpdate | list | listCategories
      | categoriesOf | typesIn | clone => cases hreply

/-- A creation that fails after it has saved the type leaves the type in the catalog. -/
theorem catalog_of_savesType {request : NewType} {id : TypeId}
    (hsaves : store.SavesType rules (.create request id))
    (hrun : (TypeStore.create rules request id).run store = .error error after) :
    TypeStore.catalog after = (TypeStore.catalog store).save (request.toType id) := by
  obtain ⟨folder, saved, inherited, rfl, haccept, hsave⟩ := hsaves
  rcases TypeStore.create_eq_error.mp hrun with ⟨hreject, _⟩ | ⟨_, _, hwrite⟩
  · cases haccept.symm.trans hreject
  · rcases hwrite with hfail | ⟨middle, hmiddle, hlink⟩
    · rw [save_run, act_run_directory, hsave] at hfail
      cases hfail
    · rw [(TypeStore.writes_linkNew request id).error hlink, (LawfulStore.save _).ok hmiddle]

end AnyStore

namespace Engine

section Plain

variable {σ : Type} [TypeStore σ] [LawfulStore σ] {engine : Engine σ} {operation : Operation}
  {error : SchemaError}

/-- An operation that fails fails without the cache too, and leaves the same store. -/
theorem plain_of_fails (hagrees : engine.CacheAgrees) (hfresh : operation.Fresh engine.catalog)
    (hfails : engine.answer operation = .error error) :
    (operation.plain engine.rules).run engine.store =
      .error error (engine.next operation).store := by
  have hanswer := answer_eq_plain hagrees hfresh
  obtain ⟨_, cache, hnext⟩ := next_eq_plain hagrees hfresh
  rw [hfails] at hanswer
  rw [hnext]
  cases hrun : (operation.plain engine.rules).run engine.store with
  | ok response store =>
      rw [hrun] at hanswer
      cases hanswer
  | error reason store =>
      rw [hrun] at hanswer
      cases hanswer
      rfl

theorem fails_of_plain {after : σ} (hagrees : engine.CacheAgrees)
    (hfresh : operation.Fresh engine.catalog)
    (hrun : (operation.plain engine.rules).run engine.store = .error error after) :
    engine.answer operation = .error error ∧ (engine.next operation).store = after := by
  have hanswer := answer_eq_plain hagrees hfresh
  obtain ⟨_, cache, hnext⟩ := next_eq_plain hagrees hfresh
  rw [hrun] at hanswer hnext
  refine ⟨?_, by rw [hnext]; rfl⟩
  cases hresult : engine.answer operation with
  | ok response =>
      rw [hresult] at hanswer
      cases hanswer
  | error reason =>
      rw [hresult] at hanswer
      cases hanswer
      rfl

end Plain

variable {engine : Engine AnyStore} {operation : Operation} {error : SchemaError}

/-- Whether what an engine shows is what another one shows, also after the store was
closed and opened again. -/
structure Untouched (before after : Engine AnyStore) : Prop where
  shown (operation : Operation) :
    operation.shows = true → after.answer operation = before.answer operation
  reopened (defaults : List Category) (catalog : Catalog) (skipped : List SkippedFile) :
    after.store.Reopens defaults catalog skipped ↔ before.store.Reopens defaults catalog skipped

/-- Whether an engine shows what another one showed, and so does every engine that it can
be reopened as. -/
structure LeavesNoTrace (before after : Engine AnyStore) : Prop where
  shown : before.ShowsLike after
  reopened (reopened : Engine AnyStore) : after.ReopensAs reopened → before.ShowsLike reopened

theorem untouched_of_sameView {after : Engine AnyStore} (hagrees : engine.CacheAgrees)
    (hagrees' : after.CacheAgrees) (hview : engine.store.SameView after.store) :
    engine.Untouched after where
  shown := showsLike_of_catalog hagrees hagrees' hview.catalog
  reopened := hview.reopened

/-- Where nothing else was changed, whether there is a trace depends on what was there
before. -/
theorem leavesNoTrace_iff_lasts {after : Engine AnyStore} (hagrees : engine.CacheAgrees)
    (hagrees' : after.CacheAgrees) (hview : engine.store.SameView after.store) :
    engine.LeavesNoTrace after ↔ engine.Lasts := by
  constructor
  · intro hnone reopened hreopens
    obtain ⟨other, hother, hlike⟩ := hreopens.exists_showsLike hview
    exact (hnone.reopened other hother).trans hlike.symm
  · intro hlasts
    refine ⟨showsLike_of_catalog hagrees hagrees' hview.catalog, fun reopened hreopens => ?_⟩
    obtain ⟨other, hother, hlike⟩ := hreopens.exists_showsLike hview.symm
    exact (hlasts other hother).trans hlike.symm

/-- Whether an operation creates a type in a folder, passes all checks, and saves the
type. -/
def SavesType (engine : Engine AnyStore) (operation : Operation) : Prop :=
  engine.store.SavesType engine.rules operation

/-- A new type can be loaded after its creation has failed, but not before. -/
theorem not_showsLike_of_savesType (hagrees : engine.CacheAgrees)
    (hfresh : operation.Fresh engine.catalog)
    (hfails : engine.answer operation = .error error) (hsaves : engine.SavesType operation) :
    ¬ engine.ShowsLike (engine.next operation) := by
  intro hlike
  have hrun := plain_of_fails hagrees hfresh hfails
  obtain ⟨hagrees', _⟩ := next_eq_plain hagrees hfresh
  cases operation with
  | create request id =>
      have hcatalog : (engine.next (.create request id)).catalog =
          engine.catalog.save (request.toType id) :=
        AnyStore.catalog_of_savesType hsaves (Outcome.run_map_eq_error.mp hrun)
      have hfound : (engine.catalog.save (request.toType id)).load id =
          .ok (request.toType id) := engine.catalog.load_save (request.toType id)
      have habsent : engine.catalog.type? id = none :=
        Catalog.type?_of_unused (hfresh id rfl)
      have hload := hlike (.load id) rfl
      rw [answer_of_reply hagrees' rfl, answer_of_reply hagrees rfl, hcatalog, hfound,
        Catalog.load, habsent] at hload
      cases hload
  | addFields | load | resolve | resolveSchema | validateFields | validateUpdate | list
  | createCategory | listCategories | linkCategories | categoriesOf | typesIn | clearCache
  | invalidate | clone => exact hsaves

/-- An operation that fails leaves no trace, unless it is a creation in a folder that has
saved its type and could not write the links of the type. Then the type stays: it can be
loaded, which it could not before. Otherwise the engine shows what it showed, and can be
reopened as what it could be reopened as. That this is what it showed depends on what there
was before the operation, and is so where the store began with nothing and holds what reads
back. -/
theorem failure_untouched_iff (start : Engine AnyStore) (before : List Operation)
    (operation : Operation) (error : SchemaError) (hempty : start.cache.entries = [])
    (hfresh : start.FreshIds (before ++ [operation]))
    (hfails : (start.after before).answer operation = .error error) :
    ((start.after before).Untouched ((start.after before).next operation) ↔
        ¬ (start.after before).SavesType operation) ∧
      ((start.after before).LeavesNoTrace ((start.after before).next operation) ↔
        ¬ (start.after before).SavesType operation ∧ (start.after before).Lasts) ∧
      (start.store.BeginsEmpty → (start.after before).store.ReadsBack →
        (start.after before).Lasts) := by
  obtain ⟨hbefore, hlast, _⟩ := (freshIds_append start before [operation]).mp hfresh
  have hstart : start.CacheAgrees := SchemaCache.agrees_of_entries_eq_nil hempty
  obtain ⟨hagrees, _, _⟩ := after_evolves hstart hbefore
  obtain ⟨hagrees', _⟩ := next_eq_plain hagrees hlast
  have htouched := not_showsLike_of_savesType hagrees hlast hfails
  have hview : ¬ (start.after before).SavesType operation →
      (start.after before).store.SameView ((start.after before).next operation).store :=
    (AnyStore.sameView_of_plain (plain_of_fails hagrees hlast hfails)).resolve_right
  refine ⟨⟨fun huntouched hsaves => htouched hsaves huntouched.shown,
    fun hsaves => untouched_of_sameView hagrees hagrees' (hview hsaves)⟩, ?_,
    fun hbegins hreads => lasts_after hbegins hempty hbefore hreads⟩
  constructor
  · intro hnone
    have hsaves : ¬ (start.after before).SavesType operation :=
      fun hsaves => htouched hsaves hnone.shown
    exact ⟨hsaves, (leavesNoTrace_iff_lasts hagrees hagrees' (hview hsaves)).mp hnone⟩
  · rintro ⟨hsaves, hlasts⟩
    exact (leavesNoTrace_iff_lasts hagrees hagrees' (hview hsaves)).mpr hlasts

section Jammed

open DirectoryStore

def issues : Category := {id := .ofNat 1, name := "planner.issues"}

/-- What the category was before. -/
def old : Category := {id := issues.id, name := "Old"}

def bug : WorkItemType := {id := .ofNat 2, name := "Bug"}

/-- Asks for that type in the category. -/
def bugRequest : NewType := {name := "Bug", categories := [issues.id]}

/-- The folders of a store, with a file of the category and a copy of what it was. -/
def copiedEntries (category : Category) : List (List String × DiskEntry) :=
  [([typesFolder], .folder), ([categoriesFolder], .folder),
    ([categoriesFolder, category.fileName],
      .file (DefinitionFormat.yaml.writeCategory category).toUTF8),
    ([categoriesFolder, "copy.yaml"], .file (DefinitionFormat.yaml.writeCategory old).toUTF8)]

/-- A store that was opened in the working folder. The third file to come cannot be put in
its place. -/
def jammed : DirectoryStore where
  format := .yaml
  root := ⟨"."⟩
  catalog := {categories := .ofList [old]}
  disk := {entries := copiedEntries old, faults := [none, none, some .rename]}

/-- What becomes of it when the category is saved. -/
def jammedWithCategory : DirectoryStore := {jammed with
  catalog := jammed.catalog.saveCategory issues
  disk := {entries := copiedEntries issues, faults := [none, some .rename], temporaries := 1}}

/-- And when a type is saved after that. -/
def jammedWithType : DirectoryStore := {jammedWithCategory with
  catalog := jammedWithCategory.catalog.save bug
  disk := {
    entries := copiedEntries issues ++
      [([typesFolder, bug.fileName], .file (jammed.format.writeType bug).toUTF8)]
    faults := [some .rename]
    temporaries := 2 }}

private theorem readCategory_write (category : Category) (hmem : category ∈ [old, issues]) :
    DefinitionFormat.yaml.readCategory (DefinitionFormat.yaml.writeCategory category) =
      .ok category := by
  simp only [List.mem_cons, List.not_mem_nil, or_false] at hmem
  refine Outcome.eq_ok_of_any (fun found => decide (found = category))
    (fun _ => of_decide_eq_true) ?_
  rcases hmem with rfl | rfl <;> decide +kernel

/-- Where the category and its copy have files, the copy comes last. -/
private theorem loadCategories {disk : Disk} {category : Category}
    (hcategory : category ∈ [old, issues])
    (hfiles : disk.list [categoriesFolder] = .ok [category.fileName, "copy.yaml"])
    (hfile : disk.entry? [categoriesFolder, category.fileName] =
      some (.file (DefinitionFormat.yaml.writeCategory category).toUTF8))
    (hcopy : disk.entry? [categoriesFolder, "copy.yaml"] =
      some (.file (DefinitionFormat.yaml.writeCategory old).toUTF8)) :
    loadFolder DefinitionFormat.yaml.readCategory disk ⟨"."⟩ categoriesFolder =
      .ok {items := [category, old]} := by
  have hextension : Path.extensionOf? "copy.yaml" = some extension := by decide +kernel
  simp only [loadFolder, loadFiles, Path.names_workingFolder, List.nil_append, List.cons_append,
    hfiles, category.extensionOf?_fileName, hextension, if_true, Disk.readText_eq_ok hfile,
    Disk.readText_eq_ok hcopy, readCategory_write category hcategory,
    readCategory_write old List.mem_cons_self]
  rfl

private theorem openAt_jammed :
    (openAt .yaml ⟨"."⟩ []).run jammed.disk = .ok jammed jammed.disk := by
  rw [openAt_eq_ok, Path.names_workingFolder]
  refine ⟨_, _, jammed.catalog, [], rfl, rfl, rfl, ?_, rfl⟩
  have htypes : loadFolder DefinitionFormat.yaml.readType jammed.disk ⟨"."⟩ typesFolder =
      .ok {} := by
    simp only [loadFolder, Path.names_workingFolder]
    rfl
  have hlinks : loadLinks .yaml jammed.disk ⟨"."⟩ = .ok [] := by
    simp only [loadLinks, Path.names_workingFolder]
    rfl
  rw [DirectoryStore.load, htypes, loadCategories List.mem_cons_self rfl rfl rfl, hlinks]
  rfl

private theorem saveCategory_jammed :
    (saveCategory issues).run jammed = .ok () jammedWithCategory := by
  rw [saveCategory_run, replace_run_eq_ok, categoryFile, jammed, Path.names_workingFolder]
  exact ⟨_, rfl, rfl⟩

private theorem save_jammed : (save bug).run jammedWithCategory = .ok () jammedWithType := by
  rw [save_run, replace_run_eq_ok, typeFile, jammedWithCategory, jammed, Path.names_workingFolder]
  exact ⟨_, rfl, rfl⟩

private theorem link_jammed :
    ∃ after, (DirectoryStore.link bug.id [issues.id]).run jammedWithType =
      .error (.file (.other "rename failed")) after := by
  have hlink : jammedWithType.catalog.link bug.id [issues.id] =
      .ok {jammedWithType.catalog with
        links := ({} : RankedList CategoryLink).insertAll [⟨bug.id, issues.id⟩]} := rfl
  have hroot : jammedWithType.root.names = [] := Path.names_workingFolder
  rw [DirectoryStore.link_run, hlink]
  simp only
  rw [if_neg (by decide), hroot]
  exact ⟨_, replace_run_eq_error.mpr ⟨_, rfl, rfl⟩⟩

/-- An engine over the store as it was opened. -/
def jammedStart : Engine AnyStore := {store := .directory jammed}

/-- The engine after it has made the category. -/
def jammedEngine : Engine AnyStore := jammedStart.next (.createCategory issues)

private theorem store_jammed : jammedEngine.store = .directory jammedWithCategory := by
  have hfresh : (Operation.createCategory issues).Fresh jammedStart.catalog := nofun
  have hagrees : jammedStart.CacheAgrees := SchemaCache.agrees_of_entries_eq_nil rfl
  have hsave : (TypeStore.saveCategory issues).run (AnyStore.directory jammed) =
      .ok () (.directory jammedWithCategory) := by
    rw [AnyStore.saveCategory_run, AnyStore.act_run_directory, saveCategory_jammed]
  have hrun := TypeStore.createCategory_eq_ok.mpr ⟨rfl, hsave, rfl⟩
  obtain ⟨_, cache, hnext⟩ := next_eq_plain hagrees hfresh
  rw [jammedEngine, hnext, Operation.plain]
  change Outcome.endState (EStateM.run _ (AnyStore.directory jammed)) = _
  rw [Outcome.endState_map, hrun, Outcome.endState]

private theorem freshIds_jammed :
    jammedStart.FreshIds [.createCategory issues, .create bugRequest bug.id] := by
  refine ⟨nofun, ?_, trivial⟩
  change Operation.Fresh _ (TypeStore.catalog jammedEngine.store)
  rw [store_jammed]
  decide

private theorem cacheAgrees_jammed : jammedEngine.CacheAgrees :=
  (next_evolves (SchemaCache.agrees_of_entries_eq_nil rfl) freshIds_jammed.1).1

private theorem savesType_jammed : jammedEngine.SavesType (.create bugRequest bug.id) := by
  rw [SavesType, store_jammed]
  exact ⟨jammedWithCategory, jammedWithType, {}, rfl, rfl, save_jammed⟩

/-- The creation fails, and leaves a store that cannot be told from one that has the
type. -/
private theorem fails_jammed :
    jammedEngine.answer (.create bugRequest bug.id) = .error (.file (.other "rename failed")) ∧
      AnyStore.SameView (.directory jammedWithType)
        (jammedEngine.next (.create bugRequest bug.id)).store := by
  obtain ⟨after, hlink⟩ := link_jammed
  have hwrite : (TypeStore.save bug).run (AnyStore.directory jammedWithCategory) =
      .ok () (.directory jammedWithType) := by
    rw [AnyStore.save_run, AnyStore.act_run_directory, save_jammed]
  have hfail : (TypeStore.link bug.id [issues.id]).run (AnyStore.directory jammedWithType) =
      .error (.file (.other "rename failed")) (.directory after) := by
    rw [AnyStore.link_run, AnyStore.act_run_directory, hlink]
  have hcreate : (TypeStore.create jammedEngine.rules bugRequest bug.id).run
      (AnyStore.directory jammedWithCategory) =
        .error (.file (.other "rename failed")) (.directory after) :=
    TypeStore.create_eq_error.mpr (Or.inr ⟨{}, rfl, Or.inr ⟨_, hwrite, hfail⟩⟩)
  rw [← store_jammed] at hcreate
  obtain ⟨hanswer, hstore⟩ := fails_of_plain cacheAgrees_jammed freshIds_jammed.2.1
    (Outcome.run_map_eq_error.mpr hcreate)
  rw [hstore]
  exact ⟨hanswer, AnyStore.sameView_of_link hfail⟩

private theorem load_jammed :
    (DirectoryStore.load .yaml jammedWithType.disk ⟨"."⟩).toOption.any (fun loaded =>
      decide (loaded.1.categories.elements = [old] ∧ (loaded.1.type? bug.id).isSome)) = true := by
  have hcategories : loadFolder DefinitionFormat.yaml.readCategory jammedWithType.disk ⟨"."⟩
      categoriesFolder = .ok {items := [issues, old]} :=
    loadCategories (by simp) rfl rfl rfl
  have hlinks : loadLinks .yaml jammedWithType.disk ⟨"."⟩ = .ok [] := by
    simp only [loadLinks, Path.names_workingFolder]
    rfl
  have hfiles : jammedWithType.disk.list [typesFolder] = .ok [bug.fileName] := rfl
  have hbug : jammedWithType.disk.readText [typesFolder, bug.fileName] =
      .ok (DefinitionFormat.yaml.writeType bug) := Disk.readText_eq_ok rfl
  rw [DirectoryStore.load, hcategories, hlinks]
  simp only [loadFolder, loadFiles, Path.names_workingFolder, List.nil_append, List.cons_append,
    hfiles, bug.extensionOf?_fileName, if_true, hbug]
  decide +kernel

/-- Opened again, the folder has the type, and the category as it was before it was
saved. -/
private theorem reopens_jammed :
    ∃ catalog skipped, jammedWithType.Reopens [] catalog skipped ∧
      catalog.categories.elements = [old] ∧ (catalog.type? bug.id).isSome := by
  have hloaded := load_jammed
  cases hload : DirectoryStore.load .yaml jammedWithType.disk ⟨"."⟩ with
  | error error =>
      rw [hload] at hloaded
      cases hloaded
  | ok loaded =>
      rw [hload] at hloaded
      obtain ⟨hcategories, hbug⟩ := of_decide_eq_true hloaded
      have hopen : (openAt .yaml ⟨"."⟩ []).run jammedWithType.disk =
          .ok {jammedWithType with catalog := loaded.1, skipped := loaded.2}
            jammedWithType.disk := by
        rw [openAt_eq_ok, Path.names_workingFolder]
        exact ⟨_, _, loaded.1, loaded.2, rfl, rfl, rfl, hload, rfl⟩
      exact ⟨loaded.1, loaded.2, ⟨jammedWithType.disk.faults, _, _, hopen, rfl, rfl⟩, hcategories,
        hbug⟩

theorem failure_untouched_iff_jammed :
    let before := jammedStart.after [.createCategory issues]
    let operation := Operation.create bugRequest bug.id
    jammedStart.FreshIds ([.createCategory issues] ++ [operation]) ∧
      before.answer operation = .error (.file (.other "rename failed")) ∧
      before.SavesType operation ∧
      (before.Untouched (before.next operation) ↔ ¬ before.SavesType operation) ∧
      (before.LeavesNoTrace (before.next operation) ↔
        ¬ before.SavesType operation ∧ before.Lasts) ∧
      (jammedStart.store.BeginsEmpty → before.store.ReadsBack → before.Lasts) :=
  ⟨freshIds_jammed, fails_jammed.1, savesType_jammed,
    failure_untouched_iff jammedStart [.createCategory issues] (.create bugRequest bug.id) _ rfl
      freshIds_jammed fails_jammed.1⟩

/-- The creation of a type fails. The type is listed then, before and after the store was
opened again, and what the category was before it was saved has come back. -/
theorem type_listed_after_failure :
    let before := jammedStart.after [.createCategory issues]
    let operation := Operation.create bugRequest bug.id
    (openAt .yaml ⟨"."⟩ []).run jammed.disk = .ok jammed jammed.disk ∧
      jammedStart.FreshIds [.createCategory issues, operation] ∧
      before.answer .list = .ok (.types []) ∧
      before.answer .listCategories = .ok (.categories [issues]) ∧
      before.answer operation = .error (.file (.other "rename failed")) ∧
      (before.next operation).answer .list = .ok (.types [bug]) ∧
      ∃ reopened, (before.next operation).ReopensAs reopened ∧
        (∃ type, reopened.answer (.load bug.id) = .ok (.type type)) ∧
        reopened.answer .listCategories = .ok (.categories [old]) := by
  intro before operation
  have hlist : ∀ engine : Engine AnyStore,
      engine.answer .list = .ok (.types engine.catalog.types.elements) := fun _ => rfl
  have hlistCategories : ∀ engine : Engine AnyStore,
      engine.answer .listCategories = .ok (.categories engine.catalog.categories.elements) :=
    fun _ => rfl
  have hcatalog : before.catalog = jammedWithCategory.catalog :=
    congrArg TypeStore.catalog store_jammed
  obtain ⟨hfails, hview⟩ := fails_jammed
  have hafter : (before.next operation).catalog = jammedWithType.catalog := hview.catalog
  obtain ⟨catalog, skipped, hreopens, hcategories, hbug⟩ := reopens_jammed
  obtain ⟨reopened, hreopened, hsame⟩ :=
    exists_reopensAs ((hview.reopened [] catalog skipped).mpr hreopens)
  obtain ⟨type, htype⟩ := Option.isSome_iff_exists.mp hbug
  refine ⟨openAt_jammed, freshIds_jammed, ?_, ?_, hfails, ?_, reopened, hreopened, ⟨type, ?_⟩, ?_⟩
  · rw [hlist, hcatalog]
    rfl
  · rw [hlistCategories, hcatalog]
    rfl
  · rw [hlist, hafter]
    rfl
  · rw [answer_of_reply hreopened.cacheAgrees rfl, hsame, Catalog.load_eq_ok.mpr htype]
    rfl
  · rw [hlistCategories, hsame, hcategories]

end Jammed

end Engine

end WorkSchema
