import WorkSchema.Proofs.Store.Laws
import WorkSchema.Proofs.Store.Leftovers
import WorkSchema.Proofs.Store.Run

/-!
What a run of a store leaves as it is. A file with a definition stays as it was written,
whatever else is done and whatever fails, until its own definition is saved again, and
the store can be opened again at any point.
-/

namespace WorkSchema

open DirectoryStore

namespace Disk

variable {format : DefinitionFormat} {root : Path} {disk a b after : Disk}
  {texts : List (List String × String)} {names : List String} {text : String}

theorem Readable.alike (hreadable : a.Readable format root) (halike : a.Alike root b) :
    b.Readable format root := by
  have hdefinitions : ∀ folder file, Path.extensionOf? file = some extension →
      a.entry? (root.names ++ [folder] ++ [file]) = b.entry? (root.names ++ [folder] ++ [file]) :=
    fun folder file hfile => halike.entry?_eq
      (not_isLeftover_of_not_isHidden root _ (isHidden_of_extension hfile))
  have hlinks : a.entry? (root.names ++ [linksFile]) = b.entry? (root.names ++ [linksFile]) :=
    halike.entry?_eq (not_isLeftover_of_not_isHidden root root.names (by decide))
  constructor
  · intro folder hfolder way hway
    have hhidden : isHidden folder = false := by
      simp only [List.mem_cons, List.not_mem_nil, or_false] at hfolder
      rcases hfolder with rfl | rfl <;> decide
    rw [← hreadable.folders folder hfolder way hway, eq_comm]
    apply halike.entry?_eq
    rcases List.prefix_concat_iff.mp hway with rfl | habove
    · exact not_isLeftover_of_not_isHidden root root.names hhidden
    · exact not_isLeftover_of_prefix habove
  · intro file entry hfile hentry
    rw [← hdefinitions typesFolder file hfile] at hentry
    exact hreadable.types file entry hfile hentry
  · intro file entry hfile hentry
    rw [← hdefinitions categoriesFolder file hfile] at hentry
    exact hreadable.categories file entry hfile hentry
  · intro entry hentry
    rw [← hlinks] at hentry
    exact hreadable.links entry hentry

theorem Readable.sameFiles (hreadable : a.Readable format root) (hsame : b.SameFiles a) :
    b.Readable format root := by
  obtain ⟨hfolders, htypes, hcategories, hlinks⟩ := hreadable
  constructor
  · simpa only [hsame _] using hfolders
  · simpa only [AllText, hsame _] using htypes
  · simpa only [AllText, hsame _] using hcategories
  · simpa only [LinksReadable, hsame _] using hlinks

/-- Any text may take the place of a definition, and any list of links that of the links. -/
theorem Readable.put (hreadable : disk.Readable format root) (hnames : names ≠ [])
    (hfile : disk.entry? names ≠ some .folder)
    (hentries : after.entries = putEntry names (.file text.toUTF8) disk.entries)
    (hlinks : names = root.names ++ [linksFile] → ∃ links, format.readLinks text = .ok links) :
    after.Readable format root := by
  have hfound : ∀ way, after.entry? way =
      if way = names then some (.file text.toUTF8) else disk.entry? way :=
    fun way => entry?_of_putEntry hnames hentries
  have htexts : ∀ {folder : List String}, disk.AllText folder → after.AllText folder := by
    intro folder hall file entry hextension hentry
    rw [hfound] at hentry
    split at hentry
    · cases hentry
      exact ⟨text, rfl⟩
    · exact hall file entry hextension hentry
  refine ⟨?_, htexts hreadable.types, htexts hreadable.categories, ?_⟩
  · intro folder hfolder way hway
    have hold := hreadable.folders folder hfolder way hway
    rw [hfound, if_neg, hold]
    rintro rfl
    exact hfile hold
  · intro entry hentry
    rw [hfound] at hentry
    split at hentry
    · rename_i hsame
      cases hentry
      obtain ⟨links, hread⟩ := hlinks hsame.symm
      exact ⟨text, links, rfl, hread⟩
    · exact hreadable.links entry hentry

/-- Whether a store can be opened on a disk and some files have the given texts. -/
structure Keeps (disk : Disk) (format : DefinitionFormat) (root : Path)
    (texts : List (List String × String)) : Prop where
  readable : disk.Readable format root
  kept : ∀ text ∈ texts, disk.entry? text.1 = some (.file text.2.toUTF8)

namespace Keeps

variable {kept : List String × String}

theorem tail (hkeeps : disk.Keeps format root (kept :: texts)) : disk.Keeps format root texts :=
  ⟨hkeeps.readable, fun text hmem => hkeeps.kept text (List.mem_cons_of_mem _ hmem)⟩

theorem put (hkeeps : disk.Keeps format root texts) (hnames : names ≠ [])
    (hfile : disk.entry? names ≠ some .folder)
    (hentries : after.entries = putEntry names (.file text.toUTF8) disk.entries)
    (hlinks : names = root.names ++ [linksFile] → ∃ links, format.readLinks text = .ok links)
    (hother : ∀ kept ∈ texts, kept.1 ≠ names) :
    after.Keeps format root ((names, text) :: texts) := by
  refine ⟨hkeeps.readable.put hnames hfile hentries hlinks, ?_⟩
  intro kept hmem
  rw [entry?_of_putEntry hnames hentries]
  rcases List.mem_cons.mp hmem with rfl | hold
  · rw [if_pos rfl]
  · rw [if_neg (hother kept hold)]
    exact hkeeps.kept kept hold

variable (hplain : ∀ kept ∈ texts, isLeftover root kept.1 = false)

include hplain

theorem alike (hkeeps : a.Keeps format root texts) (halike : a.Alike root b) :
    b.Keeps format root texts := by
  refine ⟨hkeeps.readable.alike halike, ?_⟩
  intro kept hmem
  rw [← halike.entry?_eq (hplain kept hmem)]
  exact hkeeps.kept kept hmem

/-- A file of the store is replaced, or nothing is different but for a leftover. -/
theorem replaceText (hkeeps : disk.Keeps format root texts) (hnames : names ≠ [])
    (hfolder : names.dropLast ∈ folders root)
    (hlinks : names = root.names ++ [linksFile] → ∃ links, format.readLinks text = .ok links)
    (hother : ∀ kept ∈ texts, kept.1 ≠ names) :
    Outcome.Ensures (DirectoryStore.replaceText names text) disk
      (fun _ after => after.Keeps format root ((names, text) :: texts))
      (fun after => after.Keeps format root texts) := by
  unfold Outcome.Ensures
  cases hrun : (DirectoryStore.replaceText names text).run disk with
  | ok _ after =>
      obtain ⟨_, hfile, hentries⟩ := of_replace_ok (replaceText_run_eq_ok.mp hrun)
      exact hkeeps.put hnames hfile hentries hlinks hother
  | error error after => exact hkeeps.alike hplain (alike_of_replaceText_error hfolder hrun)

/-- A default category is written only if it has no file, so no file is replaced. -/
theorem seed (hkeeps : disk.Keeps format root texts) (defaults : List Category) :
    Outcome.Ensures (DirectoryStore.seed format root defaults) disk
      (fun _ after => after.Keeps format root texts)
      (fun after => after.Keeps format root texts) := by
  induction defaults generalizing disk with
  | nil => exact hkeeps
  | cons category rest ih =>
      unfold Outcome.Ensures
      rw [seed_cons_run]
      by_cases hfound : disk.contains (categoryFile root category.id) = true
      · rw [if_pos hfound]
        exact ih hkeeps
      · rw [if_neg hfound]
        have hother : ∀ kept ∈ texts, kept.1 ≠ categoryFile root category.id := by
          intro kept hmem hsame
          apply hfound
          rw [Disk.contains, ← hsame, hkeeps.kept kept hmem]
          rfl
        have hwrite : Outcome.Ensures (DirectoryStore.replaceText
            (categoryFile root category.id) (format.writeCategory category)) disk
            (fun _ after => after.Keeps format root (_ :: texts))
            (fun after => after.Keeps format root texts) :=
          hkeeps.replaceText hplain (by simp [categoryFile])
            (dropLast_categoryFile_mem _ _) (by simp [categoryFile]) hother
        exact hwrite.bind (fun _ hstays => hstays) fun _ _ hstays => ih hstays.tail

/-- Opening a store again, also if a default category cannot be written. -/
theorem openAt (hkeeps : disk.Keeps format root texts) (defaults : List Category) :
    Outcome.Ensures (DirectoryStore.openAt format root defaults) disk
      (fun store _ => store.format = format ∧ store.root = root ∧
        store.disk.Keeps format root texts)
      (fun after => after.Keeps format root texts) := by
  have hmake : ∀ folder ∈ [typesFolder, categoriesFolder],
      Outcome.Ensures (DirectoryStore.makeFolders (root.names ++ [folder])) disk
        (fun _ after => after = disk) fun after => after = disk := by
    intro folder hfolder
    unfold Outcome.Ensures
    rw [makeFolders_run_eq_ok.mpr (makeFolders_eq_self (hkeeps.readable.folders folder hfolder))]
  refine (hmake typesFolder (by simp)).bind ?_ ?_
  · rintro _ rfl
    exact hkeeps
  rintro _ _ rfl
  refine (hmake categoriesFolder (by simp)).bind ?_ ?_
  · rintro _ rfl
    exact hkeeps
  rintro _ _ rfl
  refine (hkeeps.seed hplain defaults).bind (fun _ hstays => hstays) ?_
  intro _ seeded hseeded
  unfold Outcome.Ensures
  simp only [EStateM.run_bind, EStateM.run_get]
  cases DirectoryStore.load format seeded root with
  | error error => exact hseeded
  | ok loaded => exact ⟨rfl, rfl, hseeded⟩

end Keeps

end Disk

namespace DirectoryStore

/-- Whether a store can be opened again where it is, and some files have the given texts. -/
structure Keeps (store : DirectoryStore) (format : DefinitionFormat) (root : Path)
    (texts : List (List String × String)) : Prop where
  sameFormat : store.format = format
  sameRoot : store.root = root
  onDisk : store.disk.Keeps format root texts

namespace Keeps

variable {store : DirectoryStore} {format : DefinitionFormat} {root : Path}
  {texts : List (List String × String)} {names : List String} {text : String}

theorem tail {kept : List String × String} (hkeeps : store.Keeps format root (kept :: texts)) :
    store.Keeps format root texts :=
  ⟨hkeeps.sameFormat, hkeeps.sameRoot, hkeeps.onDisk.tail⟩

variable (hkeeps : store.Keeps format root texts)
  (hplain : ∀ kept ∈ texts, isLeftover root kept.1 = false)

include hkeeps hplain

theorem replace {change : Catalog → Catalog} (hnames : names ≠ [])
    (hfolder : names.dropLast ∈ folders root)
    (hlinks : names = root.names ++ [linksFile] → ∃ links, format.readLinks text = .ok links)
    (hother : ∀ kept ∈ texts, kept.1 ≠ names) :
    Outcome.Ensures (do write names text; setCatalog change : StoreM DirectoryStore Unit) store
      (fun _ after => after.Keeps format root ((names, text) :: texts))
      (fun after => after.Keeps format root texts) := by
  have hdisk := hkeeps.onDisk.replaceText hplain hnames hfolder hlinks hother
  unfold Outcome.Ensures at hdisk ⊢
  cases hrun : (do write names text; setCatalog change : StoreM DirectoryStore Unit).run store with
  | ok _ after =>
      obtain ⟨disk, hreplace, rfl⟩ := replace_run_eq_ok.mp hrun
      rw [hreplace] at hdisk
      exact ⟨hkeeps.sameFormat, hkeeps.sameRoot, hdisk⟩
  | error error after =>
      obtain ⟨disk, hreplace, rfl⟩ := replace_run_eq_error.mp hrun
      rw [hreplace] at hdisk
      exact ⟨hkeeps.sameFormat, hkeeps.sameRoot, hdisk⟩

theorem save (type : WorkItemType) (hother : ∀ kept ∈ texts, kept.1 ≠ typeFile root type.id) :
    Outcome.Ensures (TypeStore.save type) store
      (fun _ after => after.Keeps format root
        ((typeFile root type.id, format.writeType type) :: texts))
      (fun after => after.Keeps format root texts) := by
  obtain ⟨rfl, rfl, hdisk⟩ := hkeeps
  unfold Outcome.Ensures
  have hrun : (TypeStore.save type).run store = _ := save_run type store
  rw [hrun]
  exact replace ⟨rfl, rfl, hdisk⟩ hplain (by simp [typeFile]) (dropLast_typeFile_mem _ _)
    (by simp [typeFile]) hother

theorem saveCategory (category : Category)
    (hother : ∀ kept ∈ texts, kept.1 ≠ categoryFile root category.id) :
    Outcome.Ensures (TypeStore.saveCategory category) store
      (fun _ after => after.Keeps format root
        ((categoryFile root category.id, format.writeCategory category) :: texts))
      (fun after => after.Keeps format root texts) := by
  obtain ⟨rfl, rfl, hdisk⟩ := hkeeps
  unfold Outcome.Ensures
  have hrun : (TypeStore.saveCategory category).run store = _ := saveCategory_run category store
  rw [hrun]
  exact replace ⟨rfl, rfl, hdisk⟩ hplain (by simp [categoryFile])
    (dropLast_categoryFile_mem _ _) (by simp [categoryFile]) hother

theorem link (id : TypeId) (categories : List CategoryId)
    (hlinks : ∀ linked, store.catalog.link id categories = .ok linked →
      linked.links.size ≠ store.catalog.links.size →
        ∃ links, format.readLinks (format.writeLinks linked.links.elements) = .ok links)
    (hother : ∀ kept ∈ texts, kept.1 ≠ root.names ++ [linksFile]) :
    Outcome.Ensures (TypeStore.link id categories) store
      (fun _ after => after.Keeps format root texts)
      (fun after => after.Keeps format root texts) := by
  obtain ⟨rfl, rfl, hdisk⟩ := hkeeps
  unfold Outcome.Ensures
  have hrun : (TypeStore.link id categories).run store = _ := link_run id categories store
  rw [hrun]
  cases hlink : store.catalog.link id categories with
  | error error => exact ⟨rfl, rfl, hdisk⟩
  | ok linked =>
      by_cases hsize : linked.links.size = store.catalog.links.size
      · simp only [hsize, if_true]
        exact ⟨rfl, rfl, hdisk⟩
      · simp only [hsize, if_false]
        have hreplace : Outcome.Ensures (do
            write (store.root.names ++ [linksFile]) (store.format.writeLinks linked.links.elements)
            setCatalog fun _ => linked : StoreM DirectoryStore Unit) store
            (fun _ after => after.Keeps store.format store.root (_ :: texts))
            (fun after => after.Keeps store.format store.root texts) :=
          replace ⟨rfl, rfl, hdisk⟩ hplain (by simp) (dropLast_linksFile_mem _)
            (fun _ => hlinks linked hlink hsize) hother
        exact hreplace.mono (fun _ _ hstays => hstays.tail) fun _ hstays => hstays

theorem reopen (defaults : List Category) :
    Outcome.Ensures (Reopenable.reopen defaults) store
      (fun _ after => after.Keeps format root texts)
      (fun after => after.Keeps format root texts) := by
  obtain ⟨rfl, rfl, hdisk⟩ := hkeeps
  have hopen := hdisk.openAt hplain defaults
  unfold Outcome.Ensures at hopen ⊢
  rw [reopen_run]
  cases hrun : (openAt store.format store.root defaults).run store.disk with
  | ok opened disk =>
      rw [hrun] at hopen
      exact ⟨hopen.1, hopen.2.1, hopen.2.2⟩
  | error error disk =>
      rw [hrun] at hopen
      exact ⟨rfl, rfl, hopen⟩

end Keeps

end DirectoryStore

namespace StoreOperation

variable {format : DefinitionFormat} {root : Path} {texts : List (List String × String)}
  {defaults : List Category} {store : DirectoryStore}

/-- Whether the lists of links that are written in a run can be read again. A list is
written if it is longer than the one before. -/
def LinksReadBack (format : DefinitionFormat) (defaults : List Category) :
    DirectoryStore → List StoreOperation → Prop
  | _, [] => True
  | store, operation :: rest =>
      (∀ id categories linked, operation = .linkCategories id categories →
        store.catalog.link id categories = .ok linked →
          linked.links.size ≠ store.catalog.links.size →
            ∃ links, format.readLinks (format.writeLinks linked.links.elements) = .ok links) ∧
        LinksReadBack format defaults (next defaults store operation) rest

/-- Whether an operation is no save to one of some files. -/
def Spares (root : Path) (texts : List (List String × String)) (operation : StoreOperation) :
    Prop :=
  ∀ kept ∈ texts, (∀ type, operation = .save type → kept.1 ≠ typeFile root type.id) ∧
    ∀ category, operation = .saveCategory category → kept.1 ≠ categoryFile root category.id

/-- Whether files can be those of definitions: none is a leftover or the file of links. -/
def Definitions (root : Path) (texts : List (List String × String)) : Prop :=
  ∀ kept ∈ texts, isLeftover root kept.1 = false ∧ kept.1 ≠ root.names ++ [linksFile]

section Files

variable {operations : List StoreOperation}

theorem definitions_typeFile (root : Path) (type : WorkItemType) (text : String) :
    Definitions root [(typeFile root type.id, text)] := by
  have hhidden := isHidden_of_extension type.extensionOf?_fileName
  rw [Definitions, List.forall_mem_singleton, typeFile_eq]
  exact ⟨not_isLeftover_of_not_isHidden root _ hhidden, by simp⟩

theorem definitions_categoryFile (root : Path) (category : Category) (text : String) :
    Definitions root [(categoryFile root category.id, text)] := by
  have hhidden := isHidden_of_extension category.extensionOf?_fileName
  rw [Definitions, List.forall_mem_singleton, categoryFile_eq]
  exact ⟨not_isLeftover_of_not_isHidden root _ hhidden, by simp⟩

/-- The file of a type is spared by operations that do not save the type. -/
theorem spares_typeFile {type : WorkItemType} {text : String}
    (hother : ∀ other, .save other ∈ operations → other.id ≠ type.id) :
    ∀ operation ∈ operations, operation.Spares root [(typeFile root type.id, text)] := by
  intro operation hmem
  rw [Spares, List.forall_mem_singleton]
  constructor
  · rintro other rfl hsame
    apply hother other hmem
    have hname : fileName type.id.toText = fileName other.id.toText := by
      simpa [typeFile] using hsame
    exact (Identifier.rank_injective (fileName_eq_iff.mp hname)).symm
  · rintro category rfl hsame
    simp [typeFile, categoryFile, typesFolder, categoriesFolder] at hsame

theorem spares_categoryFile {category : Category} {text : String}
    (hother : ∀ other, .saveCategory other ∈ operations → other.id ≠ category.id) :
    ∀ operation ∈ operations, operation.Spares root [(categoryFile root category.id, text)] := by
  intro operation hmem
  rw [Spares, List.forall_mem_singleton]
  constructor
  · rintro type rfl hsame
    simp [typeFile, categoryFile, typesFolder, categoriesFolder] at hsame
  · rintro other rfl hsame
    apply hother other hmem
    have hname : fileName category.id.toText = fileName other.id.toText := by
      simpa [categoryFile] using hsame
    exact (Identifier.rank_injective (fileName_eq_iff.mp hname)).symm

end Files

theorem keeps_next (hkeeps : store.Keeps format root texts) (hfiles : Definitions root texts)
    {operation : StoreOperation} (hspares : operation.Spares root texts)
    (hlinks : ∀ id categories linked, operation = .linkCategories id categories →
      store.catalog.link id categories = .ok linked →
        linked.links.size ≠ store.catalog.links.size →
          ∃ links, format.readLinks (format.writeLinks linked.links.elements) = .ok links) :
    (next defaults store operation).Keeps format root texts := by
  have hplain : ∀ kept ∈ texts, isLeftover root kept.1 = false := fun kept hmem =>
    (hfiles kept hmem).1
  unfold next
  cases operation with
  | save type =>
      rw [perform, endState_write]
      have hsave := hkeeps.save hplain type fun kept hmem => (hspares kept hmem).1 type rfl
      exact (hsave.mono (fun _ _ hstays => hstays.tail) fun _ hstays => hstays).endState
  | saveCategory category =>
      rw [perform, endState_write]
      have hsave := hkeeps.saveCategory hplain category fun kept hmem =>
        (hspares kept hmem).2 category rfl
      exact (hsave.mono (fun _ _ hstays => hstays.tail) fun _ hstays => hstays).endState
  | linkCategories id categories =>
      rw [perform, endState_write]
      exact (hkeeps.link hplain id categories (fun linked => hlinks id categories linked rfl)
        fun kept hmem => (hfiles kept hmem).2).endState
  | reopen withDefaults =>
      rw [perform, endState_write]
      exact (hkeeps.reopen hplain _).endState
  | load | list | loadCategory | listCategories | categoriesOf | typesIn =>
      rw [perform, endState_consult]
      exact hkeeps

theorem keeps_after (hkeeps : store.Keeps format root texts) (hfiles : Definitions root texts)
    {operations : List StoreOperation}
    (hspares : ∀ operation ∈ operations, operation.Spares root texts)
    (hlinks : LinksReadBack format defaults store operations) :
    (after defaults store operations).Keeps format root texts := by
  induction operations generalizing store with
  | nil => exact hkeeps
  | cons operation rest ih =>
      obtain ⟨hfirst, hrest⟩ := List.forall_mem_cons.mp hspares
      exact ih (keeps_next hkeeps hfiles hfirst hlinks.1) hrest hlinks.2

theorem linksReadBack_append {first second : List StoreOperation} :
    LinksReadBack format defaults store (first ++ second) ↔
      LinksReadBack format defaults store first ∧
        LinksReadBack format defaults (after defaults store first) second := by
  induction first generalizing store with
  | nil => simp [LinksReadBack, after]
  | cons operation rest ih =>
      rw [List.cons_append, LinksReadBack, LinksReadBack, ih, and_assoc]
      rfl

section Saved

variable (hkeeps : store.Keeps format root [])

include hkeeps

theorem keeps_saved {type : WorkItemType}
    (hsaved : answer defaults store (.save type) = .ok .done) :
    (next defaults store (.save type)).Keeps format root
      [(typeFile root type.id, format.writeType type)] := by
  unfold next
  rw [perform, endState_write]
  exact endState_of_done (hkeeps.save (by simp) type (by simp)) hsaved

theorem keeps_savedCategory {category : Category}
    (hsaved : answer defaults store (.saveCategory category) = .ok .done) :
    (next defaults store (.saveCategory category)).Keeps format root
      [(categoryFile root category.id, format.writeCategory category)] := by
  unfold next
  rw [perform, endState_write]
  exact endState_of_done (hkeeps.saveCategory (by simp) category (by simp)) hsaved

end Saved

/-- What is saved in a run is still in its file at the end, if no later operation is a save
to that file. -/
theorem keeps_of_run {disk started : Disk} {opened : DirectoryStore}
    (hopen : (openAt format root defaults).run disk = .ok opened started)
    {before later : List StoreOperation} {operation : StoreOperation}
    {kept : List String × String}
    (hlinks : LinksReadBack format defaults opened (before ++ operation :: later))
    (hsaved : (after defaults opened before).Keeps format root [] →
      (next defaults (after defaults opened before) operation).Keeps format root [kept])
    (hfile : Definitions root [kept])
    (hspares : ∀ operation ∈ later, operation.Spares root [kept]) :
    (after defaults opened (before ++ operation :: later)).Keeps format root [kept] := by
  obtain ⟨hlinksBefore, _, hlinksLater⟩ := linksReadBack_append.mp hlinks
  obtain ⟨_, hformat, hroot, rfl, hreadable⟩ := asLoaded_of_openAt hopen
  have hopened : opened.Keeps format root [] := ⟨hformat, hroot, hreadable, by simp⟩
  have hbefore := keeps_after hopened (by simp [Definitions]) (by simp [Spares]) hlinksBefore
  rw [after_append]
  exact keeps_after (hsaved hbefore) hfile hspares hlinksLater

end StoreOperation

end WorkSchema
