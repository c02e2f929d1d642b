import WorkSchema.Proofs.Store.Opening

/-!
What a store is loaded as where anything may lie in its folder. Opening fails on a
definition file that is no text, and on a file of links that says none. A text that is no
definition is skipped, every other one is loaded, and of the definitions of one id the
one that is listed last is kept.
-/

namespace WorkSchema

namespace Disk

variable {disk other : Disk} {folder names way : List String}

theorem toUTF8_of_fromUTF8? {content : ByteArray} {text : String}
    (htext : String.fromUTF8? content = some text) : text.toUTF8 = content := by
  unfold String.fromUTF8? at htext
  split at htext
  · cases htext
    rfl
  · cases htext

theorem readText_eq_ok_iff {text : String} :
    disk.readText names = .ok text ↔ disk.entry? names = some (.file text.toUTF8) := by
  refine ⟨?_, readText_eq_ok⟩
  intro hread
  obtain ⟨content, hcontent, hdecode⟩ := Outcome.bind_eq_ok.mp hread
  cases htext : String.fromUTF8? content with
  | none =>
      rw [htext] at hdecode
      cases hdecode
  | some found =>
      rw [htext] at hdecode
      cases hdecode
      unfold readBytes at hcontent
      split at hcontent
      · rename_i hentry
        cases hcontent
        rw [hentry, toUTF8_of_fromUTF8? htext]
      · cases hcontent
      · cases hcontent

/-- Whether two disks have the same files and folders. They may list them in different
orders. -/
def SameFiles (a b : Disk) : Prop :=
  ∀ way, a.entry? way = b.entry? way

/-- Whether every definition file in a folder is a file of text. -/
def AllText (disk : Disk) (folder : List String) : Prop :=
  ∀ file entry, Path.extensionOf? file = some DirectoryStore.extension →
    disk.entry? (folder ++ [file]) = some entry → ∃ text : String, entry = .file text.toUTF8

/-- Whether a file in a folder is a definition file whose text says an item. -/
structure Defines {α : Type} (disk : Disk) (read : String → Decoded α) (folder : List String)
    (file : String) (item : α) : Prop where
  extension : Path.extensionOf? file = some DirectoryStore.extension
  text : ∃ text : String,
    disk.entry? (folder ++ [file]) = some (.file text.toUTF8) ∧ read text = .ok item

/-- A file says one thing only. -/
theorem Defines.unique {α : Type} {read : String → Decoded α} {file : String} {a b : α}
    (ha : disk.Defines read folder file a) (hb : disk.Defines read folder file b) : a = b := by
  obtain ⟨text, hentry, hread⟩ := ha.text
  obtain ⟨text', hentry', hread'⟩ := hb.text
  have hsame := readText_eq_ok hentry
  rw [readText_eq_ok hentry'] at hsame
  cases hsame
  rw [hread] at hread'
  cases hread'
  rfl

end Disk

namespace DirectoryStore

/-- The names of definition files among the entries that lie directly in a folder. -/
def definitionsIn (folder : List String) (entries : List (List String × DiskEntry)) :
    List String :=
  (entries.filterMap fun (way, _) => if way.dropLast = folder then way.getLast? else none).filter
    fun file => Path.extensionOf? file = some extension

section Folder

variable {α : Type} {read : String → Decoded α} {disk : Disk} {path root : Path}
  {folder : List String} {files : List String} {file name : String} {item : α}
  {loaded : Loaded α}

theorem list_eq_ok_iff :
    disk.list folder = .ok files ↔ disk.entry? folder = some .folder ∧
      files = disk.entries.filterMap fun (way, _) =>
        if way.dropLast = folder then way.getLast? else none := by
  unfold Disk.list
  cases disk.entry? folder with
  | none => simp [throw, throwThe, MonadExceptOf.throw]
  | some entry =>
      cases entry <;> simp [pure, Except.pure, throw, throwThe, MonadExceptOf.throw, eq_comm]

theorem mem_definitionsIn (hfolder : disk.entry? folder = some .folder) :
    file ∈ definitionsIn folder disk.entries ↔
      Path.extensionOf? file = some extension ∧ (disk.entry? (folder ++ [file])).isSome := by
  obtain ⟨files, hlist, hmem⟩ := Disk.list_eq_ok hfolder
  obtain ⟨_, rfl⟩ := list_eq_ok_iff.mp hlist
  rw [definitionsIn, List.mem_filter, hmem, decide_eq_true_iff, and_comm]

/-- What the text of a file says, if it is a definition. -/
def itemOf (read : String → Decoded α) (disk : Disk) (folder : List String) (file : String) :
    Option α :=
  match disk.readText (folder ++ [file]) with
  | .ok text => (read text).toOption
  | .error _ => none

/-- What is noted of a file whose text is no definition. -/
def faultOf (read : String → Decoded α) (disk : Disk) (path : Path) (folder : List String)
    (file : String) : Option SkippedFile :=
  match disk.readText (folder ++ [file]) with
  | .ok text =>
      match read text with
      | .ok _ => none
      | .error error => some {path := path.join file, error}
  | .error _ => none

/-- What files of text are loaded as. -/
def contents (read : String → Decoded α) (disk : Disk) (path : Path) (folder : List String)
    (files : List String) : Loaded α where
  items := files.filterMap (itemOf read disk folder)
  skipped := files.filterMap (faultOf read disk path folder)

/-- Files are loaded exactly if all definition files among them are texts. -/
theorem loadFiles_eq_ok_iff :
    loadFiles read disk path folder files = .ok loaded ↔
      (∀ file ∈ files, Path.extensionOf? file = some extension →
        ∃ text, disk.readText (folder ++ [file]) = .ok text) ∧
      loaded = contents read disk path folder
        (files.filter fun file => Path.extensionOf? file = some extension) := by
  induction files generalizing loaded with
  | nil =>
      simp only [loadFiles, List.not_mem_nil, false_implies, implies_true, true_and]
      constructor
      · intro hload
        cases hload
        rfl
      · rintro rfl
        rfl
  | cons file rest ih =>
      rw [List.forall_mem_cons, List.filter_cons, loadFiles]
      by_cases hfile : Path.extensionOf? file = some extension
      · rw [if_pos hfile]
        simp only [hfile, decide_true, if_true, true_implies]
        cases htext : disk.readText (folder ++ [file]) with
        | error error => simp [throw, throwThe, MonadExceptOf.throw]
        | ok text =>
            simp only [Outcome.bind_eq_ok, ih, Except.ok.injEq, exists_eq', true_and]
            constructor
            · rintro ⟨others, ⟨hall, rfl⟩, hresult⟩
              refine ⟨hall, ?_⟩
              cases hread : read text with
              | ok item =>
                  rw [hread] at hresult
                  cases hresult
                  simp [contents, itemOf, faultOf, htext, hread, Except.toOption]
              | error error =>
                  rw [hread] at hresult
                  cases hresult
                  simp [contents, itemOf, faultOf, htext, hread, Except.toOption]
            · rintro ⟨hall, rfl⟩
              refine ⟨_, ⟨hall, rfl⟩, ?_⟩
              cases hread : read text <;>
                simp [contents, itemOf, faultOf, htext, hread, Except.toOption, pure, Except.pure]
      · rw [if_neg hfile, ih]
        simp [hfile]

/-- What the definition files of a folder are loaded as. -/
def contentsOf (read : String → Decoded α) (disk : Disk) (root : Path) (name : String) :
    Loaded α :=
  contents read disk (root.join name) (root.names ++ [name])
    (definitionsIn (root.names ++ [name]) disk.entries)

/-- A folder is loaded exactly if all definition files in it are texts. -/
theorem loadFolder_eq_ok_iff :
    loadFolder read disk root name = .ok loaded ↔
      disk.entry? (root.names ++ [name]) = some .folder ∧
        disk.AllText (root.names ++ [name]) ∧ loaded = contentsOf read disk root name := by
  simp only [loadFolder]
  cases hlist : disk.list (root.names ++ [name]) with
  | error error =>
      have hnot : disk.entry? (root.names ++ [name]) ≠ some .folder := by
        intro hfolder
        obtain ⟨_, hlisted, _⟩ := Disk.list_eq_ok hfolder
        rw [hlisted] at hlist
        cases hlist
      simp [hnot, throw, throwThe, MonadExceptOf.throw]
  | ok files =>
      obtain ⟨hfolder, rfl⟩ := list_eq_ok_iff.mp hlist
      obtain ⟨files, hlisted, hmem⟩ := Disk.list_eq_ok hfolder
      obtain ⟨_, rfl⟩ := list_eq_ok_iff.mp hlisted
      simp only [loadFiles_eq_ok_iff, hfolder, true_and]
      refine and_congr_left' ⟨?_, ?_⟩
      · intro hall file entry hfile hentry
        obtain ⟨text, htext⟩ := hall file ((hmem file).mpr (by rw [hentry]; rfl)) hfile
        rw [Disk.readText_eq_ok_iff.mp htext] at hentry
        cases hentry
        exact ⟨text, rfl⟩
      · intro hall file hlisted hfile
        obtain ⟨entry, hentry⟩ := Option.isSome_iff_exists.mp ((hmem file).mp hlisted)
        obtain ⟨text, rfl⟩ := hall file entry hfile hentry
        exact ⟨text, Disk.readText_eq_ok hentry⟩

theorem itemOf_eq_some :
    itemOf read disk folder file = some item ↔
      ∃ text : String, disk.entry? (folder ++ [file]) = some (.file text.toUTF8) ∧
        read text = .ok item := by
  unfold itemOf
  simp only [← Disk.readText_eq_ok_iff]
  cases disk.readText (folder ++ [file]) with
  | error error => simp
  | ok text => cases hread : read text <;> simp [Except.toOption, hread]

theorem faultOf_eq_some {fault : SkippedFile} :
    faultOf read disk path folder file = some fault ↔
      ∃ (text : String) (error : DecodeError),
        disk.entry? (folder ++ [file]) = some (.file text.toUTF8) ∧
          read text = .error error ∧ fault = {path := path.join file, error} := by
  unfold faultOf
  simp only [← Disk.readText_eq_ok_iff]
  cases disk.readText (folder ++ [file]) with
  | error error => simp
  | ok text => cases hread : read text <;> simp [hread, eq_comm]

theorem mem_items (hfolder : disk.entry? (root.names ++ [name]) = some .folder) :
    item ∈ (contentsOf read disk root name).items ↔
      ∃ file, disk.Defines read (root.names ++ [name]) file item := by
  simp only [contentsOf, contents, List.mem_filterMap, mem_definitionsIn hfolder, itemOf_eq_some]
  constructor
  · rintro ⟨file, ⟨hfile, _⟩, htext⟩
    exact ⟨file, hfile, htext⟩
  · rintro ⟨file, hfile, text, hentry, hread⟩
    exact ⟨file, ⟨hfile, by rw [hentry]; rfl⟩, text, hentry, hread⟩

end Folder

section Store

variable {format : DefinitionFormat} {disk after : Disk} {root : Path} {catalog : Catalog}
  {skipped : List SkippedFile}

/-- Whether the file of links, if there is one, is a text that says some. -/
def LinksReadable (format : DefinitionFormat) (disk : Disk) (root : Path) : Prop :=
  ∀ entry, disk.entry? (root.names ++ [linksFile]) = some entry →
    ∃ (text : String) (links : List CategoryLink),
      entry = .file text.toUTF8 ∧ format.readLinks text = .ok links

theorem loadLinks_eq_ok_iff :
    (∃ links, loadLinks format disk root = .ok links) ↔ LinksReadable format disk root := by
  simp only [loadLinks, LinksReadable]
  by_cases hfound : disk.contains (root.names ++ [linksFile]) = true
  · simp only [if_pos hfound]
    obtain ⟨entry, hentry⟩ := Option.isSome_iff_exists.mp hfound
    simp only [hentry, Option.some.injEq, forall_eq']
    constructor
    · rintro ⟨links, hload⟩
      cases htext : disk.readText (root.names ++ [linksFile]) with
      | error error =>
          rw [htext] at hload
          cases hload
      | ok text =>
          rw [htext] at hload
          rw [Disk.readText_eq_ok_iff, hentry] at htext
          cases htext
          cases hlinks : format.readLinks text with
          | error error =>
              simp only [hlinks] at hload
              cases hload
          | ok found => exact ⟨text, found, rfl, hlinks⟩
    · rintro ⟨text, links, rfl, hlinks⟩
      refine ⟨links, ?_⟩
      rw [Disk.readText_eq_ok hentry]
      simp only [hlinks]
      rfl
  · simp only [if_neg hfound]
    have habsent : disk.entry? (root.names ++ [linksFile]) = none := by
      rw [Disk.contains, Bool.not_eq_true, Option.isSome_eq_false_iff] at hfound
      exact Option.isNone_iff_eq_none.mp hfound
    simp [habsent, pure, Except.pure]

theorem definitions_addKnownLink (links : List CategoryLink) (catalog : Catalog) :
    (links.foldl Catalog.addKnownLink catalog).types = catalog.types ∧
      (links.foldl Catalog.addKnownLink catalog).categories = catalog.categories := by
  induction links generalizing catalog with
  | nil => exact ⟨rfl, rfl⟩
  | cons link rest ih =>
      obtain ⟨htypes, hcategories⟩ := ih (catalog.addKnownLink link)
      rw [List.foldl_cons, htypes, hcategories, Catalog.addKnownLink]
      split <;> exact ⟨rfl, rfl⟩

end Store

end DirectoryStore

open DirectoryStore in
/-- Whether a store can be opened on a disk that has its folders already. -/
structure Disk.Readable (disk : Disk) (format : DefinitionFormat) (root : Path) : Prop where
  folders : ∀ folder ∈ [typesFolder, categoriesFolder], ∀ way, way <+: root.names ++ [folder] →
    disk.entry? way = some .folder
  types : disk.AllText (root.names ++ [typesFolder])
  categories : disk.AllText (root.names ++ [categoriesFolder])
  links : LinksReadable format disk root

namespace DirectoryStore

variable {format : DefinitionFormat} {disk after : Disk} {root : Path} {store : DirectoryStore}

/-- Whether a store is as it was loaded: it holds the definitions on its disk, and has
noted the files that are none. -/
structure AsLoaded (store : DirectoryStore) : Prop where
  types : store.catalog.types =
    .ofList (contentsOf store.format.readType store.disk store.root typesFolder).items
  categories : store.catalog.categories =
    .ofList (contentsOf store.format.readCategory store.disk store.root categoriesFolder).items
  skipped : store.skipped =
    (contentsOf store.format.readType store.disk store.root typesFolder).skipped ++
      (contentsOf store.format.readCategory store.disk store.root categoriesFolder).skipped

theorem load_eq_ok_iff (hfolders : ∀ folder ∈ [typesFolder, categoriesFolder],
    ∀ way, way <+: root.names ++ [folder] → disk.entry? way = some .folder) :
    (∃ loaded, load format disk root = .ok loaded) ↔ disk.Readable format root := by
  have htypes := hfolders typesFolder (by simp) _ (List.prefix_refl _)
  have hcategories := hfolders categoriesFolder (by simp) _ (List.prefix_refl _)
  simp only [load, Outcome.bind_eq_ok, loadFolder_eq_ok_iff]
  constructor
  · rintro ⟨_, _, ⟨_, hall, _⟩, _, ⟨_, hall', _⟩, links, hlinks, _⟩
    exact ⟨hfolders, hall, hall', loadLinks_eq_ok_iff.mp ⟨links, hlinks⟩⟩
  · intro hreadable
    obtain ⟨links, hlinks⟩ := loadLinks_eq_ok_iff.mpr hreadable.links
    exact ⟨_, _, ⟨htypes, hreadable.types, rfl⟩, _, ⟨hcategories, hreadable.categories, rfl⟩,
      links, hlinks, rfl⟩

theorem asLoaded_of_load {catalog : Catalog} {skipped : List SkippedFile}
    (hload : load format disk root = .ok (catalog, skipped)) :
    AsLoaded {format, root, catalog, skipped, disk} := by
  simp only [load, Outcome.bind_eq_ok, loadFolder_eq_ok_iff] at hload
  obtain ⟨_, ⟨_, _, rfl⟩, _, ⟨_, _, rfl⟩, links, _, hresult⟩ := hload
  rw [foldl_save, foldl_saveCategory] at hresult
  cases hresult
  refine ⟨?_, ?_, rfl⟩
  · exact (definitions_addKnownLink links _).1
  · exact (definitions_addKnownLink links _).2

/-- Seeding replaces no folder. -/
theorem folder_of_seed {defaults : List Category}
    (hseed : (seed format root defaults).run disk = .ok () after) {way : List String}
    (hfolder : disk.entry? way = some .folder) : after.entry? way = some .folder := by
  induction defaults generalizing disk with
  | nil =>
      cases hseed
      exact hfolder
  | cons category rest ih =>
      rw [seed_cons_run] at hseed
      split at hseed
      · exact ih hseed hfolder
      · obtain ⟨_, middle, hwrite, hrest⟩ := Outcome.run_bind_eq_ok.mp hseed
        refine ih hrest ?_
        obtain ⟨_, hfile, hentries⟩ := Disk.of_replace_ok (replaceText_run_eq_ok.mp hwrite)
        have hother : way ≠ categoryFile root category.id := by
          rintro rfl
          exact hfile hfolder
        rw [Disk.entry?_of_putEntry (by simp [categoryFile]) hentries, if_neg hother]
        exact hfolder

/-- A store that was opened is as it was loaded, from a disk that could be opened again. -/
theorem asLoaded_of_openAt {defaults : List Category}
    (hopen : (openAt format root defaults).run disk = .ok store after) :
    store.AsLoaded ∧ store.format = format ∧ store.root = root ∧ store.disk = after ∧
      after.Readable format root := by
  obtain ⟨first, second, catalog, skipped, hfirst, hsecond, hseed, hload, rfl⟩ :=
    openAt_eq_ok.mp hopen
  obtain ⟨htypes, _⟩ := Disk.folder_of_makeFolders (makeFolders_run_eq_ok.mp hfirst)
  obtain ⟨hcategories, hkept⟩ := Disk.folder_of_makeFolders (makeFolders_run_eq_ok.mp hsecond)
  refine ⟨asLoaded_of_load hload, rfl, rfl, rfl, (load_eq_ok_iff ?_).mp ⟨_, hload⟩⟩
  intro folder hfolder way hway
  apply folder_of_seed hseed
  simp only [List.mem_cons, List.not_mem_nil, or_false] at hfolder
  rcases hfolder with rfl | rfl
  · exact hkept way (htypes way hway)
  · exact hcategories way hway

/-- Opening changes nothing on a disk that has the folders, unless it is given defaults. -/
theorem openAt_of_readable (hreadable : disk.Readable format root) :
    ∃ store, (openAt format root []).run disk = .ok store disk ∧ store.AsLoaded ∧
      store.format = format ∧ store.root = root ∧ store.disk = disk := by
  obtain ⟨⟨catalog, skipped⟩, hload⟩ := (load_eq_ok_iff hreadable.folders).mpr hreadable
  have hmake : ∀ folder ∈ [typesFolder, categoriesFolder],
      (makeFolders (root.names ++ [folder])).run disk = .ok () disk := fun folder hfolder =>
    makeFolders_run_eq_ok.mpr (Disk.makeFolders_eq_self (hreadable.folders folder hfolder))
  exact ⟨_, openAt_eq_ok.mpr ⟨disk, disk, catalog, skipped, hmake _ (by simp), hmake _ (by simp),
    rfl, hload, rfl⟩, asLoaded_of_load hload, rfl, rfl, rfl⟩

section Folders

/-- A disk with the folders of a store: what is in them is what was there before. -/
structure WithFolders (root : Path) (disk after : Disk) : Prop where
  folders : ∀ folder ∈ [typesFolder, categoriesFolder], ∀ way, way <+: root.names ++ [folder] →
    after.entry? way = some .folder
  links : after.entry? (root.names ++ [linksFile]) = disk.entry? (root.names ++ [linksFile])
  inside : ∀ folder ∈ [typesFolder, categoriesFolder], ∀ file,
    after.entry? (root.names ++ [folder] ++ [file]) =
      disk.entry? (root.names ++ [folder] ++ [file])
  definitions : ∀ folder ∈ [typesFolder, categoriesFolder],
    definitionsIn (root.names ++ [folder]) after.entries =
      definitionsIn (root.names ++ [folder]) disk.entries

namespace WithFolders

variable (hwith : WithFolders root disk after) {folder : String}
  (hfolder : folder ∈ [typesFolder, categoriesFolder])

include hwith hfolder

theorem allText_iff :
    after.AllText (root.names ++ [folder]) ↔ disk.AllText (root.names ++ [folder]) := by
  simp only [Disk.AllText, hwith.inside folder hfolder]

theorem defines_iff {α : Type} {read : String → Decoded α} {file : String} {item : α} :
    after.Defines read (root.names ++ [folder]) file item ↔
      disk.Defines read (root.names ++ [folder]) file item := by
  constructor <;> rintro ⟨hfile, htext⟩
  · rw [hwith.inside folder hfolder] at htext
    exact ⟨hfile, htext⟩
  · rw [← hwith.inside folder hfolder] at htext
    exact ⟨hfile, htext⟩

end WithFolders

private theorem definitionsIn_putEntry {folder names : List String}
    (hnames : names.dropLast ≠ folder)
    {entry : DiskEntry} {entries : List (List String × DiskEntry)} :
    definitionsIn folder (Disk.putEntry names entry entries) = definitionsIn folder entries := by
  unfold definitionsIn
  congr 1
  induction entries with
  | nil => simp [Disk.putEntry, hnames]
  | cons first rest ih =>
      obtain ⟨way, old⟩ := first
      rw [Disk.putEntry]
      split
      · rfl
      · rw [List.filterMap_cons, List.filterMap_cons, ih]

/-- Making folders on a way that is not longer puts nothing into a folder. -/
private theorem definitionsIn_makeFoldersBelow {folder above rest : List String}
    (hlength : above.length + rest.length ≤ folder.length) :
    definitionsIn folder (disk.makeFoldersBelow above rest).2.entries =
      definitionsIn folder disk.entries := by
  induction rest generalizing disk above with
  | nil => rfl
  | cons name rest ih =>
      simp only [List.length_cons] at hlength
      have hrest : (above ++ [name]).length + rest.length ≤ folder.length := by
        rw [List.length_append, List.length_singleton]
        omega
      simp only [Disk.makeFoldersBelow]
      cases disk.entry? (above ++ [name]) with
      | none =>
          have hnames : (above ++ [name]).dropLast ≠ folder := by
            rw [List.dropLast_concat]
            rintro rfl
            omega
          exact (ih hrest).trans (definitionsIn_putEntry hnames)
      | some entry =>
          cases entry with
          | folder => exact ih hrest
          | file content => rfl

/-- The folders of a store can be made where no file is in their way. -/
theorem makeFolders_of_unblocked (hunblocked : ∀ folder ∈ [typesFolder, categoriesFolder],
    disk.Unblocked (root.names ++ [folder])) :
    ∃ first second, (makeFolders (root.names ++ [typesFolder])).run disk = .ok () first ∧
      (makeFolders (root.names ++ [categoriesFolder])).run first = .ok () second ∧
      WithFolders root disk second := by
  obtain ⟨first, hfirst, _, hfoundFirst⟩ :=
    Disk.entry?_makeFolders (hunblocked typesFolder (by simp))
  have hfree : first.Unblocked (root.names ++ [categoriesFolder]) := by
    intro way content hway
    rw [hfoundFirst]
    split
    · simp
    · exact hunblocked categoriesFolder (by simp) way content hway
  obtain ⟨second, hsecond, _, hfoundSecond⟩ := Disk.entry?_makeFolders hfree
  have hdefinitions : ∀ folder ∈ [typesFolder, categoriesFolder],
      definitionsIn (root.names ++ [folder]) second.entries =
        definitionsIn (root.names ++ [folder]) disk.entries := by
    intro folder _
    have hstep : ∀ (disk : Disk) (name : String),
        definitionsIn (root.names ++ [folder]) (disk.makeFolders (root.names ++ [name])).2.entries =
          definitionsIn (root.names ++ [folder]) disk.entries := fun disk name =>
      definitionsIn_makeFoldersBelow (by simp)
    have hmadeFirst := hstep disk typesFolder
    have hmadeSecond := hstep first categoriesFolder
    rw [hfirst] at hmadeFirst
    rw [hsecond] at hmadeSecond
    exact hmadeSecond.trans hmadeFirst
  refine ⟨first, second, makeFolders_run_eq_ok.mpr hfirst, makeFolders_run_eq_ok.mpr hsecond,
    ?_, ?_, ?_, hdefinitions⟩
  · intro folder hfolder way hway
    rw [hfoundSecond, hfoundFirst]
    simp only [List.mem_cons, List.not_mem_nil, or_false] at hfolder
    rcases hfolder with rfl | rfl <;> simp [hway]
  · rw [hfoundSecond, hfoundFirst, if_neg (by simp [linksFile, categoriesFolder]),
      if_neg (by simp [linksFile, typesFolder])]
  · intro folder _ file
    rw [hfoundSecond, hfoundFirst, if_neg (by simp), if_neg (by simp)]

/-- Without defaults a store is what is loaded once the folders are there. -/
theorem openAt_of_unblocked (hunblocked : ∀ folder ∈ [typesFolder, categoriesFolder],
    disk.Unblocked (root.names ++ [folder])) :
    ∃ after, WithFolders root disk after ∧
      ∀ store reached, (openAt format root []).run disk = .ok store reached ↔
        reached = after ∧ ∃ catalog skipped, load format after root = .ok (catalog, skipped) ∧
          store = {format, root, catalog, skipped, disk := after} := by
  obtain ⟨first, after, hfirst, hafter, hwith⟩ := makeFolders_of_unblocked hunblocked
  refine ⟨after, hwith, ?_⟩
  intro store reached
  rw [openAt_eq_ok]
  constructor
  · rintro ⟨_, _, catalog, skipped, hfirst', hafter', hseed, hload, rfl⟩
    rw [hfirst] at hfirst'
    cases hfirst'
    rw [hafter] at hafter'
    cases hafter'
    cases hseed
    exact ⟨rfl, catalog, skipped, hload, rfl⟩
  · rintro ⟨rfl, catalog, skipped, hload, rfl⟩
    exact ⟨first, reached, catalog, skipped, hfirst, hafter, rfl, hload, rfl⟩

end Folders

end DirectoryStore

end WorkSchema
