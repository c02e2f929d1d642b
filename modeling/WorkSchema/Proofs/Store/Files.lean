import WorkSchema.Proofs.Disk.Basic
import WorkSchema.Proofs.Identifier
import WorkSchema.Proofs.Outcome
import WorkSchema.Proofs.Collection.RankedList
import WorkSchema.Store.Directory

/-!
What the files of a store say. A disk records a catalog if each type and category is in
a file of its own, all links are in one file, and there is nothing else to be read. A
disk that records a catalog, all of which reads back from its texts, is loaded as that
catalog, so a store that is opened there has it again.
-/

namespace WorkSchema

namespace DirectoryStore

theorem toList_fileName (id : String) :
    fileName id = String.ofList (id.toList ++ '.' :: ['y', 'a', 'm', 'l']) := by
  apply String.toList_injective
  simp [fileName, extension]

theorem fileName_injective {a b : String} (hsame : fileName a = fileName b) : a = b := by
  rw [toList_fileName, toList_fileName] at hsame
  exact String.toList_injective (List.append_cancel_right (String.ofList_injective hsame))

theorem extensionOf?_fileName {entity : Entity} (id : Identifier entity) :
    Path.extensionOf? (fileName id.toText) = some extension := by
  rw [toList_fileName]
  exact Path.extensionOf?_of_dot id.toText_ne_empty (by decide) rfl

theorem fileName_eq_iff {entity : Entity} {a b : Identifier entity} :
    fileName a.toText = fileName b.toText ↔ rank a = rank b := by
  constructor
  · intro hsame
    rw [Identifier.toText_injective (fileName_injective hsame)]
  · intro hrank
    rw [Identifier.rank_injective hrank]

end DirectoryStore

section Folder

variable {α : Type} [Ranked α] {disk after : Disk} {folder : List String} {file text : α → String}
  {list : RankedList α}

/-- Whether a folder has a file for each element of a list, with its text, and
nothing else. -/
def Disk.HoldsAll (disk : Disk) (folder : List String) (file text : α → String)
    (list : RankedList α) : Prop :=
  ∀ name entry, disk.entry? (folder ++ [name]) = some entry ↔
    ∃ a ∈ list.elements, name = file a ∧ entry = .file (text a).toUTF8

namespace Disk.HoldsAll

theorem congr (hholds : disk.HoldsAll folder file text list)
    (hsame : ∀ name, after.entry? (folder ++ [name]) = disk.entry? (folder ++ [name])) :
    after.HoldsAll folder file text list := by
  intro name entry
  rw [hsame]
  exact hholds name entry

variable (hfile : ∀ a b, file a = file b ↔ rank a = rank b)

include hfile

theorem insert (hholds : disk.HoldsAll folder file text list) {a : α}
    (hreplaced : disk.Replaced after (folder ++ [file a]) (text a).toUTF8) :
    after.HoldsAll folder file text (list.insert a) := by
  intro name entry
  rw [hreplaced.found]
  by_cases hname : name = file a
  · subst hname
    rw [if_pos rfl]
    constructor
    · intro hentry
      cases hentry
      exact ⟨a, RankedList.mem_insert_iff.mpr (Or.inl rfl), rfl, rfl⟩
    · rintro ⟨b, hmem, hsame, rfl⟩
      rcases RankedList.mem_insert_iff.mp hmem with rfl | ⟨hne, _⟩
      · rfl
      · exact absurd ((hfile b a).mp hsame.symm) hne
  · have hother : folder ++ [name] ≠ folder ++ [file a] := by simpa using hname
    rw [if_neg hother, hholds]
    constructor
    · rintro ⟨b, hmem, rfl, rfl⟩
      have hne : rank b ≠ rank a := fun hrank => hname ((hfile b a).mpr hrank)
      exact ⟨b, RankedList.mem_insert_iff.mpr (Or.inr ⟨hne, hmem⟩), rfl, rfl⟩
    · rintro ⟨b, hmem, rfl, rfl⟩
      rcases RankedList.mem_insert_iff.mp hmem with rfl | ⟨_, hold⟩
      · exact absurd rfl hname
      · exact ⟨b, hold, rfl, rfl⟩

/-- There is a file for an element exactly if one of its rank is in the list. -/
theorem contains_iff (hholds : disk.HoldsAll folder file text list) (a : α) :
    disk.contains (folder ++ [file a]) = list.contains (rank a) := by
  rw [Bool.eq_iff_iff, Disk.contains, RankedList.contains, Option.isSome_iff_exists,
    Option.isSome_iff_exists]
  constructor
  · rintro ⟨entry, hentry⟩
    obtain ⟨b, hmem, hname, _⟩ := (hholds _ _).mp hentry
    rw [(hfile a b).mp hname]
    exact ⟨b, RankedList.find?_of_mem hmem⟩
  · rintro ⟨b, hfound⟩
    have hname : file a = file b := (hfile a b).mpr (RankedList.rank_of_find? hfound).symm
    exact ⟨_, (hholds _ _).mpr ⟨b, RankedList.mem_of_find? hfound, hname, rfl⟩⟩

variable {read : String → Decoded α}

private theorem loadFiles_eq_ok (hholds : disk.HoldsAll folder file text list) (path : Path)
    (hextension : ∀ a, Path.extensionOf? (file a) = some DirectoryStore.extension)
    (hread : ∀ a ∈ list.elements, read (text a) = .ok a) {files : List String}
    (hfiles : ∀ name ∈ files, ∃ a ∈ list.elements, name = file a) :
    ∃ items, DirectoryStore.loadFiles read disk path folder files = .ok {items, skipped := []} ∧
      ∀ a, a ∈ items ↔ a ∈ list.elements ∧ file a ∈ files := by
  induction files with
  | nil => exact ⟨[], rfl, by simp⟩
  | cons name rest ih =>
      obtain ⟨⟨a, hmem, rfl⟩, hrest⟩ := List.forall_mem_cons.mp hfiles
      obtain ⟨items, hitems, hsame⟩ := ih hrest
      refine ⟨a :: items, ?_, ?_⟩
      · have htext := Disk.readText_eq_ok ((hholds _ _).mpr ⟨a, hmem, rfl, rfl⟩)
        simp only [DirectoryStore.loadFiles, hextension, if_true, htext, hitems, hread a hmem]
        rfl
      · intro b
        rw [List.mem_cons, hsame, List.mem_cons]
        constructor
        · rintro (rfl | ⟨hb, hin⟩)
          · exact ⟨hmem, Or.inl rfl⟩
          · exact ⟨hb, Or.inr hin⟩
        · rintro ⟨hb, hname | hin⟩
          · left
            have hfound := RankedList.find?_of_mem hb
            rw [(hfile b a).mp hname, RankedList.find?_of_mem hmem] at hfound
            cases hfound
            rfl
          · exact Or.inr ⟨hb, hin⟩

/-- A folder that holds the elements of a list is loaded as these elements, in some
order, and no file of it is skipped. -/
theorem loadFolder_eq_ok {root : Path} {name : String}
    (hholds : disk.HoldsAll (root.names ++ [name]) file text list)
    (hfolder : disk.entry? (root.names ++ [name]) = some .folder)
    (hextension : ∀ a, Path.extensionOf? (file a) = some DirectoryStore.extension)
    (hread : ∀ a ∈ list.elements, read (text a) = .ok a) :
    ∃ items, DirectoryStore.loadFolder read disk root name = .ok {items, skipped := []} ∧
      RankedList.ofList items = list := by
  obtain ⟨files, hlist, hlisted⟩ := Disk.list_eq_ok hfolder
  have hfiles : ∀ name ∈ files, ∃ a ∈ list.elements, name = file a := by
    intro name hname
    obtain ⟨entry, hentry⟩ := Option.isSome_iff_exists.mp ((hlisted name).mp hname)
    obtain ⟨a, hmem, rfl, _⟩ := (hholds _ _).mp hentry
    exact ⟨a, hmem, rfl⟩
  obtain ⟨items, hitems, hsame⟩ :=
    loadFiles_eq_ok hfile hholds (root.join name) hextension hread hfiles
  refine ⟨items, ?_, RankedList.ofList_eq ?_⟩
  · simp only [DirectoryStore.loadFolder, hlist, hitems]
  · intro a
    rw [hsame, and_iff_left_iff_imp]
    intro hmem
    rw [hlisted, (hholds _ _).mpr ⟨a, hmem, rfl, rfl⟩]
    rfl

end Disk.HoldsAll

end Folder

/-- The name of the file of a type. -/
def WorkItemType.fileName (type : WorkItemType) : String :=
  DirectoryStore.fileName type.id.toText

theorem WorkItemType.fileName_eq_iff (a b : WorkItemType) :
    a.fileName = b.fileName ↔ rank a = rank b := DirectoryStore.fileName_eq_iff

theorem WorkItemType.extensionOf?_fileName (type : WorkItemType) :
    Path.extensionOf? type.fileName = some DirectoryStore.extension :=
  DirectoryStore.extensionOf?_fileName type.id

/-- The name of the file of a category. -/
def Category.fileName (category : Category) : String :=
  DirectoryStore.fileName category.id.toText

theorem Category.fileName_eq_iff (a b : Category) :
    a.fileName = b.fileName ↔ rank a = rank b := DirectoryStore.fileName_eq_iff

theorem Category.extensionOf?_fileName (category : Category) :
    Path.extensionOf? category.fileName = some DirectoryStore.extension :=
  DirectoryStore.extensionOf?_fileName category.id

theorem DirectoryStore.typeFile_eq (root : Path) (type : WorkItemType) :
    typeFile root type.id = root.names ++ [typesFolder] ++ [type.fileName] := by
  rw [List.append_assoc]
  rfl

theorem DirectoryStore.categoryFile_eq (root : Path) (category : Category) :
    categoryFile root category.id =
      root.names ++ [categoriesFolder] ++ [category.fileName] := by
  rw [List.append_assoc]
  rfl

/-- Whether everything in a catalog reads back from its text. -/
structure Catalog.ReadsBack (catalog : Catalog) (format : DefinitionFormat) : Prop where
  types : ∀ type ∈ catalog.types.elements, format.readType (format.writeType type) = .ok type
  categories : ∀ category ∈ catalog.categories.elements,
    format.readCategory (format.writeCategory category) = .ok category
  links : catalog.links.elements ≠ [] →
    format.readLinks (format.writeLinks catalog.links.elements) = .ok catalog.links.elements

/-- Whether both ends of every link are known. -/
def Catalog.LinksKnown (catalog : Catalog) : Prop :=
  ∀ link ∈ catalog.links.elements,
    (catalog.type? link.type).isSome ∧ (catalog.category? link.category).isSome

open DirectoryStore in
/-- Whether a disk says exactly what is in a catalog. The folders need not be there
yet if there is nothing in them. -/
structure Disk.Records (disk : Disk) (format : DefinitionFormat) (root : Path)
    (catalog : Catalog) : Prop where
  faultless : disk.faults = []
  unblocked : ∀ folder ∈ [typesFolder, categoriesFolder], disk.Unblocked (root.names ++ [folder])
  types : disk.HoldsAll (root.names ++ [typesFolder]) WorkItemType.fileName format.writeType
    catalog.types
  categories : disk.HoldsAll (root.names ++ [categoriesFolder]) Category.fileName
    format.writeCategory catalog.categories
  links : ∀ entry, disk.entry? (root.names ++ [linksFile]) = some entry ↔
    catalog.links.elements ≠ [] ∧ entry = .file (format.writeLinks catalog.links.elements).toUTF8

namespace Disk.Records

open DirectoryStore

variable {format : DefinitionFormat} {root : Path} {disk after : Disk} {catalog : Catalog}

/-- A disk records what was saved once its file is replaced. -/
theorem save (hrecords : disk.Records format root catalog) {type : WorkItemType}
    (hreplaced : disk.Replaced after (typeFile root type.id) (format.writeType type).toUTF8) :
    after.Records format root (catalog.save type) where
  faultless := hreplaced.faultless
  unblocked folder hfolder :=
    (hrecords.unblocked folder hfolder).replaced hreplaced (by simp [typeFile])
  types := by
    apply hrecords.types.insert WorkItemType.fileName_eq_iff
    rw [typeFile_eq] at hreplaced
    exact hreplaced
  categories := hrecords.categories.congr fun name =>
    hreplaced.other (by simp [typeFile, typesFolder, categoriesFolder])
  links entry := by
    rw [hreplaced.other (by simp [typeFile])]
    exact hrecords.links entry

theorem saveCategory (hrecords : disk.Records format root catalog) {category : Category}
    (hreplaced : disk.Replaced after (categoryFile root category.id)
      (format.writeCategory category).toUTF8) :
    after.Records format root (catalog.saveCategory category) where
  faultless := hreplaced.faultless
  unblocked folder hfolder :=
    (hrecords.unblocked folder hfolder).replaced hreplaced (by simp [categoryFile])
  types := hrecords.types.congr fun name =>
    hreplaced.other (by simp [categoryFile, typesFolder, categoriesFolder])
  categories := by
    apply hrecords.categories.insert Category.fileName_eq_iff
    rw [categoryFile_eq] at hreplaced
    exact hreplaced
  links entry := by
    rw [hreplaced.other (by simp [categoryFile])]
    exact hrecords.links entry

theorem link (hrecords : disk.Records format root catalog) {links : RankedList CategoryLink}
    (hlinks : links.elements ≠ [])
    (hreplaced : disk.Replaced after (root.names ++ [linksFile])
      (format.writeLinks links.elements).toUTF8) :
    after.Records format root {catalog with links} where
  faultless := hreplaced.faultless
  unblocked folder hfolder := by
    refine (hrecords.unblocked folder hfolder).replaced hreplaced ?_
    simp only [List.mem_cons, List.not_mem_nil, or_false] at hfolder
    rcases hfolder with rfl | rfl <;> simp [linksFile, typesFolder, categoriesFolder]
  types := hrecords.types.congr fun name => hreplaced.other (by simp)
  categories := hrecords.categories.congr fun name => hreplaced.other (by simp)
  links entry := by
    rw [hreplaced.found, if_pos rfl, Option.some.injEq, eq_comm]
    simp [hlinks]

end Disk.Records

namespace DirectoryStore

variable {format : DefinitionFormat} {root : Path} {disk after : Disk} {catalog : Catalog}

theorem foldl_save (items : List WorkItemType) (catalog : Catalog) :
    items.foldl Catalog.save catalog = {catalog with types := catalog.types.insertAll items} := by
  induction items generalizing catalog with
  | nil => rfl
  | cons type rest ih => exact ih (catalog.save type)

theorem foldl_saveCategory (items : List Category) (catalog : Catalog) :
    items.foldl Catalog.saveCategory catalog =
      {catalog with categories := catalog.categories.insertAll items} := by
  induction items generalizing catalog with
  | nil => rfl
  | cons category rest ih => exact ih (catalog.saveCategory category)

theorem foldl_addKnownLink {links : List CategoryLink} {catalog : Catalog}
    (hknown : ∀ link ∈ links,
      (catalog.type? link.type).isSome ∧ (catalog.category? link.category).isSome) :
    links.foldl Catalog.addKnownLink catalog =
      {catalog with links := catalog.links.insertAll links} := by
  induction links generalizing catalog with
  | nil => rfl
  | cons link rest ih =>
      obtain ⟨⟨htype, hcategory⟩, hrest⟩ := List.forall_mem_cons.mp hknown
      have hadd : catalog.addKnownLink link =
          {catalog with links := catalog.links.insert link} := by
        simp [Catalog.addKnownLink, htype, hcategory]
      rw [List.foldl_cons, hadd]
      exact ih hrest

private theorem loadLinks_eq_ok (hrecords : disk.Records format root catalog)
    (hreads : catalog.ReadsBack format) :
    loadLinks format disk root = .ok catalog.links.elements := by
  simp only [loadLinks]
  by_cases hnone : catalog.links.elements = []
  · have habsent : disk.contains (root.names ++ [linksFile]) = false := by
      rw [Disk.contains, Option.isSome_eq_false_iff, Option.isNone_iff_eq_none,
        Option.eq_none_iff_forall_ne_some]
      intro entry hentry
      exact ((hrecords.links entry).mp hentry).1 hnone
    rw [habsent, hnone]
    rfl
  · have hentry := (hrecords.links _).mpr ⟨hnone, rfl⟩
    rw [Disk.contains, hentry, Disk.readText_eq_ok hentry]
    simp only [Option.isSome_some, if_true, hreads.links hnone]
    rfl

/-- A disk that records a catalog is loaded as that catalog. -/
theorem load_eq_ok (hrecords : disk.Records format root catalog)
    (hfolders : ∀ folder ∈ [typesFolder, categoriesFolder],
      disk.entry? (root.names ++ [folder]) = some .folder)
    (hreads : catalog.ReadsBack format) (hknown : catalog.LinksKnown) :
    load format disk root = .ok (catalog, []) := by
  obtain ⟨types, htypes, hsameTypes⟩ := hrecords.types.loadFolder_eq_ok
    WorkItemType.fileName_eq_iff (hfolders typesFolder (by simp))
    WorkItemType.extensionOf?_fileName hreads.types
  obtain ⟨categories, hcategories, hsameCategories⟩ := hrecords.categories.loadFolder_eq_ok
    Category.fileName_eq_iff (hfolders categoriesFolder (by simp))
    Category.extensionOf?_fileName hreads.categories
  have hloaded : load format disk root =
      .ok (catalog.links.elements.foldl Catalog.addKnownLink
        (categories.foldl Catalog.saveCategory (types.foldl Catalog.save {})), []) := by
    rw [load, htypes, hcategories, loadLinks_eq_ok hrecords hreads]
    rfl
  have hdefinitions : categories.foldl Catalog.saveCategory (types.foldl Catalog.save {}) =
      {types := catalog.types, categories := catalog.categories} := by
    rw [foldl_save, foldl_saveCategory, ← hsameTypes, ← hsameCategories]
    rfl
  have hlinks : ({} : RankedList CategoryLink).insertAll catalog.links.elements = catalog.links :=
    RankedList.ofList_elements catalog.links
  have hadded := @foldl_addKnownLink catalog.links.elements
    {types := catalog.types, categories := catalog.categories} hknown
  rw [hloaded, hdefinitions, hadded, hlinks]

end DirectoryStore

end WorkSchema
