import WorkSchema.Proofs.Store.Keeping

/-!
Whether a definition that was saved is there when its store is opened again. Its file
still has it, but a definition goes by the id in its text and not by the name of its
file. So it can be hidden by a file of another name, and whether it is depends on the
order in which the files are listed.
-/

namespace WorkSchema

open DirectoryStore

namespace Disk

section Listing

variable {α : Type} {read : String → Decoded α} {disk listed : Disk} {root : Path}
  {names folder : List String} {name file : String} {entry : DiskEntry} {item : α}

theorem Defines.sameFiles (hdefines : disk.Defines read folder file item)
    (hsame : listed.SameFiles disk) : listed.Defines read folder file item := by
  obtain ⟨hfile, text, hentry, hread⟩ := hdefines
  exact ⟨hfile, text, (hsame _).trans hentry, hread⟩

/-- A disk that lists one of its files last. -/
def listLast (disk : Disk) (names : List String) (entry : DiskEntry) : Disk :=
  {disk with entries := disk.entries.filter (fun other => other.1 ≠ names) ++ [(names, entry)]}

theorem sameFiles_listLast (hnames : names ≠ []) (hentry : disk.entry? names = some entry) :
    (disk.listLast names entry).SameFiles disk := by
  intro way
  by_cases hroot : way = []
  · subst hroot
    rfl
  rw [Disk.entry?, entry?, if_neg (by simpa using hroot), if_neg (by simpa using hroot), listLast,
    List.lookup_append]
  by_cases hway : way = names
  · subst hway
    have hnone : (disk.entries.filter fun other => decide (other.1 ≠ way)).lookup way = none := by
      rw [List.lookup_eq_none_iff]
      intro other hmem
      have hother := (List.mem_filter.mp hmem).2
      rw [bne_iff_ne]
      exact Ne.symm (of_decide_eq_true hother)
    rw [Disk.entry?, if_neg (by simpa using hnames)] at hentry
    rw [hnone, hentry]
    simp
  · have hkeep := lookup_filter (fun other => decide (other ≠ names)) disk.entries
      (decide_eq_true hway)
    rw [hkeep, OrderedMap.lookup_cons_if, if_neg hway]
    simp

theorem items_listLast (hextension : Path.extensionOf? file = some extension)
    (hentry : disk.entry? (root.names ++ [name] ++ [file]) = some entry)
    (hitem : itemOf read disk (root.names ++ [name]) file = some item) :
    ∃ before, (contentsOf read (disk.listLast (root.names ++ [name] ++ [file]) entry) root
      name).items = before ++ [item] := by
  have hsame := sameFiles_listLast (by simp) hentry
  have hlast : itemOf read (disk.listLast (root.names ++ [name] ++ [file]) entry)
      (root.names ++ [name]) file = some item := by
    obtain ⟨text, htext, hread⟩ := itemOf_eq_some.mp hitem
    exact itemOf_eq_some.mpr ⟨text, (hsame _).trans htext, hread⟩
  have hfiles : definitionsIn (root.names ++ [name])
      (disk.listLast (root.names ++ [name] ++ [file]) entry).entries =
      definitionsIn (root.names ++ [name]) (disk.entries.filter fun other =>
        other.1 ≠ root.names ++ [name] ++ [file]) ++ [file] := by
    simp [definitionsIn, listLast, hextension]
  rw [contentsOf, contents, hfiles]
  simp only [List.filterMap_append, List.filterMap_cons, hlast, List.filterMap_nil]
  exact ⟨_, rfl⟩

variable [Ranked α]

/-- What a file says is found in every order of the files exactly if no file says anything
else under the same id. -/
theorem found_in_every_order_iff
    (hfolder : disk.entry? (root.names ++ [name]) = some .folder)
    (hown : disk.Defines read (root.names ++ [name]) file item) :
    (∀ listed : Disk, listed.SameFiles disk →
        (RankedList.ofList (contentsOf read listed root name).items).find? (rank item) =
          some item) ↔
      ∀ other rival, disk.Defines read (root.names ++ [name]) other rival →
        rank rival = rank item → rival = item := by
  constructor
  · intro hall other rival hrival hrank
    obtain ⟨text, hentry, hread⟩ := hrival.text
    obtain ⟨before, hitems⟩ := items_listLast hrival.extension hentry
      (itemOf_eq_some.mpr ⟨text, hentry, hread⟩)
    have hfound := hall _ (sameFiles_listLast (by simp) hentry)
    rw [RankedList.find?_ofList, hitems, List.reverse_append] at hfound
    simpa [hrank] using hfound
  · intro hone listed hsame
    have hfolder' : listed.entry? (root.names ++ [name]) = some .folder :=
      (hsame _).trans hfolder
    have hmem := (mem_items hfolder').mpr ⟨file, hown.sameFiles hsame⟩
    apply RankedList.find?_ofList_of_unique hmem
    intro rival hrival hrank
    obtain ⟨other, hother⟩ := (mem_items hfolder').mp hrival
    exact hone other rival (hother.sameFiles fun way => (hsame way).symm) hrank

end Listing

end Disk

/-- Whether a store opened on the same files, in whatever order they are listed, is one
of which something holds. -/
def Disk.ReopensWith (disk : Disk) (format : DefinitionFormat) (root : Path)
    (holds : Catalog → Prop) : Prop :=
  ∀ listed : Disk, listed.SameFiles disk →
    ∃ store reached, (openAt format root []).run listed = .ok store reached ∧
      holds store.catalog

namespace DirectoryStore

open StoreOperation

variable {format : DefinitionFormat} {root : Path} {defaults : List Category}
  {disk started : Disk} {opened store : DirectoryStore}

/-- What is loaded on a disk that can be read is known beforehand. -/
theorem reopensWith_iff {holds : Catalog → Prop} {found : Disk → Prop}
    (hreadable : disk.Readable format root)
    (hsame : ∀ store : DirectoryStore, store.AsLoaded → store.format = format →
      store.root = root → (holds store.catalog ↔ found store.disk)) :
    disk.ReopensWith format root holds ↔ ∀ listed : Disk, listed.SameFiles disk → found listed := by
  refine forall_congr' fun listed => imp_congr_right fun hlisted => ?_
  obtain ⟨store, hrun, hloaded, hformat, hroot, hdisk⟩ :=
    openAt_of_readable (hreadable.sameFiles hlisted)
  have hstore := hsame store hloaded hformat hroot
  rw [hdisk] at hstore
  rw [← hstore]
  constructor
  · rintro ⟨other, reached, hother, hholds⟩
    rw [hrun] at hother
    cases hother
    exact hholds
  · intro hholds
    exact ⟨store, listed, hrun, hholds⟩

/-- What is written in its own file is found again exactly if no file says anything else
under its id. -/
theorem reopensWith_iff_of_kept {α : Type} [Ranked α] {read : String → Decoded α}
    {name file text : String} {item : α} {holds : Catalog → Prop}
    (hname : name ∈ [typesFolder, categoriesFolder])
    (hkeeps : disk.Keeps format root [(root.names ++ [name] ++ [file], text)])
    (hfile : Path.extensionOf? file = some extension) (hreads : read text = .ok item)
    (hholds : ∀ store : DirectoryStore, store.AsLoaded → store.format = format →
      store.root = root → (holds store.catalog ↔
        (RankedList.ofList (contentsOf read store.disk root name).items).find? (rank item) =
          some item)) :
    disk.ReopensWith format root holds ↔
      ∀ other rival, disk.Defines read (root.names ++ [name]) other rival →
        rank rival = rank item → rival = item := by
  have hfolder := hkeeps.readable.folders name hname _ (List.prefix_refl _)
  have hentry := hkeeps.kept _ List.mem_cons_self
  have hown : disk.Defines read (root.names ++ [name]) file item := ⟨hfile, text, hentry, hreads⟩
  have hfound : disk.ReopensWith format root holds ↔ ∀ listed : Disk, listed.SameFiles disk →
      (RankedList.ofList (contentsOf read listed root name).items).find? (rank item) =
        some item := reopensWith_iff hkeeps.readable hholds
  rw [hfound, Disk.found_in_every_order_iff hfolder hown]

theorem reopensWith_type_iff {type : WorkItemType}
    (hkeeps : disk.Keeps format root [(typeFile root type.id, format.writeType type)])
    (hreads : format.readType (format.writeType type) = .ok type) :
    (disk.ReopensWith format root fun catalog => catalog.load type.id = .ok type) ↔
      ∀ file rival, disk.Defines format.readType (root.names ++ [typesFolder]) file rival →
        rival.id = type.id → rival = type := by
  have hid : ∀ rival : WorkItemType, rank rival = rank type ↔ rival.id = type.id :=
    fun rival => ⟨Identifier.rank_injective, congrArg rank⟩
  rw [typeFile_eq] at hkeeps
  simp only [← hid]
  refine reopensWith_iff_of_kept (by simp) hkeeps type.extensionOf?_fileName hreads ?_
  rintro store hloaded rfl rfl
  rw [Catalog.load_eq_ok, Catalog.type?, hloaded.types]
  rfl

theorem reopensWith_category_iff {category : Category}
    (hkeeps : disk.Keeps format root
      [(categoryFile root category.id, format.writeCategory category)])
    (hreads : format.readCategory (format.writeCategory category) = .ok category) :
    (disk.ReopensWith format root fun catalog =>
        catalog.loadCategory category.id = .ok category) ↔
      ∀ file rival, disk.Defines format.readCategory (root.names ++ [categoriesFolder]) file
        rival → rival.id = category.id → rival = category := by
  have hid : ∀ rival : Category, rank rival = rank category ↔ rival.id = category.id :=
    fun rival => ⟨Identifier.rank_injective, congrArg rank⟩
  rw [categoryFile_eq] at hkeeps
  simp only [← hid]
  refine reopensWith_iff_of_kept (by simp) hkeeps category.extensionOf?_fileName hreads ?_
  rintro store hloaded rfl rfl
  rw [Catalog.loadCategory_eq_ok, Catalog.category?, hloaded.categories]
  rfl

/-- A save that succeeded is there when its store is opened again, in whatever order the
files are listed then, exactly if no file says anything else under the same id. This is
so wherever the store was opened and whatever else was done, failed writes and closings
included, as long as the same id is not saved again. -/
theorem saved_reopens_iff
    (hopen : (openAt format root defaults).run disk = .ok opened started)
    (before later : List StoreOperation) :
    (∀ type : WorkItemType,
      let operations := before ++ .save type :: later
      let last := (after defaults opened operations).disk
      format.readType (format.writeType type) = .ok type →
      LinksReadBack format defaults opened operations →
      answer defaults (after defaults opened before) (.save type) = .ok .done →
      (∀ other, .save other ∈ later → other.id ≠ type.id) →
        ((last.ReopensWith format root fun catalog => catalog.load type.id = .ok type) ↔
          ∀ file rival, last.Defines format.readType (root.names ++ [typesFolder]) file rival →
            rival.id = type.id → rival = type)) ∧
    ∀ category : Category,
      let operations := before ++ .saveCategory category :: later
      let last := (after defaults opened operations).disk
      format.readCategory (format.writeCategory category) = .ok category →
      LinksReadBack format defaults opened operations →
      answer defaults (after defaults opened before) (.saveCategory category) = .ok .done →
      (∀ other, .saveCategory other ∈ later → other.id ≠ category.id) →
        ((last.ReopensWith format root fun catalog =>
            catalog.loadCategory category.id = .ok category) ↔
          ∀ file rival, last.Defines format.readCategory (root.names ++ [categoriesFolder]) file
            rival → rival.id = category.id → rival = category) := by
  constructor
  · intro type operations last hreads hlinks hsaved hlater
    have hkeeps := keeps_of_run hopen hlinks (fun hkeeps => keeps_saved hkeeps hsaved)
      (definitions_typeFile root type _) (spares_typeFile hlater)
    exact reopensWith_type_iff hkeeps.onDisk hreads
  · intro category operations last hreads hlinks hsaved hlater
    have hkeeps := keeps_of_run hopen hlinks (fun hkeeps => keeps_savedCategory hkeeps hsaved)
      (definitions_categoryFile root category _) (spares_categoryFile hlater)
    exact reopensWith_category_iff hkeeps.onDisk hreads

section Rival

/-- Types of one id that differ in their names. -/
def named (name : String) : WorkItemType := {id := .ofNat 2, name}

/-- Whether a type is the one of a name, as a test that evaluates. -/
private def isNamed (name : String) : WorkItemType → Bool
  | ⟨id, other, none, none, none, ⟨[], _⟩⟩ => id == (named name).id && other == name
  | _ => false

private theorem eq_of_isNamed {name : String} {type : WorkItemType}
    (hnamed : isNamed name type = true) : type = named name := by
  unfold isNamed at hnamed
  split at hnamed
  · simp only [Bool.and_eq_true, beq_iff_eq] at hnamed
    obtain ⟨rfl, rfl⟩ := hnamed
    rfl
  · cases hnamed

private theorem named_bug_readsBack :
    DefinitionFormat.yaml.readType (DefinitionFormat.yaml.writeType (named "Bug")) =
      .ok (named "Bug") :=
  Outcome.eq_ok_of_any (isNamed "Bug") (fun _ => eq_of_isNamed) (by decide +kernel)

private theorem named_rival_readsBack :
    DefinitionFormat.yaml.readType (DefinitionFormat.yaml.writeType (named "Rival")) =
      .ok (named "Rival") :=
  Outcome.eq_ok_of_any (isNamed "Rival") (fun _ => eq_of_isNamed) (by decide +kernel)

/-- A store folder with files of types in it. -/
def folderWith (files : List (String × String)) : Disk where
  entries := ([typesFolder], .folder) :: ([categoriesFolder], .folder) ::
    files.map fun (name, text) => ([typesFolder, name], .file text.toUTF8)

variable {files : List (String × String)}

private theorem mem_folderWith {way : List String} {entry : DiskEntry}
    (hentry : Disk.entry? (folderWith files) ((⟨"."⟩ : Path).names ++ way) = some entry) :
    way ∈ [[], [typesFolder], [categoriesFolder]] ∨
      ∃ file ∈ files, way = [typesFolder, file.1] ∧ entry = .file file.2.toUTF8 := by
  rw [Path.names_workingFolder, List.nil_append] at hentry
  cases way with
  | nil => exact Or.inl List.mem_cons_self
  | cons name rest =>
      have hmem := Disk.mem_entries_of_entry? (by simp) hentry
      simp only [folderWith, List.mem_cons, Prod.mk.injEq, List.mem_map] at hmem
      obtain ⟨hway, _⟩ | ⟨hway, _⟩ | ⟨file, hfile, hway, rfl⟩ := hmem
      · exact Or.inl (by simp [hway])
      · exact Or.inl (by simp [hway])
      · exact Or.inr ⟨file, hfile, hway.symm, rfl⟩

private theorem readable_folderWith : (folderWith files).Readable .yaml ⟨"."⟩ := by
  have htexts : ∀ folder, (folderWith files).AllText ((⟨"."⟩ : Path).names ++ [folder]) := by
    intro folder file entry _ hentry
    rw [List.append_assoc] at hentry
    obtain hfolder | ⟨found, _, _, rfl⟩ := mem_folderWith hentry
    · simp at hfolder
    · exact ⟨found.2, rfl⟩
  refine ⟨?_, htexts typesFolder, htexts categoriesFolder, ?_⟩
  · intro folder hfolder way hway
    rw [Path.names_workingFolder] at hway
    simp only [List.mem_cons, List.not_mem_nil, or_false] at hfolder
    rcases List.prefix_concat_iff.mp hway with rfl | habove
    · rcases hfolder with rfl | rfl <;> rfl
    · rw [List.prefix_nil.mp habove]
      rfl
  · intro entry hentry
    obtain hfolder | ⟨found, _, hway, _⟩ := mem_folderWith hentry
    · simp [linksFile, typesFolder, categoriesFolder] at hfolder
    · simp at hway

def bugFile : List String := typeFile ⟨"."⟩ (named "Bug").id

/-- Saving a type succeeds there, and all other files are as they were. -/
private theorem save_folderWith {opened : DirectoryStore} (hformat : opened.format = .yaml)
    (hroot : opened.root = ⟨"."⟩) (hdisk : opened.disk = folderWith files)
    (hfile : Disk.entry? (folderWith files) bugFile ≠ some .folder) :
    answer [] opened (.save (named "Bug")) = .ok .done ∧
      (folderWith files).Replaced (next [] opened (.save (named "Bug"))).disk bugFile
        (DefinitionFormat.yaml.writeType (named "Bug")).toUTF8 := by
  have hplace : Disk.entry? (folderWith files) bugFile.dropLast = some .folder := by
    rw [bugFile, typeFile_eq, List.dropLast_concat, Path.names_workingFolder]
    rfl
  obtain ⟨disk, hreplace, hreplaced⟩ := Disk.replace_eq_ok
    (DefinitionFormat.yaml.writeType (named "Bug")).toUTF8 rfl (by simp [bugFile, typeFile])
    hplace hfile
  have hrun : (TypeStore.save (named "Bug")).run opened =
      .ok () {opened with disk, catalog := opened.catalog.save (named "Bug")} := by
    refine (save_run _ _).trans (replace_run_eq_ok.mpr ⟨disk, ?_, rfl⟩)
    rw [replaceText_run_eq_ok, hformat, hroot, hdisk]
    exact hreplace
  unfold answer next
  rw [perform, endState_write, EStateM.run_bind, hrun]
  exact ⟨rfl, hreplaced⟩

private theorem bugFile_free : Disk.entry? (folderWith files) bugFile ≠ some .folder := by
  intro hentry
  obtain hfolder | ⟨_, _, _, hkind⟩ := mem_folderWith hentry
  · simp at hfolder
  · cases hkind

/-- A copy under another name hides nothing. -/
theorem saved_reopens_beside_copy :
    let copied := folderWith [("copy.yaml", DefinitionFormat.yaml.writeType (named "Bug"))]
    ∃ opened, (openAt .yaml ⟨"."⟩ []).run copied = .ok opened copied ∧
      (after [] opened [.save (named "Bug")]).disk.ReopensWith .yaml ⟨"."⟩ fun catalog =>
        catalog.load (named "Bug").id = .ok (named "Bug") := by
  intro copied
  obtain ⟨opened, hopen, _, hformat, hroot, hdisk⟩ := openAt_of_readable readable_folderWith
  obtain ⟨hsaved, hreplaced⟩ := save_folderWith hformat hroot hdisk bugFile_free
  refine ⟨opened, hopen, ((saved_reopens_iff hopen [] []).1 (named "Bug") named_bug_readsBack
    ⟨nofun, trivial⟩ hsaved nofun).mpr ?_⟩
  intro file rival hrival _
  obtain ⟨text, hentry, hread⟩ := hrival.text
  have htext : text.toUTF8 = (DefinitionFormat.yaml.writeType (named "Bug")).toUTF8 := by
    have hfound := (hreplaced.found _).symm.trans hentry
    split at hfound
    · exact (DiskEntry.file.inj (Option.some.inj hfound)).symm
    · rw [List.append_assoc] at hfound
      obtain hfolder | ⟨copy, hcopy, _, hkind⟩ := mem_folderWith hfound
      · simp at hfolder
      · rw [List.mem_singleton.mp hcopy] at hkind
        exact DiskEntry.file.inj hkind
  rw [String.toByteArray_inj.mp htext, named_bug_readsBack] at hread
  cases hread
  rfl

/-- A file of another name that says something else under the id hides what was saved. -/
theorem saved_hidden_by_rival :
    let rivalled := folderWith [("rival.yaml", DefinitionFormat.yaml.writeType (named "Rival"))]
    ∃ opened, (openAt .yaml ⟨"."⟩ []).run rivalled = .ok opened rivalled ∧
      DefinitionFormat.yaml.readType (DefinitionFormat.yaml.writeType (named "Bug")) =
        .ok (named "Bug") ∧
      answer [] opened (.save (named "Bug")) = .ok .done ∧
      ¬ (after [] opened [.save (named "Bug")]).disk.ReopensWith .yaml ⟨"."⟩ fun catalog =>
        catalog.load (named "Bug").id = .ok (named "Bug") := by
  intro rivalled
  obtain ⟨opened, hopen, _, hformat, hroot, hdisk⟩ := openAt_of_readable readable_folderWith
  obtain ⟨hsaved, hreplaced⟩ := save_folderWith hformat hroot hdisk bugFile_free
  refine ⟨opened, hopen, named_bug_readsBack, hsaved, ?_⟩
  have hstart : opened.Keeps .yaml ⟨"."⟩ [] := ⟨hformat, hroot, hdisk ▸ readable_folderWith, nofun⟩
  have hkeeps := keeps_saved hstart hsaved
  have hrival : Disk.Defines (next [] opened (.save (named "Bug"))).disk
      DefinitionFormat.yaml.readType ((⟨"."⟩ : Path).names ++ [typesFolder]) "rival.yaml"
      (named "Rival") := by
    have hother : (⟨"."⟩ : Path).names ++ [typesFolder] ++ ["rival.yaml"] ≠ bugFile := by
      rw [bugFile, typeFile, Path.names_workingFolder]
      decide
    refine ⟨by decide +kernel, _, (hreplaced.other hother).trans ?_, named_rival_readsBack⟩
    rw [Path.names_workingFolder]
    rfl
  intro hreopens
  have hsame := (reopensWith_type_iff hkeeps.onDisk named_bug_readsBack).mp hreopens _ _ hrival rfl
  have hnames := congrArg WorkItemType.name hsame
  revert hnames
  decide

end Rival

end DirectoryStore

end WorkSchema
