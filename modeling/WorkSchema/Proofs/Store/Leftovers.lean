import WorkSchema.Proofs.Store.Laws
import WorkSchema.Proofs.Store.Loading

/-!
What failed writes leave behind. A write that fails may leave a temporary file in a
folder of the store, under a hidden name that no definition has. Disks that differ in
such files only are opened as the same store.
-/

namespace WorkSchema

namespace DirectoryStore

/-- Whether a name begins with a dot and is not that of a definition. -/
def isHidden (name : String) : Bool :=
  name.toList.head? == some '.' && Path.extensionOf? name != some extension

/-- The folders that a store writes to. -/
def folders (root : Path) : List (List String) :=
  [root.names, root.names ++ [typesFolder], root.names ++ [categoriesFolder]]

theorem dropLast_typeFile_mem (root : Path) (type : WorkItemType) :
    (typeFile root type.id).dropLast ∈ folders root := by
  rw [typeFile_eq, List.dropLast_concat]
  simp [folders]

theorem dropLast_categoryFile_mem (root : Path) (category : Category) :
    (categoryFile root category.id).dropLast ∈ folders root := by
  rw [categoryFile_eq, List.dropLast_concat]
  simp [folders]

theorem dropLast_linksFile_mem (root : Path) :
    (root.names ++ [linksFile]).dropLast ∈ folders root := by
  rw [List.dropLast_concat]
  simp [folders]

/-- Whether something may have been left behind by a failed write: it lies in a folder
of the store and is hidden. -/
def isLeftover (root : Path) (way : List String) : Bool :=
  decide (way.dropLast ∈ folders root) && way.getLast?.any isHidden

theorem isHidden_temporaryName (disk : Disk) : isHidden disk.temporaryName = true := by
  have hdigits : '.' ∉ Nat.toDigits 10 disk.temporaries := by
    intro hmem
    have hdigit := Nat.isDigit_of_mem_toDigits (by decide) (by decide) hmem
    revert hdigit
    decide
  have hplain : '.' ∉ 't' :: 'm' :: 'p' :: '_' :: (toString disk.temporaries).toList := by
    simp [hdigits]
  have hname : disk.temporaryName =
      String.ofList ('.' :: 't' :: 'm' :: 'p' :: '_' :: (toString disk.temporaries).toList) := by
    apply String.toList_injective
    simp [Disk.temporaryName, Disk.temporaryMark]
  rw [isHidden, hname, Path.extensionOf?_of_hidden hplain rfl, String.toList_ofList]
  rfl

theorem isHidden_of_extension {name : String}
    (hname : Path.extensionOf? name = some extension) : isHidden name = false := by
  rw [isHidden, hname]
  simp

variable {root : Path} {way : List String}

theorem isLeftover_append {folder : List String} (hfolder : folder ∈ folders root) (name : String) :
    isLeftover root (folder ++ [name]) = isHidden name := by
  simp [isLeftover, hfolder]

theorem not_isLeftover_of_not_isHidden (root : Path) (folder : List String) {name : String}
    (hname : isHidden name = false) : isLeftover root (folder ++ [name]) = false := by
  simp [isLeftover, hname]

/-- What is on the way to the folder of a store is not left behind by it. -/
theorem not_isLeftover_of_prefix (hway : way <+: root.names) : isLeftover root way = false := by
  rw [isLeftover, Bool.and_eq_false_iff, decide_eq_false_iff_not]
  rcases List.eq_nil_or_concat way with rfl | ⟨before, last, rfl⟩
  · exact Or.inr rfl
  · left
    rw [List.concat_eq_append] at hway ⊢
    have hlength := hway.length_le
    intro hmem
    simp only [folders, List.dropLast_concat, List.mem_cons, List.not_mem_nil, or_false] at hmem
    rcases hmem with rfl | rfl | rfl
    all_goals
      simp only [List.length_append, List.length_singleton] at hlength
      omega

end DirectoryStore

open DirectoryStore in
/-- Whether two disks differ at most in what failed writes left behind. -/
def Disk.Alike (root : Path) (a b : Disk) : Prop :=
  a.entries.filter (fun entry => !isLeftover root entry.1) =
    b.entries.filter fun entry => !isLeftover root entry.1

namespace Disk.Alike

open DirectoryStore

variable {root : Path} {a b after after' : Disk} {names way : List String}

theorem refl (root : Path) (disk : Disk) : disk.Alike root disk := rfl

theorem symm (halike : a.Alike root b) : b.Alike root a := Eq.symm halike

theorem entry?_eq (halike : a.Alike root b) (hway : isLeftover root way = false) :
    a.entry? way = b.entry? way := by
  have hkeep : (!isLeftover root way) = true := by rw [hway]; rfl
  have ha := lookup_filter (fun way => !isLeftover root way) a.entries hkeep
  have hb := lookup_filter (fun way => !isLeftover root way) b.entries hkeep
  rw [Disk.entry?, Disk.entry?, ← ha, ← hb, halike]

theorem contains_eq (halike : a.Alike root b) (hway : isLeftover root way = false) :
    a.contains way = b.contains way := by
  rw [Disk.contains, Disk.contains, halike.entry?_eq hway]

/-- The same put on both disks leaves them alike. -/
theorem putEntry (halike : a.Alike root b) {entry : DiskEntry}
    (ha : after.entries = Disk.putEntry names entry a.entries)
    (hb : after'.entries = Disk.putEntry names entry b.entries) : after.Alike root after' := by
  have hput := filter_putEntry fun way => !isLeftover root way
  rw [Alike, ha, hb, hput, hput, halike]

/-- A leftover makes no difference. -/
theorem leftover {entry : DiskEntry} (hnames : isLeftover root names = true)
    (hafter : after.entries = Disk.putEntry names entry a.entries) : a.Alike root after := by
  have hput := filter_putEntry (fun way => !isLeftover root way) names entry a.entries
  rw [hnames] at hput
  rw [Alike, hafter, hput]
  rfl

theorem readText (halike : a.Alike root b) (hnames : isLeftover root names = false)
    {text : String} (hread : a.readText names = .ok text) : b.readText names = .ok text := by
  have hentry := halike.entry?_eq hnames
  unfold Disk.readText Disk.readBytes at hread ⊢
  rw [← hentry]
  cases hfound : a.entry? names with
  | some entry =>
      rw [hfound] at hread
      cases entry <;> exact hread
  | none =>
      rw [hfound] at hread
      cases hread

section Loading

variable {α : Type} {read : String → Decoded α} {path : Path} {folder : List String}

/-- Files without the extension of definitions are passed over. -/
private theorem loadFiles_filter (disk : Disk) (files : List String) :
    loadFiles read disk path folder files =
      loadFiles read disk path folder
        (files.filter fun file => Path.extensionOf? file = some extension) := by
  induction files with
  | nil => rfl
  | cons file rest ih =>
      rw [List.filter_cons]
      by_cases hfile : Path.extensionOf? file = some extension
      · simp only [hfile, decide_true, if_true, loadFiles]
        rw [ih]
      · simp only [hfile, decide_false, Bool.false_eq_true, if_false, loadFiles]
        exact ih

private theorem loadFiles_eq_ok (halike : a.Alike root b) {files : List String}
    {loaded : Loaded α} (hload : loadFiles read a path folder files = .ok loaded) :
    loadFiles read b path folder files = .ok loaded := by
  induction files generalizing loaded with
  | nil => exact hload
  | cons file rest ih =>
      unfold loadFiles at hload ⊢
      split
      · rename_i hfile
        rw [if_pos hfile] at hload
        cases htext : a.readText (folder ++ [file]) with
        | error error =>
            rw [htext] at hload
            cases hload
        | ok text =>
            have hplain := not_isLeftover_of_not_isHidden root folder
              (isHidden_of_extension hfile)
            rw [halike.readText hplain htext]
            rw [htext] at hload
            obtain ⟨found, hfound, hrest⟩ := Outcome.bind_eq_ok.mp hload
            exact Outcome.bind_eq_ok.mpr ⟨found, ih hfound, hrest⟩
      · rename_i hfile
        rw [if_neg hfile] at hload
        exact ih hload

private theorem definitionsIn_filter (root : Path) (folder : List String)
    (entries : List (List String × DiskEntry)) :
    definitionsIn folder (entries.filter fun entry => !isLeftover root entry.1) =
      definitionsIn folder entries := by
  induction entries with
  | nil => rfl
  | cons first rest ih =>
      obtain ⟨way, content⟩ := first
      unfold definitionsIn at ih ⊢
      cases hleft : isLeftover root way with
      | false =>
          simp only [List.filter_cons, hleft, Bool.not_false, if_true, List.filterMap_cons]
          split
          · exact ih
          · rw [List.filter_cons, List.filter_cons, ih]
      | true =>
          simp only [List.filter_cons, hleft, Bool.not_true, Bool.false_eq_true, if_false,
            List.filterMap_cons]
          split
          · exact ih
          · rename_i name hname
            split at hname
            · have hhidden : isHidden name = true := by
                rw [isLeftover, hname, Bool.and_eq_true] at hleft
                exact hleft.2
              have hother : ¬ Path.extensionOf? name = some extension := by
                intro hextension
                rw [isHidden_of_extension hextension] at hhidden
                cases hhidden
              rw [List.filter_cons, decide_eq_false hother, ih]
              rfl
            · cases hname

/-- A folder of the store lists the same definitions on both disks. -/
private theorem list_eq_ok (halike : a.Alike root b)
    (hplain : isLeftover root folder = false) {files : List String}
    (hlist : a.list folder = .ok files) :
    ∃ files', b.list folder = .ok files' ∧
      files'.filter (fun file => Path.extensionOf? file = some extension) =
        files.filter fun file => Path.extensionOf? file = some extension := by
  have hentry := halike.entry?_eq hplain
  have hsame : definitionsIn folder b.entries = definitionsIn folder a.entries := by
    rw [← definitionsIn_filter root, ← definitionsIn_filter root folder a.entries, halike]
  unfold Disk.list at hlist ⊢
  rw [← hentry]
  cases hfound : a.entry? folder with
  | none =>
      rw [hfound] at hlist
      cases hlist
  | some entry =>
      rw [hfound] at hlist
      cases entry with
      | file content => cases hlist
      | folder =>
          cases hlist
          exact ⟨_, rfl, hsame⟩

private theorem loadFolder_eq_ok (halike : a.Alike root b) {name : String}
    (hname : isHidden name = false)
    {loaded : Loaded α} (hload : loadFolder read a root name = .ok loaded) :
    loadFolder read b root name = .ok loaded := by
  simp only [loadFolder] at hload ⊢
  cases hlist : a.list (root.names ++ [name]) with
  | error error =>
      rw [hlist] at hload
      cases hload
  | ok files =>
      obtain ⟨files', hlist', hsame⟩ :=
        halike.list_eq_ok (not_isLeftover_of_not_isHidden root root.names hname) hlist
      rw [hlist] at hload
      rw [hlist']
      simp only at hload ⊢
      rw [loadFiles_filter] at hload ⊢
      rw [hsame]
      exact halike.loadFiles_eq_ok hload

end Loading

private theorem loadLinks_eq_ok (halike : a.Alike root b) {format : DefinitionFormat}
    {links : List CategoryLink} (hload : loadLinks format a root = .ok links) :
    loadLinks format b root = .ok links := by
  have hplain : isLeftover root (root.names ++ [linksFile]) = false :=
    not_isLeftover_of_not_isHidden root root.names (by decide)
  simp only [loadLinks, halike.contains_eq hplain] at hload ⊢
  by_cases hfound : b.contains (root.names ++ [linksFile]) = true
  · rw [if_pos hfound] at hload ⊢
    cases htext : a.readText (root.names ++ [linksFile]) with
    | error error =>
        rw [htext] at hload
        cases hload
    | ok text =>
        rw [halike.readText hplain htext]
        rw [htext] at hload
        exact hload
  · rw [if_neg hfound] at hload ⊢
    exact hload

/-- What is loaded from one of the disks is loaded from the other. -/
theorem load_eq_ok (halike : a.Alike root b) {format : DefinitionFormat} {catalog : Catalog}
    {skipped : List SkippedFile} (hload : load format a root = .ok (catalog, skipped)) :
    load format b root = .ok (catalog, skipped) := by
  simp only [load, Outcome.bind_eq_ok] at hload ⊢
  obtain ⟨types, htypes, categories, hcategories, links, hlinks, hresult⟩ := hload
  exact ⟨types, halike.loadFolder_eq_ok (by decide) htypes, categories,
    halike.loadFolder_eq_ok (by decide) hcategories, links, halike.loadLinks_eq_ok hlinks, hresult⟩

private theorem makeFoldersBelow_eq_ok (halike : a.Alike root b) (above : List String)
    {rest : List String}
    (hplain : ∀ way, way <+: above ++ rest → isLeftover root way = false)
    (hmake : a.makeFoldersBelow above rest = (.ok (), after)) :
    ∃ after', b.makeFoldersBelow above rest = (.ok (), after') ∧ after'.faults = b.faults ∧
      after.Alike root after' := by
  induction rest generalizing a b above with
  | nil =>
      cases hmake
      exact ⟨b, rfl, rfl, halike⟩
  | cons name rest ih =>
      have hway : above ++ name :: rest = above ++ [name] ++ rest := by simp
      rw [hway] at hplain
      have hentry := halike.entry?_eq (hplain _ (List.prefix_append _ _))
      simp only [makeFoldersBelow] at hmake ⊢
      rw [← hentry]
      cases hfound : a.entry? (above ++ [name]) with
      | none =>
          rw [hfound] at hmake
          exact ih (halike.putEntry rfl rfl) (above ++ [name]) hplain hmake
      | some entry =>
          rw [hfound] at hmake
          cases entry with
          | folder => exact ih halike (above ++ [name]) hplain hmake
          | file content => cases hmake

private theorem makeFolders_eq_ok (halike : a.Alike root b) {folder : String}
    (hfolder : isHidden folder = false)
    (hmake : (DirectoryStore.makeFolders (root.names ++ [folder])).run a = .ok () after) :
    ∃ after', (DirectoryStore.makeFolders (root.names ++ [folder])).run b = .ok () after' ∧
      after'.faults = b.faults ∧ after.Alike root after' := by
  have hplain : ∀ way, way <+: [] ++ (root.names ++ [folder]) → isLeftover root way = false := by
    intro way hway
    rcases List.prefix_concat_iff.mp hway with rfl | hbelow
    · exact not_isLeftover_of_not_isHidden root root.names hfolder
    · exact not_isLeftover_of_prefix hbelow
  obtain ⟨after', hother, hafter⟩ :=
    halike.makeFoldersBelow_eq_ok [] hplain (makeFolders_run_eq_ok.mp hmake)
  exact ⟨after', makeFolders_run_eq_ok.mpr hother, hafter⟩

/-- A replacement that succeeds on one of the disks succeeds on the other too, if no
fault is to come there. -/
private theorem replaceText_eq_ok (halike : a.Alike root b) (hfaults : b.faults = [])
    {folder name text : String} (hfolder : isHidden folder = false) (hname : isHidden name = false)
    (hrun : (replaceText (root.names ++ [folder, name]) text).run a = .ok () after) :
    ∃ after', (replaceText (root.names ++ [folder, name]) text).run b = .ok () after' ∧
      after'.faults = [] ∧ after.Alike root after' := by
  have hway : root.names ++ [folder, name] = root.names ++ [folder] ++ [name] := by simp
  have hplainFolder := not_isLeftover_of_not_isHidden root root.names hfolder
  have hplainFile := not_isLeftover_of_not_isHidden root (root.names ++ [folder]) hname
  rw [hway] at hrun ⊢
  obtain ⟨hplace, hfile, hentries⟩ := Disk.of_replace_ok (replaceText_run_eq_ok.mp hrun)
  have hplace' : b.entry? (root.names ++ [folder] ++ [name]).dropLast = some .folder := by
    rw [List.dropLast_concat] at hplace ⊢
    rw [← halike.entry?_eq hplainFolder, hplace]
  rw [halike.entry?_eq hplainFile] at hfile
  obtain ⟨after', hother, hreplaced⟩ :=
    Disk.replace_eq_ok text.toUTF8 hfaults (by simp) hplace' hfile
  obtain ⟨_, _, hentries'⟩ := Disk.of_replace_ok hother
  exact ⟨after', replaceText_run_eq_ok.mpr hother, hreplaced.faultless,
    halike.putEntry hentries hentries'⟩

private theorem seed_eq_ok {format : DefinitionFormat} {defaults : List Category}
    (halike : a.Alike root b) (hfaults : b.faults = [])
    (hseed : (seed format root defaults).run a = .ok () after) :
    ∃ after', (seed format root defaults).run b = .ok () after' ∧ after.Alike root after' := by
  induction defaults generalizing a b with
  | nil =>
      cases hseed
      exact ⟨b, rfl, halike⟩
  | cons category rest ih =>
      have hname := isHidden_of_extension category.extensionOf?_fileName
      have hplain : isLeftover root (categoryFile root category.id) = false := by
        rw [categoryFile_eq]
        exact not_isLeftover_of_not_isHidden root _ hname
      rw [seed_cons_run] at hseed ⊢
      rw [← halike.contains_eq hplain]
      split at hseed
      · rename_i hfound
        rw [if_pos hfound]
        exact ih halike hfaults hseed
      · rename_i hfound
        rw [if_neg hfound]
        obtain ⟨_, middle, hfirst, hrest⟩ := Outcome.run_bind_eq_ok.mp hseed
        obtain ⟨middle', hfirst', hfaults', hmiddle⟩ :=
          halike.replaceText_eq_ok hfaults (by decide) hname hfirst
        obtain ⟨after', hrest', hafter⟩ := ih hmiddle hfaults' hrest
        exact ⟨after', Outcome.run_bind_eq_ok.mpr ⟨(), middle', hfirst', hrest'⟩, hafter⟩

/-- If one of the disks can be opened as a store, the other can be opened as the same
store unless a fault is to come there. -/
theorem openAt_eq_ok {format : DefinitionFormat} {defaults : List Category}
    {opened : DirectoryStore} (halike : a.Alike root b) (hfaults : b.faults = [])
    (hopen : (openAt format root defaults).run a = .ok opened after) :
    ∃ opened' after', (openAt format root defaults).run b = .ok opened' after' ∧
      opened'.catalog = opened.catalog ∧ opened'.skipped = opened.skipped ∧
      after.Alike root after' := by
  obtain ⟨types, categories, catalog, skipped, htypes, hcategories, hseed, hload, rfl⟩ :=
    DirectoryStore.openAt_eq_ok.mp hopen
  obtain ⟨types', htypes', hfaultsTypes, hsameTypes⟩ := halike.makeFolders_eq_ok (by decide) htypes
  obtain ⟨categories', hcategories', hfaultsCategories, hsameCategories⟩ :=
    hsameTypes.makeFolders_eq_ok (by decide) hcategories
  rw [hfaultsTypes, hfaults] at hfaultsCategories
  obtain ⟨after', hseed', hsame⟩ := hsameCategories.seed_eq_ok hfaultsCategories hseed
  exact ⟨_, after', DirectoryStore.openAt_eq_ok.mpr
    ⟨types', categories', catalog, skipped, htypes', hcategories', hseed', hsame.load_eq_ok hload,
      rfl⟩, rfl, rfl, hsame⟩

end Disk.Alike

namespace DirectoryStore

/-- A failed replacement in a folder of the store changes nothing but leftovers. -/
theorem alike_of_replaceText_error {root : Path} {disk after : Disk} {names : List String}
    {text : String} {error : SchemaError} (hfolder : names.dropLast ∈ folders root)
    (hrun : (replaceText names text).run disk = .error error after) : disk.Alike root after := by
  obtain ⟨reason, hreplace, _⟩ := replaceText_run_eq_error.mp hrun
  rcases Disk.entries_of_replace_error hreplace with hsame | ⟨left, hleft⟩
  · rw [Disk.Alike, hsame]
  · refine .leftover ?_ hleft
    rw [isLeftover_append hfolder]
    exact isHidden_temporaryName disk

end DirectoryStore

end WorkSchema
