import WorkSchema.Proofs.Store.Loading

/-!
Which definition files are accounted for when a store is opened. A text that is no
definition is noted with its path, once, and a definition can be seen in its list, unless
another file has a definition of the same id. A file that is no text stops the opening.
So every file is accounted for exactly if all are texts and no two say different things
under one id.
-/

namespace WorkSchema

namespace Path

/-- What stands before the name in the path of something in a folder. -/
private def lead (folder : Path) : String :=
  if folder.text.isEmpty then ""
  else if folder.text.endsWith "/" then folder.text
  else folder.text ++ "/"

private theorem text_join (folder : Path) {name : String} (hname : name.startsWith "/" = false) :
    (folder.join name).text = folder.lead ++ name := by
  rw [join, lead, hname, Bool.false_or]
  split
  · simp
  · split <;> rfl

private theorem lead_eq (folder : Path) : ∃ slash, folder.lead = folder.text ++ slash := by
  unfold lead
  split
  · rename_i hempty
    refine ⟨"", ?_⟩
    rw [String.isEmpty_iff.mp hempty]
    rfl
  · split
    · exact ⟨"", by simp⟩
    · exact ⟨"/", rfl⟩

/-- Files of one folder have different paths. -/
theorem join_injective {folder : Path} {a b : String} (ha : a.startsWith "/" = false)
    (hb : b.startsWith "/" = false) (hsame : folder.join a = folder.join b) : a = b := by
  have htext := congrArg (fun path => (text path).toList) hsame
  simp only [text_join folder ha, text_join folder hb, String.toList_append] at htext
  exact String.toList_injective (List.append_cancel_left htext)

end Path

open DirectoryStore in
/-- What holds of every folder: a way leads to one thing in it, and no name has a slash. -/
structure Disk.Plain (disk : Disk) (root : Path) : Prop where
  nodup : (disk.entries.map (·.1)).Nodup
  slashless : ∀ folder ∈ [typesFolder, categoriesFolder], ∀ file,
    (disk.entry? (root.names ++ [folder] ++ [file])).isSome → file.startsWith "/" = false

namespace DirectoryStore

/-- A type and a category are never in files of the same path. -/
theorem join_types_ne_categories {root : Path} {a b : String} (ha : a.startsWith "/" = false)
    (hb : b.startsWith "/" = false) :
    (root.join typesFolder).join a ≠ (root.join categoriesFolder).join b := by
  intro hsame
  obtain ⟨slash, hslash⟩ := (root.join typesFolder).lead_eq
  obtain ⟨slash', hslash'⟩ := (root.join categoriesFolder).lead_eq
  have htext := congrArg (fun path => (Path.text path).toList) hsame
  simp only [Path.text_join _ ha, Path.text_join _ hb, hslash, hslash',
    Path.text_join root (show typesFolder.startsWith "/" = false by decide +kernel),
    Path.text_join root (show categoriesFolder.startsWith "/" = false by decide +kernel),
    String.toList_append, List.append_assoc] at htext
  have hnames := List.append_cancel_left htext
  simp [typesFolder, categoriesFolder] at hnames

section Folder

variable {α : Type} [Ranked α] {read : String → Decoded α} {disk : Disk} {root : Path}
  {name file : String} {item : α}

/-- Whether no two definition files in a folder say different things under one id. -/
def Unambiguous (read : String → Decoded α) (disk : Disk) (folder : List String) : Prop :=
  ∀ file other a b, disk.Defines read folder file a → disk.Defines read folder other b →
    rank a = rank b → a = b

/-- Whether a definition file is accounted for exactly once: either what it says can be
seen and the file is not skipped, or it says nothing and is skipped once. -/
def AccountedFor (read : String → Decoded α) (disk : Disk) (root : Path) (name : String)
    (visible : List α) (skipped : List SkippedFile) (file : String) : Prop :=
  let path := (root.join name).join file
  (∃ item, disk.Defines read (root.names ++ [name]) file item ∧ item ∈ visible ∧
      ∀ fault ∈ skipped, fault.path ≠ path) ∨
    ((∀ item, ¬ disk.Defines read (root.names ++ [name]) file item) ∧
      ∃ error, skipped.filter (fun fault => fault.path = path) = [{path, error}])

/-- Everything said in a folder can be seen exactly if nothing hides anything else. -/
theorem visible_iff (hfolder : disk.entry? (root.names ++ [name]) = some .folder) :
    (∀ file item, disk.Defines read (root.names ++ [name]) file item →
        item ∈ (RankedList.ofList (contentsOf read disk root name).items).elements) ↔
      Unambiguous read disk (root.names ++ [name]) := by
  constructor
  · intro hall file other a b ha hb hrank
    have hfirst := RankedList.mem_iff_find?.mp (hall file a ha)
    have hsecond := RankedList.mem_iff_find?.mp (hall other b hb)
    rw [hrank, hsecond] at hfirst
    cases hfirst
    rfl
  · intro hone file item hdefines
    apply RankedList.mem_of_find?
    apply RankedList.find?_ofList_of_unique ((mem_items hfolder).mpr ⟨file, hdefines⟩)
    intro rival hrival hrank
    obtain ⟨other, hother⟩ := (mem_items hfolder).mp hrival
    exact hone other file rival item hother hdefines hrank

omit [Ranked α]

/-- What is skipped is a file in the folder that says nothing. -/
theorem skipped_eq {path : Path} {folder : List String} {fault : SkippedFile}
    (hfault : faultOf read disk path folder file = some fault) :
    (disk.entry? (folder ++ [file])).isSome ∧ (∀ item, ¬ disk.Defines read folder file item) ∧
      ∃ error, fault = {path := path.join file, error} := by
  obtain ⟨text, error, hentry, hread, rfl⟩ := faultOf_eq_some.mp hfault
  refine ⟨by rw [hentry]; rfl, ?_, error, rfl⟩
  rintro item ⟨_, found, hentry', hsaid⟩
  have hsame := Disk.readText_eq_ok hentry'
  rw [Disk.readText_eq_ok hentry] at hsame
  cases hsame
  rw [hread] at hsaid
  cases hsaid

theorem mem_skipped {fault : SkippedFile}
    (hmem : fault ∈ (contentsOf read disk root name).skipped) :
    ∃ file error, (disk.entry? (root.names ++ [name] ++ [file])).isSome ∧
      (∀ item, ¬ disk.Defines read (root.names ++ [name]) file item) ∧
        fault = {path := (root.join name).join file, error} := by
  obtain ⟨file, _, hfault⟩ := List.mem_filterMap.mp hmem
  obtain ⟨hfile, hnothing, error, rfl⟩ := skipped_eq hfault
  exact ⟨file, error, hfile, hnothing, rfl⟩

/-- Of a list without repetitions a single element gives a single result. -/
private theorem filter_filterMap_eq_singleton {β γ : Type} {f : β → Option γ} {p : γ → Bool}
    {items : List β} (hnodup : items.Nodup) {a : β} (hmem : a ∈ items) {b : γ} (hb : f a = some b)
    (hp : p b = true) (hother : ∀ c ∈ items, c ≠ a → ∀ d, f c = some d → p d = false) :
    (items.filterMap f).filter p = [b] := by
  induction items with
  | nil => cases hmem
  | cons first rest ih =>
      obtain ⟨hfresh, hrest⟩ := List.nodup_cons.mp hnodup
      obtain ⟨hfirst, hothers⟩ := List.forall_mem_cons.mp hother
      by_cases hsame : first = a
      · subst hsame
        have hnone : (rest.filterMap f).filter p = [] := by
          rw [List.filter_eq_nil_iff]
          intro d hd
          obtain ⟨c, hc, hd⟩ := List.mem_filterMap.mp hd
          have hne : c ≠ first := fun heq => hfresh (heq ▸ hc)
          rw [hothers c hc hne d hd]
          exact Bool.false_ne_true
        rw [List.filterMap_cons_some hb, List.filter_cons_of_pos hp, hnone]
      · have hmem' : a ∈ rest := (List.mem_cons.mp hmem).resolve_left (Ne.symm hsame)
        have hih := ih hrest hmem' hothers
        cases hvalue : f first with
        | none => rw [List.filterMap_cons_none hvalue, hih]
        | some d =>
            have hdrop : ¬ p d = true := by simp [hfirst hsame d hvalue]
            rw [List.filterMap_cons_some hvalue, List.filter_cons_of_neg hdrop, hih]

theorem nodup_definitionsIn {folder : List String} {entries : List (List String × DiskEntry)}
    (hnodup : (entries.map (·.1)).Nodup) : (definitionsIn folder entries).Nodup := by
  have hnames : ((entries.map (·.1)).filterMap fun way =>
      if way.dropLast = folder then way.getLast? else none).Nodup := by
    refine hnodup.filterMap ?_
    intro a b name ha hb
    split at ha
    · rename_i hfolderA
      split at hb
      · rename_i hfolderB
        rw [← List.dropLast_append_getLast? name ha, ← List.dropLast_append_getLast? name hb,
          hfolderA, hfolderB]
      · cases hb
    · cases ha
  rw [List.filterMap_map] at hnames
  exact hnames.filter _

section Plain

variable (hplain : ∀ other, (disk.entry? (root.names ++ [name] ++ [other])).isSome →
  other.startsWith "/" = false)

include hplain

theorem not_skipped_of_defines (hdefines : disk.Defines read (root.names ++ [name]) file item) :
    ∀ fault ∈ (contentsOf read disk root name).skipped,
      fault.path ≠ (root.join name).join file := by
  intro fault hmem hpath
  obtain ⟨text, hentry, _⟩ := hdefines.text
  obtain ⟨other, error, hother, hnothing, rfl⟩ := mem_skipped hmem
  have hsame := Path.join_injective (hplain other hother) (hplain file (by rw [hentry]; rfl)) hpath
  subst hsame
  exact hnothing item hdefines

theorem skipped_once (hfolder : disk.entry? (root.names ++ [name]) = some .folder)
    (hnodup : (definitionsIn (root.names ++ [name]) disk.entries).Nodup)
    (hextension : Path.extensionOf? file = some extension) {text : String}
    (htext : disk.entry? (root.names ++ [name] ++ [file]) = some (.file text.toUTF8))
    {error : DecodeError} (hread : read text = .error error) :
    (contentsOf read disk root name).skipped.filter
        (fun fault => fault.path = (root.join name).join file) =
      [{path := (root.join name).join file, error}] := by
  have hlisted : file ∈ definitionsIn (root.names ++ [name]) disk.entries :=
    (mem_definitionsIn hfolder).mpr ⟨hextension, by rw [htext]; rfl⟩
  apply filter_filterMap_eq_singleton hnodup hlisted
    (faultOf_eq_some.mpr ⟨text, error, htext, hread, rfl⟩) (by simp)
  intro other _ hne fault hfault
  obtain ⟨hother, _, reason, rfl⟩ := skipped_eq hfault
  rw [decide_eq_false_iff_not]
  intro hpath
  exact hne (Path.join_injective (hplain other hother) (hplain file (by rw [htext]; rfl)) hpath)

/-- A file of text is accounted for if what it may say can be seen, whatever else was
skipped in other folders. -/
theorem accountedFor_of_visible (hfolder : disk.entry? (root.names ++ [name]) = some .folder)
    (hnodup : (definitionsIn (root.names ++ [name]) disk.entries).Nodup)
    (hextension : Path.extensionOf? file = some extension) {text : String}
    (htext : disk.entry? (root.names ++ [name] ++ [file]) = some (.file text.toUTF8))
    {visible : List α}
    (hvisible : ∀ item, disk.Defines read (root.names ++ [name]) file item → item ∈ visible)
    {before after : List SkippedFile}
    (hbefore : ∀ fault ∈ before, fault.path ≠ (root.join name).join file)
    (hafter : ∀ fault ∈ after, fault.path ≠ (root.join name).join file) :
    AccountedFor read disk root name visible
      (before ++ (contentsOf read disk root name).skipped ++ after) file := by
  cases hread : read text with
  | ok item =>
      have hdefines : disk.Defines read (root.names ++ [name]) file item :=
        ⟨hextension, text, htext, hread⟩
      have hown := not_skipped_of_defines hplain hdefines
      refine Or.inl ⟨item, hdefines, hvisible item hdefines, ?_⟩
      simp only [List.mem_append, or_imp, forall_and]
      exact ⟨⟨hbefore, hown⟩, hafter⟩
  | error error =>
      have hnone : ∀ {faults : List SkippedFile},
          (∀ fault ∈ faults, fault.path ≠ (root.join name).join file) →
          faults.filter (fun fault => fault.path = (root.join name).join file) = [] := by
        intro faults hall
        simpa [List.filter_eq_nil_iff] using hall
      have hfault : faultOf read disk (root.join name) (root.names ++ [name]) file =
          some {path := (root.join name).join file, error} :=
        faultOf_eq_some.mpr ⟨text, error, htext, hread, rfl⟩
      refine Or.inr ⟨(skipped_eq hfault).2.1, error, ?_⟩
      rw [List.filter_append, List.filter_append, hnone hbefore, hnone hafter,
        skipped_once hplain hfolder hnodup hextension htext hread]
      rfl

end Plain

end Folder

/-- Whether every definition file in the two folders of a store is accounted for. -/
structure Accounts (store : DirectoryStore) (disk : Disk) : Prop where
  types : ∀ file, Path.extensionOf? file = some extension →
    (disk.entry? (store.root.names ++ [typesFolder] ++ [file])).isSome →
      AccountedFor store.format.readType disk store.root typesFolder
        store.catalog.types.elements store.skipped file
  categories : ∀ file, Path.extensionOf? file = some extension →
    (disk.entry? (store.root.names ++ [categoriesFolder] ++ [file])).isSome →
      AccountedFor store.format.readCategory disk store.root categoriesFolder
        store.catalog.categories.elements store.skipped file

variable {format : DefinitionFormat} {disk after : Disk} {root : Path}

/-- Without ambiguity all files of text in a folder are accounted for. -/
private theorem accountedFor_of_unambiguous {α : Type} [Ranked α] {read : String → Decoded α}
    {name : String} (hname : name ∈ [typesFolder, categoriesFolder])
    (hwith : WithFolders root disk after) (hplain : disk.Plain root)
    (htexts : disk.AllText (root.names ++ [name]))
    (hone : Unambiguous read disk (root.names ++ [name])) {before others : List SkippedFile}
    (hothers : ∀ fault ∈ before ++ others, ∀ file, file.startsWith "/" = false →
      fault.path ≠ (root.join name).join file)
    {file : String} (hextension : Path.extensionOf? file = some extension)
    (hfile : (disk.entry? (root.names ++ [name] ++ [file])).isSome) :
    AccountedFor read disk root name
      (RankedList.ofList (contentsOf read after root name).items).elements
      (before ++ (contentsOf read after root name).skipped ++ others) file := by
  have hfolder := hwith.folders name hname _ (List.prefix_refl _)
  have hinside := hwith.inside name hname
  have hslash := hplain.slashless name hname
  obtain ⟨entry, hentry⟩ := Option.isSome_iff_exists.mp hfile
  obtain ⟨text, rfl⟩ := htexts file entry hextension hentry
  have hone' : Unambiguous read after (root.names ++ [name]) := fun first second a b ha hb =>
    hone first second a b ((hwith.defines_iff hname).mp ha) ((hwith.defines_iff hname).mp hb)
  have haccounted := accountedFor_of_visible
    (fun other hother => hslash other (by rw [← hinside]; exact hother)) hfolder
    (by rw [hwith.definitions name hname]; exact nodup_definitionsIn hplain.nodup) hextension
    (by rw [hinside]; exact hentry) ((visible_iff hfolder).mpr hone' file)
    (fun fault hmem => hothers fault (List.mem_append_left _ hmem) file (hslash file hfile))
    (fun fault hmem => hothers fault (List.mem_append_right _ hmem) file (hslash file hfile))
  simpa only [AccountedFor, hwith.defines_iff hname] using haccounted

private theorem path_of_mem_skipped {α : Type} {read : String → Decoded α} {name : String}
    (hname : name ∈ [typesFolder, categoriesFolder]) (hwith : WithFolders root disk after)
    (hplain : disk.Plain root) {fault : SkippedFile}
    (hmem : fault ∈ (contentsOf read after root name).skipped) :
    ∃ file, file.startsWith "/" = false ∧ fault.path = (root.join name).join file := by
  obtain ⟨file, error, hfile, _, rfl⟩ := mem_skipped hmem
  rw [hwith.inside name hname] at hfile
  exact ⟨file, hplain.slashless name hname file hfile, rfl⟩

/-- Where all files are accounted for, nothing is ambiguous. -/
private theorem unambiguous_of_accountedFor {α : Type} [Ranked α] {read : String → Decoded α}
    {name : String} {list : RankedList α} {skipped : List SkippedFile}
    (haccounted : ∀ file, Path.extensionOf? file = some extension →
      (disk.entry? (root.names ++ [name] ++ [file])).isSome →
        AccountedFor read disk root name list.elements skipped file) :
    Unambiguous read disk (root.names ++ [name]) := by
  have hvisible : ∀ file item, disk.Defines read (root.names ++ [name]) file item →
      list.find? (rank item) = some item := by
    intro file item hdefines
    obtain ⟨text, hentry, _⟩ := hdefines.text
    rcases haccounted file hdefines.extension (by rw [hentry]; rfl) with
      ⟨found, hfound, hseen, _⟩ | ⟨hnothing, _⟩
    · rw [hdefines.unique hfound]
      exact RankedList.mem_iff_find?.mp hseen
    · exact absurd hdefines (hnothing item)
  intro file other a b ha hb hrank
  have hfirst := hvisible file a ha
  rw [hrank, hvisible other b hb] at hfirst
  cases hfirst
  rfl

/-- Opening accounts for every definition file exactly if all of them are texts, and no
two of one folder say different things under one id. -/
theorem openAt_accounts_iff
    (hunblocked : ∀ folder ∈ [typesFolder, categoriesFolder],
      disk.Unblocked (root.names ++ [folder]))
    (hplain : disk.Plain root) (hlinks : LinksReadable format disk root) :
    (∃ store reached, (openAt format root []).run disk = .ok store reached ∧
        store.Accounts disk) ↔
      (disk.AllText (root.names ++ [typesFolder]) ∧
          disk.AllText (root.names ++ [categoriesFolder])) ∧
        Unambiguous format.readType disk (root.names ++ [typesFolder]) ∧
          Unambiguous format.readCategory disk (root.names ++ [categoriesFolder]) := by
  obtain ⟨after, hwith, hopen⟩ := openAt_of_unblocked hunblocked
  have htypes : typesFolder ∈ [typesFolder, categoriesFolder] := by simp
  have hcategories : categoriesFolder ∈ [typesFolder, categoriesFolder] := by simp
  constructor
  · rintro ⟨store, reached, hrun, haccounts⟩
    obtain ⟨rfl, catalog, skipped, hload, rfl⟩ := (hopen store reached).mp hrun
    have hreadable := (load_eq_ok_iff hwith.folders).mp ⟨_, hload⟩
    exact ⟨⟨(hwith.allText_iff htypes).mp hreadable.types,
        (hwith.allText_iff hcategories).mp hreadable.categories⟩,
      unambiguous_of_accountedFor haccounts.types,
      unambiguous_of_accountedFor haccounts.categories⟩
  · rintro ⟨⟨htypeTexts, hcategoryTexts⟩, honeType, honeCategory⟩
    have hreadable : after.Readable format root := by
      refine ⟨hwith.folders, (hwith.allText_iff htypes).mpr htypeTexts,
        (hwith.allText_iff hcategories).mpr hcategoryTexts, ?_⟩
      rw [LinksReadable, hwith.links]
      exact hlinks
    obtain ⟨⟨catalog, skipped⟩, hload⟩ := (load_eq_ok_iff hwith.folders).mpr hreadable
    refine ⟨_, after, (hopen _ after).mpr ⟨rfl, catalog, skipped, hload, rfl⟩, ?_⟩
    have hloaded := asLoaded_of_load hload
    constructor
    · intro file hextension hfile
      rw [hloaded.types, hloaded.skipped, ← List.nil_append (contentsOf _ _ _ typesFolder).skipped]
      refine accountedFor_of_unambiguous htypes hwith hplain htypeTexts honeType ?_ hextension hfile
      intro fault hmem other hother
      obtain ⟨found, hfound, hpath⟩ := path_of_mem_skipped hcategories hwith hplain hmem
      rw [hpath]
      exact (join_types_ne_categories hother hfound).symm
    · intro file hextension hfile
      rw [hloaded.categories, hloaded.skipped, ← List.append_nil (_ ++ _)]
      refine accountedFor_of_unambiguous hcategories hwith hplain hcategoryTexts honeCategory ?_
        hextension hfile
      intro fault hmem other hother
      rw [List.append_nil] at hmem
      obtain ⟨found, hfound, hpath⟩ := path_of_mem_skipped htypes hwith hplain hmem
      rw [hpath]
      exact join_types_ne_categories hfound hother

section Examples

/-- A store folder in which there is one definition file. -/
private def oneFile (content : ByteArray) : Disk where
  entries := [([typesFolder], .folder), ([categoriesFolder], .folder),
    ([typesFolder, "bug.yaml"], .file content)]

variable {content : ByteArray}

private theorem mem_oneFile {way : List String} {entry : DiskEntry}
    (hentry : Disk.entry? (oneFile content) ((⟨"."⟩ : Path).names ++ way) = some entry) :
    way = [] ∧ entry = .folder ∨ way = [typesFolder] ∧ entry = .folder ∨
      way = [categoriesFolder] ∧ entry = .folder ∨
        way = [typesFolder, "bug.yaml"] ∧ entry = .file content := by
  rw [Path.names_workingFolder, List.nil_append] at hentry
  cases way with
  | nil =>
      cases hentry
      exact Or.inl ⟨rfl, rfl⟩
  | cons name rest =>
      have hmem := Disk.mem_entries_of_entry? (by simp) hentry
      simpa [oneFile] using hmem

private theorem unblocked_oneFile : ∀ folder ∈ [typesFolder, categoriesFolder],
    (oneFile content).Unblocked ((⟨"."⟩ : Path).names ++ [folder]) := by
  intro folder hfolder way text hway hentry
  have hlength := hway.length_le
  rw [Path.names_workingFolder] at hlength
  rw [← List.nil_append way, ← Path.names_workingFolder] at hentry
  obtain ⟨_, hkind⟩ | ⟨_, hkind⟩ | ⟨_, hkind⟩ | ⟨rfl, _⟩ := mem_oneFile hentry
  · cases hkind
  · cases hkind
  · cases hkind
  · simp at hlength

private theorem plain_oneFile : (oneFile content).Plain ⟨"."⟩ where
  nodup := by simp [oneFile, typesFolder, categoriesFolder]
  slashless := by
    intro folder hfolder file hfile
    obtain ⟨entry, hentry⟩ := Option.isSome_iff_exists.mp hfile
    rw [List.append_assoc] at hentry
    obtain ⟨hway, _⟩ | ⟨hway, _⟩ | ⟨hway, _⟩ | ⟨hway, _⟩ := mem_oneFile hentry
    all_goals simp at hway
    rw [hway.2]
    decide +kernel

private theorem linksReadable_oneFile {format : DefinitionFormat} :
    LinksReadable format (oneFile content) ⟨"."⟩ := by
  intro entry hentry
  obtain ⟨hway, _⟩ | ⟨hway, _⟩ | ⟨hway, _⟩ | ⟨hway, _⟩ := mem_oneFile hentry
  all_goals simp [linksFile, typesFolder, categoriesFolder] at hway

private theorem types_oneFile {file : String} {entry : DiskEntry}
    (hentry : Disk.entry? (oneFile content)
      ((⟨"."⟩ : Path).names ++ [typesFolder] ++ [file]) = some entry) :
    file = "bug.yaml" ∧ entry = .file content := by
  rw [List.append_assoc] at hentry
  simpa [typesFolder, categoriesFolder] using mem_oneFile hentry

private theorem categories_oneFile {file : String} {entry : DiskEntry} :
    Disk.entry? (oneFile content) ((⟨"."⟩ : Path).names ++ [categoriesFolder] ++ [file]) ≠
      some entry := by
  intro hentry
  rw [List.append_assoc] at hentry
  simpa [typesFolder, categoriesFolder] using mem_oneFile hentry

private def brokenText : String := "kind: ["

private theorem readType_brokenText :
    (DefinitionFormat.yaml.readType brokenText).toOption.isNone = true := by
  decide +kernel

private theorem brokenText_undefined {file : String} (item : WorkItemType) :
    ¬ Disk.Defines (oneFile brokenText.toUTF8) DefinitionFormat.yaml.readType
      ((⟨"."⟩ : Path).names ++ [typesFolder]) file item := by
  rintro ⟨_, text, hentry, hread⟩
  have hsaid := Disk.readText_eq_ok hentry
  rw [(types_oneFile hentry).2] at hentry
  rw [Disk.readText_eq_ok hentry] at hsaid
  cases hsaid
  have hnone := readType_brokenText
  rw [hread] at hnone
  cases hnone

/-- A text that is no definition is no obstacle, and is skipped. -/
theorem openAt_accounts_broken :
    ∃ store reached, (openAt .yaml ⟨"."⟩ []).run (oneFile brokenText.toUTF8) =
        .ok store reached ∧
      store.Accounts (oneFile brokenText.toUTF8) := by
  refine (openAt_accounts_iff unblocked_oneFile plain_oneFile linksReadable_oneFile).mpr
    ⟨⟨?_, ?_⟩, ?_, ?_⟩
  · intro file entry _ hentry
    exact ⟨brokenText, (types_oneFile hentry).2⟩
  · intro file entry _ hentry
    exact absurd hentry categories_oneFile
  · intro file other a b ha _ _
    exact absurd ha (brokenText_undefined a)
  · intro file other a b ha _ _
    obtain ⟨text, hentry, _⟩ := ha.text
    exact absurd hentry categories_oneFile

/-- A definition file whose bytes are no text stops the opening, though the folders and
the links are in order. -/
theorem openAt_stopped_by_bytes :
    let disk := oneFile ⟨#[0xff, 0xfe]⟩
    (∀ folder ∈ [typesFolder, categoriesFolder],
        disk.Unblocked ((⟨"."⟩ : Path).names ++ [folder])) ∧
      disk.Plain ⟨"."⟩ ∧ LinksReadable .yaml disk ⟨"."⟩ ∧
        (openAt .yaml ⟨"."⟩ []).run disk = .error (.file .notText) disk := by
  refine ⟨unblocked_oneFile, plain_oneFile, linksReadable_oneFile, ?_⟩
  simp only [openAt, DirectoryStore.load, loadFolder, Path.names_workingFolder]
  rfl

end Examples

end DirectoryStore

end WorkSchema
