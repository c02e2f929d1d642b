import WorkSchema.Proofs.Store.Leftovers
import WorkSchema.Proofs.Store.Memberships

/-!
What opening a store does to its folder, and what opening it again does. Whatever is there stays
as it is, readable or not. Where there is nothing, the folders are made and every default category
gets a file under its id, the first one of that id if there are more. All of them have one then,
so the same defaults add nothing the next time, and the same store is found.
-/

namespace WorkSchema

namespace Disk

variable {disk after other : Disk} {names way : List String} {entry : DiskEntry}

theorem entry?_congr (hsame : other.entries = disk.entries) (way : List String) :
    other.entry? way = disk.entry? way := by
  rw [Disk.entry?, entry?, hsame]

theorem entry?_eq_none (hmissing : ¬ disk.contains way = true) : disk.entry? way = none := by
  rw [contains, Bool.not_eq_true, Option.isSome_eq_false_iff] at hmissing
  exact Option.isNone_iff_eq_none.1 hmissing

private theorem entry?_makeFoldersBelow_of_some (above : List String) {rest : List String}
    (hentry : disk.entry? way = some entry) :
    entry? (disk.makeFoldersBelow above rest).2 way = some entry := by
  induction rest generalizing disk above with
  | nil => exact hentry
  | cons name rest ih =>
      simp only [makeFoldersBelow]
      cases hfound : disk.entry? (above ++ [name]) with
      | none =>
          have hother : way ≠ above ++ [name] := by
            rintro rfl
            rw [hfound] at hentry
            cases hentry
          apply ih
          rw [entry?_put disk (by simp), if_neg hother]
          exact hentry
      | some found =>
          cases found with
          | folder => exact ih _ hentry
          | file content => exact hentry

/-- Where folders were made, there is what was there before, and a folder in every place on the
way that was empty. -/
theorem entry?_of_makeFolders (hmake : disk.makeFolders names = (.ok (), after))
    (way : List String) :
    after.entry? way =
      (disk.entry? way).or (if way <+: names then some .folder else none) := by
  cases hentry : disk.entry? way with
  | some entry =>
      have hkept : entry? (disk.makeFoldersBelow [] names).2 way = some entry :=
        entry?_makeFoldersBelow_of_some [] hentry
      rw [← makeFolders, hmake] at hkept
      exact hkept
  | none =>
      rw [Option.none_or]
      split
      · rename_i hway
        exact (folder_of_makeFolders hmake).1 way hway
      · rename_i hway
        have hsame := entry?_makeFolders_other disk hway
        rw [hmake] at hsame
        exact hsame.trans hentry

end Disk

namespace DirectoryStore

variable {format : DefinitionFormat} {root : Path} {disk after : Disk}
  {defaults : List Category} {store : DirectoryStore}

/-- What opening a store puts in an empty place: a folder on the way to the definitions, and the
file of the first default category that belongs there. -/
def addition (format : DefinitionFormat) (root : Path) (defaults : List Category)
    (way : List String) : Option DiskEntry :=
  if way <+: root.names ++ [typesFolder] ∨ way <+: root.names ++ [categoriesFolder] then
    some .folder
  else
    (defaults.find? fun category => way = categoryFile root category.id).map fun category =>
      .file (format.writeCategory category).toUTF8

theorem categoryFile_injective {a b : CategoryId} :
    categoryFile root a = categoryFile root b ↔ a = b := by
  constructor
  · intro hsame
    have hnames : fileName a.toText = fileName b.toText := by simpa [categoryFile] using hsame
    exact Identifier.toText_injective (fileName_injective hnames)
  · rintro rfl
    rfl

/-- Under an id it is the first default of that id. -/
theorem addition_categoryFile (id : CategoryId) :
    addition format root defaults (categoryFile root id) =
      (defaults.find? fun category => category.id = id).map fun category =>
        .file (format.writeCategory category).toUTF8 := by
  have hfolders : ¬ (categoryFile root id <+: root.names ++ [typesFolder] ∨
      categoryFile root id <+: root.names ++ [categoriesFolder]) := by
    simp [categoryFile]
  rw [addition, if_neg hfolders]
  simp only [categoryFile_injective, eq_comm]

/-- A single default category puts its file in its place if that is empty. -/
private theorem seed_cons_eq_ok {category : Category} {rest : List Category}
    (hseed : (seed format root (category :: rest)).run disk = .ok () after) :
    ∃ middle, (seed format root rest).run middle = .ok () after ∧
      ∀ way, middle.entry? way = (disk.entry? way).or
        (if way = categoryFile root category.id then
          some (.file (format.writeCategory category).toUTF8) else none) := by
  rw [seed_cons_run] at hseed
  split at hseed
  · rename_i hfound
    refine ⟨disk, hseed, fun way => ?_⟩
    obtain ⟨entry, hentry⟩ := Option.isSome_iff_exists.1 hfound
    by_cases hway : way = categoryFile root category.id <;> simp [hway, hentry]
  · rename_i hmissing
    obtain ⟨_, middle, hwrite, hrest⟩ := Outcome.run_bind_eq_ok.1 hseed
    obtain ⟨_, _, hentries⟩ := Disk.of_replace_ok (replaceText_run_eq_ok.1 hwrite)
    refine ⟨middle, hrest, fun way => ?_⟩
    rw [Disk.entry?_of_putEntry (by simp [categoryFile]) hentries]
    by_cases hway : way = categoryFile root category.id <;>
      simp [hway, Disk.entry?_eq_none hmissing]

/-- Seeding puts a file in the empty places of the default categories, the first one of each id,
and nothing anywhere else. -/
theorem entry?_of_seed_or (hseed : (seed format root defaults).run disk = .ok () after)
    (way : List String) :
    after.entry? way = (disk.entry? way).or
      ((defaults.find? fun category => way = categoryFile root category.id).map fun category =>
        .file (format.writeCategory category).toUTF8) := by
  induction defaults generalizing disk with
  | nil =>
      cases hseed
      rw [List.find?_nil, Option.map_none, Option.or_none]
  | cons category rest ih =>
      obtain ⟨middle, hrest, hmiddle⟩ := seed_cons_eq_ok hseed
      -- What an earlier default has put there is found before any later one of its id.
      rw [ih hrest, hmiddle, Option.or_assoc, List.find?_cons]
      by_cases hway : way = categoryFile root category.id <;> simp [hway]

/-- Where every default category has a file there is nothing to seed. -/
theorem seed_eq_self
    (hfiles : ∀ category ∈ defaults, disk.contains (categoryFile root category.id) = true) :
    (seed format root defaults).run disk = .ok () disk := by
  induction defaults with
  | nil => rfl
  | cons category rest ih =>
      obtain ⟨hfirst, hrest⟩ := List.forall_mem_cons.1 hfiles
      rw [seed_cons_run, if_pos hfirst]
      exact ih hrest

theorem entry?_of_openAt (hopen : (openAt format root defaults).run disk = .ok store after)
    (way : List String) :
    after.entry? way = (disk.entry? way).or (addition format root defaults way) := by
  obtain ⟨first, second, _, _, hfirst, hsecond, hseed, _, _⟩ := openAt_eq_ok.1 hopen
  rw [entry?_of_seed_or hseed, Disk.entry?_of_makeFolders (makeFolders_run_eq_ok.1 hsecond),
    Disk.entry?_of_makeFolders (makeFolders_run_eq_ok.1 hfirst), addition, Option.or_assoc,
    Option.or_assoc]
  by_cases htypes : way <+: root.names ++ [typesFolder]
  · simp [htypes]
  · by_cases hcategories : way <+: root.names ++ [categoriesFolder] <;>
      simp [htypes, hcategories]

/-- Every default category has a file once the store is opened. -/
theorem contains_of_openAt (hopen : (openAt format root defaults).run disk = .ok store after) :
    ∀ category ∈ defaults, after.contains (categoryFile root category.id) = true := by
  intro category hmem
  have hfound : (defaults.find? fun other => other.id = category.id).isSome = true :=
    List.find?_isSome.2 ⟨category, hmem, decide_eq_true rfl⟩
  rw [Disk.contains, entry?_of_openAt hopen, addition_categoryFile, Option.isSome_or,
    Option.isSome_map, hfound, Bool.or_true]

/-- Where the folders of a store are, opening begins with the seeding and ends with the loading. -/
theorem openAt_of_folders (hfolders : ∀ folder ∈ [typesFolder, categoriesFolder],
      ∀ way, way <+: root.names ++ [folder] → disk.entry? way = some .folder)
    (hseed : (seed format root defaults).run disk = .ok () after)
    {catalog : Catalog} {skipped : List SkippedFile}
    (hload : load format after root = .ok (catalog, skipped)) :
    (openAt format root defaults).run disk =
      .ok {format, root, catalog, skipped, disk := after} after := by
  have hmake : ∀ folder ∈ [typesFolder, categoriesFolder],
      (makeFolders (root.names ++ [folder])).run disk = .ok () disk := fun folder hfolder =>
    makeFolders_run_eq_ok.2 (Disk.makeFolders_eq_self (hfolders folder hfolder))
  exact openAt_eq_ok.2 ⟨disk, disk, catalog, skipped, hmake _ (by simp), hmake _ (by simp),
    hseed, hload, rfl⟩

/-- What a store has become is opened as the same store, and stays as it is. -/
theorem openAt_again (hopen : (openAt format root defaults).run disk = .ok store after)
    {again : Disk} (hsame : again.entries = after.entries) :
    (openAt format root defaults).run again = .ok {store with disk := again} again := by
  obtain ⟨_, _, _, _, hreadable⟩ := asLoaded_of_openAt hopen
  have hfiles := contains_of_openAt hopen
  obtain ⟨_, _, catalog, skipped, _, _, _, hload, rfl⟩ := openAt_eq_ok.1 hopen
  have halike : after.Alike root again := by rw [Disk.Alike, hsame]
  refine openAt_of_folders ?_ (seed_eq_self ?_) (halike.load_eq_ok hload)
  · intro folder hfolder way hway
    rw [Disk.entry?_congr hsame]
    exact hreadable.folders folder hfolder way hway
  · intro category hmem
    rw [Disk.contains, Disk.entry?_congr hsame]
    exact hfiles category hmem

/-- A category that gets a file of its own does not keep a store from being opened. -/
private theorem readable_replaced (hreadable : disk.Readable format root) {category : Category}
    (hnone : disk.entry? (categoryFile root category.id) = none) {text : String}
    (hreplaced : disk.Replaced after (categoryFile root category.id) text.toUTF8) :
    after.Readable format root := by
  have hother : ∀ {way}, way ≠ categoryFile root category.id → after.entry? way = disk.entry? way :=
    fun hway => hreplaced.other hway
  constructor
  · intro folder hfolder way hway
    have hentry := hreadable.folders folder hfolder way hway
    rw [hother (by rintro rfl; rw [hnone] at hentry; cases hentry)]
    exact hentry
  · intro file entry hfile hentry
    rw [hother (by simp [categoryFile, typesFolder, categoriesFolder])] at hentry
    exact hreadable.types file entry hfile hentry
  · intro file entry hfile hentry
    rw [hreplaced.found] at hentry
    split at hentry
    · cases hentry
      exact ⟨text, rfl⟩
    · exact hreadable.categories file entry hfile hentry
  · intro entry hentry
    rw [hother (by simp [categoryFile])] at hentry
    exact hreadable.links entry hentry

private theorem seed_of_readable (hreadable : disk.Readable format root)
    (hfaults : disk.faults = []) (defaults : List Category) :
    ∃ after, (seed format root defaults).run disk = .ok () after ∧ after.Readable format root := by
  induction defaults generalizing disk with
  | nil => exact ⟨disk, rfl, hreadable⟩
  | cons category rest ih =>
      rw [seed_cons_run]
      split
      · exact ih hreadable hfaults
      · rename_i hmissing
        have hnone := Disk.entry?_eq_none hmissing
        have hplace : disk.entry? (categoryFile root category.id).dropLast = some .folder := by
          rw [categoryFile_eq, List.dropLast_concat]
          exact hreadable.folders categoriesFolder (by simp) _ (List.prefix_refl _)
        have hfile : disk.entry? (categoryFile root category.id) ≠ some .folder := by simp [hnone]
        obtain ⟨middle, hreplace, hreplaced⟩ :=
          Disk.replace_eq_ok (format.writeCategory category).toUTF8 hfaults
            (by simp [categoryFile]) hplace hfile
        obtain ⟨after, hrest, hafter⟩ :=
          ih (readable_replaced hreadable hnone hreplaced) hreplaced.faultless
        exact ⟨after, Outcome.run_bind_eq_ok.2
          ⟨(), middle, replaceText_run_eq_ok.2 hreplace, hrest⟩, hafter⟩

/-- No list of default categories keeps a store from being opened. -/
theorem openAt_of_readable_faultless (hreadable : disk.Readable format root)
    (hfaults : disk.faults = []) (defaults : List Category) :
    ∃ store after, (openAt format root defaults).run disk = .ok store after := by
  obtain ⟨after, hseed, hafter⟩ := seed_of_readable hreadable hfaults defaults
  obtain ⟨⟨catalog, skipped⟩, hload⟩ := (load_eq_ok_iff hafter.folders).2 hafter
  exact ⟨_, after, openAt_of_folders hreadable.folders hseed hload⟩

/-- Opening a store changes nothing that is there. In empty places it makes the folders of the
store, which are the only new ones if the folder of the store is there, and a file for each id
among the defaults, with the first default of that id. The same files and folders, listed in the
same order, are opened as the same store again and are left as they are. -/
theorem openAt_keeps_and_repeats
    (hopen : (openAt format root defaults).run disk = .ok store after) :
    (∀ way entry, disk.entry? way = some entry → after.entry? way = some entry) ∧
    (∀ way, disk.entry? way = none →
      after.entry? way = addition format root defaults way) ∧
    ((∀ way, way <+: root.names → disk.entry? way = some .folder) →
      ∀ way, disk.entry? way = none → after.entry? way = some .folder →
        way = root.names ++ [typesFolder] ∨ way = root.names ++ [categoriesFolder]) ∧
    (∀ id, disk.entry? (categoryFile root id) = none →
      after.entry? (categoryFile root id) =
        (defaults.find? fun category => category.id = id).map fun category =>
          .file (format.writeCategory category).toUTF8) ∧
    ∀ again : Disk, again.entries = after.entries →
      (openAt format root defaults).run again = .ok {store with disk := again} again := by
  have hfound := entry?_of_openAt hopen
  refine ⟨?_, ?_, ?_, ?_, fun again => openAt_again hopen⟩
  · intro way entry hentry
    rw [hfound, hentry, Option.some_or]
  · intro way hnone
    rw [hfound, hnone, Option.none_or]
  · intro hroot way hnone hfolder
    rw [hfound, hnone, Option.none_or, addition] at hfolder
    have hnew : ∀ {folder}, way <+: root.names ++ [folder] → way = root.names ++ [folder] := by
      intro folder hway
      refine (List.prefix_concat_iff.1 hway).resolve_right fun hold => ?_
      rw [hroot way hold] at hnone
      cases hnone
    split at hfolder
    · rename_i hway
      exact hway.imp hnew hnew
    · obtain ⟨_, _, hfile⟩ := Option.map_eq_some_iff.1 hfolder
      cases hfile
  · intro id hnone
    rw [hfound, hnone, Option.none_or, addition_categoryFile]

section Edited

/-- The category of the damaged folder under another name, which is not written over it. -/
def renamed : Category := {planned with name := "planner.tasks"}

def done : Category := {id := .ofNat 4, name := "planner.done"}

/-- A default of the same id that comes too late. -/
def finished : Category := {done with name := "planner.finished"}

private theorem readable_damagedFolder : damagedFolder.Readable .yaml ⟨"."⟩ := by
  have htext : ∀ folder ∈ [typesFolder, categoriesFolder],
      damagedFolder.AllText ((⟨"."⟩ : Path).names ++ [folder]) := by
    intro folder _ file entry _ hentry
    rw [Path.names_workingFolder] at hentry
    have hmem := Disk.mem_entries_of_entry? (by simp) hentry
    simp only [damagedFolder, List.nil_append, List.cons_append, List.mem_cons, Prod.mk.injEq,
      List.cons.injEq, reduceCtorEq, and_false, false_and, false_or, or_false,
      List.not_mem_nil] at hmem
    rcases hmem with ⟨_, rfl⟩ | ⟨_, rfl⟩ | ⟨_, rfl⟩
    · exact ⟨_, rfl⟩
    · exact ⟨_, rfl⟩
    · exact ⟨_, rfl⟩
  refine ⟨?_, htext _ (by simp), htext _ (by simp), ?_⟩
  · intro folder hfolder way hway
    rw [Path.names_workingFolder] at hway
    simp only [List.mem_cons, List.not_mem_nil, or_false] at hfolder
    rcases List.prefix_concat_iff.1 hway with rfl | hnone
    · rcases hfolder with rfl | rfl <;> rfl
    · rw [List.prefix_nil.1 hnone]
      rfl
  · intro entry hentry
    rw [Path.names_workingFolder] at hentry
    cases hentry
    exact ⟨_, [damagedLink], rfl, links_readBack damagedLink (by simp)⟩

/-- In the damaged folder the broken file and the renamed category stay, and of the two defaults
of one id the first is added. -/
theorem openAt_keeps_and_repeats_damaged :
    let defaults := [renamed, done, finished]
    ∃ opened seeded, (openAt .yaml ⟨"."⟩ defaults).run damagedFolder = .ok opened seeded ∧
      seeded.entry? [typesFolder, fileName damagedType.toText] =
        some (.file "fields: none".toUTF8) ∧
      seeded.entry? (categoryFile ⟨"."⟩ renamed.id) =
        some (.file (DefinitionFormat.yaml.writeCategory planned).toUTF8) ∧
      seeded.entry? (categoryFile ⟨"."⟩ done.id) =
        some (.file (DefinitionFormat.yaml.writeCategory done).toUTF8) ∧
      (openAt .yaml ⟨"."⟩ defaults).run seeded = .ok {opened with disk := seeded} seeded := by
  intro defaults
  obtain ⟨opened, seeded, hopen⟩ := openAt_of_readable_faultless readable_damagedFolder rfl defaults
  obtain ⟨hkept, _, _, hadded, hagain⟩ := openAt_keeps_and_repeats hopen
  have hrenamed : damagedFolder.entry? (categoryFile ⟨"."⟩ renamed.id) =
      some (.file (DefinitionFormat.yaml.writeCategory planned).toUTF8) := by
    rw [categoryFile, Path.names_workingFolder]
    rfl
  have hdone : damagedFolder.entry? (categoryFile ⟨"."⟩ done.id) = none := by
    rw [categoryFile, Path.names_workingFolder]
    decide +kernel
  refine ⟨opened, seeded, hopen, hkept _ _ rfl, hkept _ _ hrenamed, ?_, hagain seeded rfl⟩
  rw [hadded _ hdone]
  rfl

end Edited

end DirectoryStore

end WorkSchema
