import WorkSchema.Proofs.Store.Files

/-!
Opening a store on a disk that records a catalog. The folders are made if they are not
there, the default categories without a file get one, and what is loaded then is the
recorded catalog with these defaults. On an empty folder this is how a store begins, and
where all defaults have files it gives back the catalog as it was.
-/

namespace WorkSchema

namespace Catalog

/-- A catalog with the default categories that it does not have. -/
def seed (catalog : Catalog) (defaults : List Category) : Catalog :=
  defaults.foldl (fun catalog category =>
    if catalog.categories.contains (rank category) then catalog
    else catalog.saveCategory category) catalog

theorem seed_cons (catalog : Catalog) (category : Category) (rest : List Category) :
    catalog.seed (category :: rest) =
      (if catalog.categories.contains (rank category) then catalog
        else catalog.saveCategory category).seed rest := rfl

theorem seed_eq_self {catalog : Catalog} {defaults : List Category}
    (hall : ∀ category ∈ defaults, catalog.categories.contains (rank category) = true) :
    catalog.seed defaults = catalog := by
  induction defaults with
  | nil => rfl
  | cons category rest ih =>
      obtain ⟨hfirst, hrest⟩ := List.forall_mem_cons.mp hall
      rw [seed_cons, if_pos hfirst]
      exact ih hrest

theorem contains_saveCategory (catalog : Catalog) (category : Category) (key : Nat) :
    (catalog.saveCategory category).categories.contains key =
      (decide (key = rank category) || catalog.categories.contains key) := by
  rw [RankedList.contains, saveCategory, RankedList.find?_insert, RankedList.contains]
  by_cases hkey : key = rank category <;> simp [hkey]

theorem contains_seed {catalog : Catalog} {defaults : List Category} {key : Nat} :
    (catalog.seed defaults).categories.contains key = true ↔
      catalog.categories.contains key = true ∨ key ∈ defaults.map rank := by
  induction defaults generalizing catalog with
  | nil => simp [seed]
  | cons category rest ih =>
      rw [seed_cons, ih, List.map_cons, List.mem_cons]
      split
      · rename_i hcontains
        constructor
        · rintro (hold | hrest)
          · exact Or.inl hold
          · exact Or.inr (Or.inr hrest)
        · rintro (hold | rfl | hrest)
          · exact Or.inl hold
          · exact Or.inl hcontains
          · exact Or.inr hrest
      · rw [contains_saveCategory, Bool.or_eq_true, decide_eq_true_iff]
        tauto

/-- Categories of which no two have one id are all added where there are none of them. -/
theorem seed_eq_foldl {catalog : Catalog} {defaults : List Category}
    (hnone : ∀ category ∈ defaults, catalog.categories.contains (rank category) = false)
    (hdistinct : (defaults.map (·.id)).Nodup) :
    catalog.seed defaults = defaults.foldl saveCategory catalog := by
  induction defaults generalizing catalog with
  | nil => rfl
  | cons category rest ih =>
      obtain ⟨hfirst, hrest⟩ := List.forall_mem_cons.mp hnone
      rw [List.map_cons, List.nodup_cons] at hdistinct
      rw [seed_cons, hfirst, List.foldl_cons]
      simp only [Bool.false_eq_true, if_false]
      refine ih ?_ hdistinct.2
      intro other hother
      have hne : rank other ≠ rank category := by
        intro hrank
        apply hdistinct.1
        rw [← Identifier.rank_injective (a := other.id) (b := category.id) hrank]
        exact List.mem_map_of_mem hother
      rw [contains_saveCategory, hrest other hother, decide_eq_false hne]
      rfl

end Catalog

/-- Whether the folders of a store are there. -/
def Disk.Ready (disk : Disk) (root : Path) : Prop :=
  ∀ folder ∈ [[], [DirectoryStore.typesFolder], [DirectoryStore.categoriesFolder]],
    disk.entry? (root.names ++ folder) = some .folder

namespace DirectoryStore

variable {format : DefinitionFormat} {root : Path} {disk after : Disk} {catalog : Catalog}

theorem replaceText_run_eq_ok {names : List String} {text : String} :
    (replaceText names text).run disk = .ok () after ↔
      disk.replace names text.toUTF8 = (.ok (), after) := by
  simp only [replaceText, EStateM.run]
  rcases disk.replace names text.toUTF8 with ⟨_ | _, changed⟩ <;> simp

theorem replaceText_run_eq_error {names : List String} {text : String} {error : SchemaError} :
    (replaceText names text).run disk = .error error after ↔
      ∃ reason, disk.replace names text.toUTF8 = (.error reason, after) ∧ error = .file reason := by
  simp only [replaceText, EStateM.run]
  rcases disk.replace names text.toUTF8 with ⟨_ | _, changed⟩ <;> simp [and_comm, eq_comm]

theorem makeFolders_run_eq_ok {names : List String} :
    (makeFolders names).run disk = .ok () after ↔ disk.makeFolders names = (.ok (), after) := by
  simp only [makeFolders, EStateM.run]
  rcases disk.makeFolders names with ⟨_ | _, changed⟩ <;> simp

/-- A file that lies in a folder of the store can be replaced, and the folders stay. -/
private theorem replaceText_eq_ok (hrecords : disk.Records format root catalog)
    (hready : disk.Ready root) {folder : List String}
    (hfolder : folder ∈ [[], [typesFolder], [categoriesFolder]]) (name text : String)
    (hfile : disk.entry? (root.names ++ folder ++ [name]) ≠ some .folder) :
    ∃ after, (replaceText (root.names ++ folder ++ [name]) text).run disk = .ok () after ∧
      disk.Replaced after (root.names ++ folder ++ [name]) text.toUTF8 ∧ after.Ready root := by
  have hplace : disk.entry? (root.names ++ folder ++ [name]).dropLast = some .folder := by
    rw [List.dropLast_concat]
    exact hready folder hfolder
  obtain ⟨after, hreplace, hreplaced⟩ :=
    Disk.replace_eq_ok text.toUTF8 hrecords.faultless (by simp) hplace hfile
  refine ⟨after, replaceText_run_eq_ok.mpr hreplace, hreplaced, ?_⟩
  intro other hother
  rw [hreplaced.other]
  · exact hready other hother
  · intro hsame
    exact hfile (hsame ▸ hready other hother)

theorem replaceType_eq_ok (hrecords : disk.Records format root catalog) (hready : disk.Ready root)
    (type : WorkItemType) :
    ∃ after, (replaceText (typeFile root type.id) (format.writeType type)).run disk =
        .ok () after ∧
      after.Records format root (catalog.save type) ∧ after.Ready root := by
  have hfile : disk.entry? (root.names ++ [typesFolder] ++ [type.fileName]) ≠ some .folder := by
    intro hentry
    obtain ⟨_, _, _, hfolder⟩ := (hrecords.types _ _).mp hentry
    cases hfolder
  obtain ⟨after, hrun, hreplaced, hkept⟩ := replaceText_eq_ok hrecords hready (by simp)
    type.fileName (format.writeType type) hfile
  rw [← typeFile_eq] at hrun hreplaced
  exact ⟨after, hrun, hrecords.save hreplaced, hkept⟩

theorem replaceCategory_eq_ok (hrecords : disk.Records format root catalog)
    (hready : disk.Ready root) (category : Category) :
    ∃ after, (replaceText (categoryFile root category.id) (format.writeCategory category)).run
        disk = .ok () after ∧
      after.Records format root (catalog.saveCategory category) ∧ after.Ready root := by
  have hfile : disk.entry? (root.names ++ [categoriesFolder] ++ [category.fileName]) ≠
      some .folder := by
    intro hentry
    obtain ⟨_, _, _, hfolder⟩ := (hrecords.categories _ _).mp hentry
    cases hfolder
  obtain ⟨after, hrun, hreplaced, hkept⟩ := replaceText_eq_ok hrecords hready (by simp)
    category.fileName (format.writeCategory category) hfile
  rw [← categoryFile_eq] at hrun hreplaced
  exact ⟨after, hrun, hrecords.saveCategory hreplaced, hkept⟩

theorem replaceLinks_eq_ok (hrecords : disk.Records format root catalog) (hready : disk.Ready root)
    {links : RankedList CategoryLink} (hlinks : links.elements ≠ []) :
    ∃ after, (replaceText (root.names ++ [linksFile]) (format.writeLinks links.elements)).run
        disk = .ok () after ∧
      after.Records format root {catalog with links} ∧ after.Ready root := by
  have hroot : root.names ++ [] ++ [linksFile] = root.names ++ [linksFile] := by
    rw [List.append_nil]
  have hfile : disk.entry? (root.names ++ [] ++ [linksFile]) ≠ some .folder := by
    rw [hroot]
    intro hentry
    cases ((hrecords.links _).mp hentry).2
  obtain ⟨after, hrun, hreplaced, hkept⟩ := replaceText_eq_ok hrecords hready (by simp)
    linksFile (format.writeLinks links.elements) hfile
  rw [hroot] at hrun hreplaced
  exact ⟨after, hrun, hrecords.link hlinks hreplaced, hkept⟩

theorem seed_cons_run (format : DefinitionFormat) (root : Path) (category : Category)
    (rest : List Category) (disk : Disk) :
    (seed format root (category :: rest)).run disk =
      if disk.contains (categoryFile root category.id) then (seed format root rest).run disk
      else (do
        replaceText (categoryFile root category.id) (format.writeCategory category)
        seed format root rest).run disk := by
  simp only [seed, EStateM.run_bind, EStateM.run_get]
  cases disk.contains (categoryFile root category.id) <;> rfl

/-- Seeding gives a file to each default category that the catalog does not have. -/
theorem seed_eq_ok (hrecords : disk.Records format root catalog) (hready : disk.Ready root)
    (defaults : List Category) :
    ∃ after, (seed format root defaults).run disk = .ok () after ∧
      after.Records format root (catalog.seed defaults) ∧ after.Ready root := by
  induction defaults generalizing disk catalog with
  | nil => exact ⟨disk, rfl, hrecords, hready⟩
  | cons category rest ih =>
      have hcontains := hrecords.categories.contains_iff Category.fileName_eq_iff category
      rw [← categoryFile_eq] at hcontains
      rw [seed_cons_run, hcontains, Catalog.seed_cons]
      split
      · exact ih hrecords hready
      · obtain ⟨middle, hwrite, hmiddle, hkept⟩ := replaceCategory_eq_ok hrecords hready category
        obtain ⟨after, hrest, hafter⟩ := ih hmiddle hkept
        refine ⟨after, ?_, hafter⟩
        rw [EStateM.run_bind, hwrite]
        exact hrest

/-- Making a folder of the store changes nothing that is recorded. -/
theorem makeFolders_eq_ok (hrecords : disk.Records format root catalog) (folder : String)
    (hmem : folder ∈ [typesFolder, categoriesFolder]) :
    ∃ after, (makeFolders (root.names ++ [folder])).run disk = .ok () after ∧
      after.Records format root catalog ∧
      ∀ way, after.entry? way =
        if way <+: root.names ++ [folder] then some .folder else disk.entry? way := by
  obtain ⟨after, hmake, hfaults, hfound⟩ :=
    Disk.entry?_makeFolders (hrecords.unblocked folder hmem)
  refine ⟨after, makeFolders_run_eq_ok.mpr hmake, ?_, hfound⟩
  have hsame : ∀ {way}, ¬ way <+: root.names ++ [folder] → after.entry? way = disk.entry? way := by
    intro way hway
    rw [hfound, if_neg hway]
  constructor
  · rw [hfaults, hrecords.faultless]
  · intro other hother way content hway
    rw [hfound]
    split
    · simp
    · exact hrecords.unblocked other hother way content hway
  · exact hrecords.types.congr fun name => hsame (by simp)
  · exact hrecords.categories.congr fun name => hsame (by simp)
  · intro entry
    have hlinks : ¬ root.names ++ [linksFile] <+: root.names ++ [folder] := by
      simp only [List.mem_cons, List.not_mem_nil, or_false] at hmem
      rcases hmem with rfl | rfl <;> simp [linksFile, typesFolder, categoriesFolder]
    rw [hsame hlinks]
    exact hrecords.links entry

/-- A run of opening that succeeds, step by step. -/
theorem openAt_eq_ok {defaults : List Category} {store : DirectoryStore} :
    (openAt format root defaults).run disk = .ok store after ↔
      ∃ first second catalog skipped,
        (makeFolders (root.names ++ [typesFolder])).run disk = .ok () first ∧
        (makeFolders (root.names ++ [categoriesFolder])).run first = .ok () second ∧
        (seed format root defaults).run second = .ok () after ∧
        load format after root = .ok (catalog, skipped) ∧
        store = {format, root, catalog, skipped, disk := after} := by
  simp only [openAt, Outcome.run_bind_eq_ok, EStateM.run_get, EStateM.Result.ok.injEq]
  constructor
  · rintro ⟨_, first, hfirst, _, second, hsecond, _, seeded, hseed, _, _, ⟨rfl, rfl⟩,
      ⟨catalog, skipped⟩, last, hload, hstore⟩
    cases hloaded : load format seeded root with
    | error error =>
        rw [hloaded] at hload
        cases hload
    | ok found =>
        rw [hloaded] at hload
        cases hload
        cases hstore
        exact ⟨first, second, catalog, skipped, hfirst, hsecond, hseed, hloaded, rfl⟩
  · rintro ⟨first, second, catalog, skipped, hfirst, hsecond, hseed, hload, rfl⟩
    refine ⟨(), first, hfirst, (), second, hsecond, (), after, hseed, after, after, ⟨rfl, rfl⟩,
      (catalog, skipped), after, ?_, rfl⟩
    rw [hload]
    rfl

/-- A store that is opened on a disk which records a catalog has that catalog, with the
default categories that were missing, and the disk records it. -/
theorem openAt_of_records (hrecords : disk.Records format root catalog)
    {defaults : List Category} (hreads : (catalog.seed defaults).ReadsBack format)
    (hknown : (catalog.seed defaults).LinksKnown) :
    ∃ after, (openAt format root defaults).run disk =
        .ok {format, root, catalog := catalog.seed defaults, skipped := [], disk := after} after ∧
      after.Records format root (catalog.seed defaults) ∧ after.Ready root := by
  obtain ⟨first, hfirst, hrecordsFirst, hfoundFirst⟩ :=
    makeFolders_eq_ok hrecords typesFolder (by simp)
  obtain ⟨second, hsecond, hrecordsSecond, hfoundSecond⟩ :=
    makeFolders_eq_ok hrecordsFirst categoriesFolder (by simp)
  have hready : second.Ready root := by
    intro folder hfolder
    rw [hfoundSecond, hfoundFirst]
    simp only [List.mem_cons, List.not_mem_nil, or_false] at hfolder
    rcases hfolder with rfl | rfl | rfl <;> simp
  obtain ⟨after, hseed, hafter, hkept⟩ := seed_eq_ok hrecordsSecond hready defaults
  have hload := load_eq_ok hafter (fun folder hmem => hkept [folder] (by simpa using hmem))
    hreads hknown
  exact ⟨after, openAt_eq_ok.mpr ⟨first, second, _, _, hfirst, hsecond, hseed, hload, rfl⟩,
    hafter, hkept⟩

/-- An empty folder records the empty catalog. -/
theorem records_of_vacant (hvacant : disk.Vacant root.names) (hfaults : disk.faults = []) :
    disk.Records format root {} := by
  have habsent : ∀ {more entry}, more ≠ [] → disk.entry? (root.names ++ more) ≠ some entry := by
    intro more entry hmore
    rw [hvacant.entry?_eq_none hmore]
    simp
  constructor
  · exact hfaults
  · intro folder _ way content hway
    rcases List.prefix_concat_iff.mp hway with rfl | hbelow
    · exact habsent (by simp)
    · exact hvacant.unblocked way content hbelow
  · intro name entry
    rw [List.append_assoc]
    exact iff_of_false (habsent (by simp)) (by rintro ⟨_, hmem, _⟩; cases hmem)
  · intro name entry
    rw [List.append_assoc]
    exact iff_of_false (habsent (by simp)) (by rintro ⟨_, hmem, _⟩; cases hmem)
  · intro entry
    exact iff_of_false (habsent (by simp)) (fun hlinks => hlinks.1 rfl)

end DirectoryStore

end WorkSchema
