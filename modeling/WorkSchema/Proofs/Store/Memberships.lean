import WorkSchema.Proofs.Store.Links
import WorkSchema.Proofs.Store.Loading

/-!
What becomes of the entries in the file of links. Opening a store leaves the file as it
is, but in memory there are only the links whose ends are known, and the first new link
makes the file be written from memory. From then on it has these links and the ones that
were asked for, and an entry that had to be left out, as one of its ends could not be
read, is gone also for those who repair that end.
-/

namespace WorkSchema

open DirectoryStore

namespace Disk

variable {format : DefinitionFormat} {root : Path} {disk after : Disk} {way : List String}
  {link : CategoryLink}

/-- Whether a link is an entry of the file of links. -/
def HasLink (disk : Disk) (format : DefinitionFormat) (root : Path) (link : CategoryLink) :
    Prop :=
  ∃ links, loadLinks format disk root = .ok links ∧ link ∈ links

theorem loadLinks_congr
    (hsame : after.entry? (root.names ++ [linksFile]) = disk.entry? (root.names ++ [linksFile])) :
    loadLinks format after root = loadLinks format disk root := by
  have hcontains : after.contains (root.names ++ [linksFile]) =
      disk.contains (root.names ++ [linksFile]) := by rw [contains, contains, hsame]
  simp only [loadLinks, hcontains]
  split
  · rename_i hfound
    obtain ⟨entry, hentry⟩ := Option.isSome_iff_exists.1 hfound
    have htext : after.readText (root.names ++ [linksFile]) =
        disk.readText (root.names ++ [linksFile]) := by
      rw [readText, readText, readBytes, readBytes, hsame, hentry]
      cases entry <;> rfl
    rw [htext]
  · rfl

theorem HasLink.congr
    (hsame : after.entry? (root.names ++ [linksFile]) = disk.entry? (root.names ++ [linksFile])) :
    after.HasLink format root link ↔ disk.HasLink format root link := by
  rw [HasLink, HasLink, loadLinks_congr hsame]

/-- A file that was written has the links that its text says. -/
theorem hasLink_iff_of_text {text : String} {links : List CategoryLink}
    (hentry : disk.entry? (root.names ++ [linksFile]) = some (.file text.toUTF8))
    (hreads : format.readLinks text = .ok links) :
    disk.HasLink format root link ↔ link ∈ links := by
  have hload : loadLinks format disk root = .ok links := by
    simp only [loadLinks, contains, hentry, Option.isSome_some, if_true, readText_eq_ok hentry,
      hreads]
    rfl
  simp [HasLink, hload]

private theorem entry?_makeFoldersBelow_other (above : List String) {rest : List String}
    (hother : ¬ way <+: above ++ rest) :
    entry? (disk.makeFoldersBelow above rest).2 way = disk.entry? way := by
  induction rest generalizing disk above with
  | nil => rfl
  | cons name rest ih =>
      have hsplit : above ++ name :: rest = above ++ [name] ++ rest := by simp
      rw [hsplit] at hother
      have hhere : way ≠ above ++ [name] := by
        rintro rfl
        exact hother (List.prefix_append _ _)
      simp only [makeFoldersBelow]
      cases disk.entry? (above ++ [name]) with
      | none =>
          rw [ih (above ++ [name]) hother, entry?_put disk (by simp), if_neg hhere]
      | some entry =>
          cases entry with
          | folder => exact ih (above ++ [name]) hother
          | file content => rfl

theorem entry?_makeFolders_other (disk : Disk) {names : List String} (hother : ¬ way <+: names) :
    entry? (disk.makeFolders names).2 way = disk.entry? way :=
  entry?_makeFoldersBelow_other [] hother

end Disk

namespace DirectoryStore

variable {format : DefinitionFormat} {root : Path} {disk after : Disk}
  {defaults : List Category} {opened : DirectoryStore}

/-- Seeding writes to files of categories only. -/
theorem entry?_of_seed (hseed : (seed format root defaults).run disk = .ok () after)
    {way : List String} (hother : ∀ category : Category, way ≠ categoryFile root category.id) :
    after.entry? way = disk.entry? way := by
  induction defaults generalizing disk with
  | nil =>
      cases hseed
      rfl
  | cons category rest ih =>
      rw [seed_cons_run] at hseed
      split at hseed
      · exact ih hseed
      · obtain ⟨_, middle, hwrite, hrest⟩ := Outcome.run_bind_eq_ok.1 hseed
        obtain ⟨_, _, hentries⟩ := Disk.of_replace_ok (replaceText_run_eq_ok.1 hwrite)
        rw [ih hrest, Disk.entry?_of_putEntry (by simp [categoryFile]) hentries,
          if_neg (hother category)]

/-- Opening a store leaves the file of links as it is. -/
theorem linksFile_of_openAt (hopen : (openAt format root defaults).run disk = .ok opened after) :
    after.entry? (root.names ++ [linksFile]) = disk.entry? (root.names ++ [linksFile]) := by
  obtain ⟨first, second, _, _, hfirst, hsecond, hseed, _, _⟩ := openAt_eq_ok.1 hopen
  have htypes := Disk.entry?_makeFolders_other disk
    (show ¬ root.names ++ [linksFile] <+: root.names ++ [typesFolder] by
      simp [linksFile, typesFolder])
  have hcategories := Disk.entry?_makeFolders_other first
    (show ¬ root.names ++ [linksFile] <+: root.names ++ [categoriesFolder] by
      simp [linksFile, categoriesFolder])
  rw [makeFolders_run_eq_ok.1 hfirst] at htypes
  rw [makeFolders_run_eq_ok.1 hsecond] at hcategories
  rw [entry?_of_seed hseed (by simp [categoryFile])]
  exact hcategories.trans htypes

end DirectoryStore

namespace Catalog

variable {catalog : Catalog} {link : CategoryLink}

theorem type?_foldl_addKnownLink (links : List CategoryLink) (catalog : Catalog) (id : TypeId) :
    (links.foldl addKnownLink catalog).type? id = catalog.type? id :=
  congrArg (RankedList.find? · _) (definitions_addKnownLink links catalog).1

theorem category?_foldl_addKnownLink (links : List CategoryLink) (catalog : Catalog)
    (id : CategoryId) :
    (links.foldl addKnownLink catalog).category? id = catalog.category? id :=
  congrArg (RankedList.find? · _) (definitions_addKnownLink links catalog).2

theorem mem_links_addKnownLink {other : CategoryLink} :
    link ∈ (catalog.addKnownLink other).links.elements ↔
      link ∈ catalog.links.elements ∨ (link = other ∧
        (catalog.type? link.type).isSome ∧ (catalog.category? link.category).isSome) := by
  have hinsert : link ∈ (catalog.links.insert other).elements ↔
      link = other ∨ link ∈ catalog.links.elements := by
    have hall : catalog.links.insert other = catalog.links.insertAll [other] := rfl
    rw [hall, RankedList.mem_insertAll_iff fun _ _ => CategoryLink.rank_injective,
      List.mem_singleton]
  rw [addKnownLink]
  split
  · rename_i hends
    rw [Bool.and_eq_true] at hends
    change link ∈ (catalog.links.insert other).elements ↔ _
    rw [hinsert]
    constructor
    · rintro (rfl | hold)
      · exact .inr ⟨rfl, hends⟩
      · exact .inl hold
    · rintro (hold | ⟨rfl, _⟩)
      · exact .inr hold
      · exact .inl rfl
  · rename_i hends
    rw [Bool.and_eq_true] at hends
    constructor
    · exact .inl
    · rintro (hold | ⟨rfl, hknown⟩)
      · exact hold
      · exact absurd hknown hends

/-- Of the links that are read those with known ends are kept, and no others. -/
theorem mem_links_foldl_addKnownLink {links : List CategoryLink} :
    link ∈ (links.foldl addKnownLink catalog).links.elements ↔
      link ∈ catalog.links.elements ∨ (link ∈ links ∧
        (catalog.type? link.type).isSome ∧ (catalog.category? link.category).isSome) := by
  induction links generalizing catalog with
  | nil => simp
  | cons other rest ih =>
      have htype : (catalog.addKnownLink other).type? link.type = catalog.type? link.type :=
        type?_foldl_addKnownLink [other] catalog link.type
      have hcategory : (catalog.addKnownLink other).category? link.category =
          catalog.category? link.category :=
        category?_foldl_addKnownLink [other] catalog link.category
      rw [List.foldl_cons, ih, mem_links_addKnownLink, htype, hcategory, List.mem_cons]
      tauto

end Catalog

namespace DirectoryStore

variable {format : DefinitionFormat} {root : Path} {disk after : Disk}
  {defaults : List Category} {opened : DirectoryStore}

/-- A store that is opened has the entries of the file of links whose ends it knows. -/
theorem mem_links_of_openAt (hopen : (openAt format root defaults).run disk = .ok opened after)
    (link : CategoryLink) :
    link ∈ opened.catalog.links.elements ↔ disk.HasLink format root link ∧
      (opened.catalog.type? link.type).isSome ∧
        (opened.catalog.category? link.category).isSome := by
  have hfile := linksFile_of_openAt hopen
  obtain ⟨_, _, catalog, _, _, _, _, hload, rfl⟩ := openAt_eq_ok.1 hopen
  simp only [load, Outcome.bind_eq_ok] at hload
  obtain ⟨types, _, categories, _, links, hlinks, hresult⟩ := hload
  have hnone : (categories.items.foldl Catalog.saveCategory
      (types.items.foldl Catalog.save {})).links.elements = [] := by
    rw [foldl_save, foldl_saveCategory]
    rfl
  generalize categories.items.foldl Catalog.saveCategory (types.items.foldl Catalog.save {}) = start
    at hresult hnone
  cases hresult
  rw [← Disk.HasLink.congr hfile, Disk.HasLink, hlinks, Catalog.mem_links_foldl_addKnownLink,
    Catalog.type?_foldl_addKnownLink, Catalog.category?_foldl_addKnownLink, hnone]
  simp

/-- A type and a category that a store knows are linked in it as the file of links says. -/
theorem linked_of_openAt (hopen : (openAt format root defaults).run disk = .ok opened after)
    {link : CategoryLink} (htype : (opened.catalog.type? link.type).isSome)
    (hcategory : (opened.catalog.category? link.category).isSome) :
    (∃ categories, opened.catalog.categoriesOf link.type = .ok categories ∧
      link.category ∈ categories) ↔ disk.HasLink format root link := by
  have hmem := mem_links_of_openAt hopen link
  rw [and_iff_left ⟨htype, hcategory⟩] at hmem
  rw [← hmem]
  constructor
  · rintro ⟨categories, hcategories, hlinked⟩
    exact (Catalog.mem_categoriesOf hcategories).1 hlinked
  · intro hlinked
    have hcategories := Catalog.categoriesOf_eq_ok.2 ⟨htype, rfl⟩
    exact ⟨_, hcategories, (Catalog.mem_categoriesOf hcategories).2 hlinked⟩

end DirectoryStore

/-- Whether some operation puts a type into a category. -/
def StoreOperation.LinkRequested (operations : List StoreOperation) (link : CategoryLink) : Prop :=
  ∃ categories, .linkCategories link.type categories ∈ operations ∧ link.category ∈ categories

/-- What a run does to the links of a store: those that were asked for are added in
memory, and the file is as it was or has what is in memory, the latter only if there was
something new. -/
structure DirectoryStore.Links (before after : DirectoryStore) (operations : List StoreOperation) :
    Prop where
  sameFormat : after.format = before.format
  sameRoot : after.root = before.root
  mem : ∀ link, link ∈ after.catalog.links.elements ↔
    link ∈ before.catalog.links.elements ∨ StoreOperation.LinkRequested operations link
  file :
    (after.catalog.links = before.catalog.links ∧
      after.disk.entry? (before.root.names ++ [linksFile]) =
        before.disk.entry? (before.root.names ++ [linksFile])) ∨
    ((∃ link ∈ after.catalog.links.elements, link ∉ before.catalog.links.elements) ∧
      after.disk.entry? (before.root.names ++ [linksFile]) =
        some (.file (before.format.writeLinks after.catalog.links.elements).toUTF8))

namespace DirectoryStore.Links

open StoreOperation

variable {before middle after : DirectoryStore} {defaults : List Category}
  {operation : StoreOperation} {operations : List StoreOperation}

theorem refl (store : DirectoryStore) : Links store store [] :=
  ⟨rfl, rfl, by simp [LinkRequested], .inl ⟨rfl, rfl⟩⟩

theorem cons (hfirst : Links before middle [operation]) (hrest : Links middle after operations) :
    Links before after (operation :: operations) := by
  obtain ⟨hformat, hroot, hmem, hfile⟩ := hfirst
  obtain ⟨hformat', hroot', hmem', hfile'⟩ := hrest
  rw [hroot, hformat] at hfile'
  refine ⟨hformat'.trans hformat, hroot'.trans hroot, ?_, ?_⟩
  · intro link
    rw [hmem', hmem, or_assoc]
    refine or_congr_right ?_
    simp only [LinkRequested, List.mem_cons, List.not_mem_nil, or_false, or_and_right, exists_or]
  · rcases hfile' with ⟨hlinks', hsame'⟩ | ⟨⟨link, hafter, hnew⟩, hwritten⟩
    · rw [hlinks', hsame']
      exact hfile
    · exact .inr ⟨⟨link, hafter, fun hold => hnew ((hmem link).2 (.inl hold))⟩, hwritten⟩

/-- An operation that asks for no link leaves them alone if it writes elsewhere. -/
theorem of_replace {names : List String} {text : String} {change : Catalog → Catalog}
    (hrequest : ∀ link, ¬ LinkRequested [operation] link)
    (hnames : names ≠ []) (hother : before.root.names ++ [linksFile] ≠ names)
    (hchange : (change before.catalog).links = before.catalog.links)
    (hrun : (do write names text; setCatalog change : StoreM DirectoryStore Unit).run before =
      .ok () after) : Links before after [operation] := by
  obtain ⟨disk, hreplace, rfl⟩ := replace_run_eq_ok.1 hrun
  obtain ⟨_, _, hentries⟩ := Disk.of_replace_ok (replaceText_run_eq_ok.1 hreplace)
  refine ⟨rfl, rfl, ?_, .inl ⟨hchange, ?_⟩⟩
  · intro link
    rw [hchange, or_iff_left (hrequest link)]
  · rw [Disk.entry?_of_putEntry hnames hentries, if_neg hother]

/-- Linking adds what is asked for, and writes all links if one of them is new. -/
theorem of_link {id : TypeId} {categories : List CategoryId}
    (hrun : (TypeStore.link id categories).run before = .ok () after) :
    Links before after [.linkCategories id categories] := by
  have hrequest : ∀ link : CategoryLink, LinkRequested [.linkCategories id categories] link ↔
      link ∈ categories.map (⟨id, ·⟩) := by
    intro link
    simp only [LinkRequested, List.mem_singleton, linkCategories.injEq, List.mem_map]
    constructor
    · rintro ⟨_, ⟨rfl, rfl⟩, hmem⟩
      exact ⟨link.category, hmem, rfl⟩
    · rintro ⟨category, hmem, rfl⟩
      exact ⟨categories, ⟨rfl, rfl⟩, hmem⟩
  have hlink := (link_run id categories before).symm.trans hrun
  split at hlink
  · cases hlink
  · rename_i linked hlinked
    obtain ⟨_, _, rfl⟩ := Catalog.link_eq_ok.1 hlinked
    have hmem : ∀ link : CategoryLink,
        link ∈ (before.catalog.links.insertAll (categories.map (⟨id, ·⟩))).elements ↔
          link ∈ before.catalog.links.elements ∨
            LinkRequested [.linkCategories id categories] link := by
      intro link
      rw [RankedList.mem_insertAll_iff fun _ _ => CategoryLink.rank_injective, hrequest, or_comm]
    split at hlink
    · rename_i hsize
      have hself := RankedList.insertAll_eq_self (fun _ _ => CategoryLink.rank_injective) hsize
      cases hlink
      refine ⟨rfl, rfl, ?_, .inl ⟨rfl, rfl⟩⟩
      simpa only [hself] using hmem
    · rename_i hsize
      obtain ⟨disk, hreplace, rfl⟩ := replace_run_eq_ok.1 hlink
      obtain ⟨_, _, hentries⟩ := Disk.of_replace_ok (replaceText_run_eq_ok.1 hreplace)
      refine ⟨rfl, rfl, hmem, .inr ⟨?_, ?_⟩⟩
      · by_contra hnone
        apply hsize
        have hold : ∀ link ∈ categories.map (CategoryLink.mk id ·),
            link ∈ before.catalog.links.elements := by
          intro link hnew
          by_contra hnot
          exact hnone ⟨link, (hmem link).2 (.inr ((hrequest link).2 hnew)), hnot⟩
        exact congrArg RankedList.size (RankedList.insertAll_of_mem hold)
      · rw [Disk.entry?_of_putEntry (by simp) hentries, if_pos rfl]

/-- Where nothing new is asked for, the file keeps its entries, the known and the others. -/
theorem hasLink_iff_of_known (hlinks : Links before after operations)
    (hknown : ∀ other, LinkRequested operations other → other ∈ before.catalog.links.elements)
    {link : CategoryLink} :
    after.disk.HasLink before.format before.root link ↔
      before.disk.HasLink before.format before.root link := by
  rcases hlinks.file with ⟨_, hfile⟩ | ⟨⟨new, hnew, hfresh⟩, _⟩
  · exact Disk.HasLink.congr hfile
  · exact absurd (((hlinks.mem new).1 hnew).elim id (hknown new)) hfresh

/-- Where something new is asked for, the file has that and what was known in memory, and
nothing else. -/
theorem hasLink_iff_of_new (hlinks : Links before after operations)
    (hnew : ¬ ∀ other, LinkRequested operations other → other ∈ before.catalog.links.elements)
    (hreads : before.format.readLinks (before.format.writeLinks after.catalog.links.elements) =
      .ok after.catalog.links.elements) {link : CategoryLink} :
    after.disk.HasLink before.format before.root link ↔
      link ∈ before.catalog.links.elements ∨ LinkRequested operations link := by
  rcases hlinks.file with ⟨hsame, _⟩ | ⟨_, hfile⟩
  · exfalso
    apply hnew
    intro other hother
    rw [← hsame]
    exact (hlinks.mem other).2 (.inr hother)
  · rw [Disk.hasLink_iff_of_text hfile hreads, hlinks.mem]

end DirectoryStore.Links

namespace StoreOperation

variable {defaults : List Category} {store : DirectoryStore}

private theorem run_of_answer {action : StoreM DirectoryStore Unit} {response : StoreResponse}
    (hanswer : Outcome.answer ((do
        action
        return StoreResponse.done : StoreM DirectoryStore StoreResponse).run store) =
      .ok response) :
    action.run store = .ok () (Outcome.endState (action.run store)) := by
  rw [EStateM.run_bind] at hanswer
  cases hrun : action.run store with
  | ok value after => rfl
  | error error after =>
      rw [hrun] at hanswer
      cases hanswer

/-- What one operation that succeeds does to the links. -/
theorem links_next {operation : StoreOperation} {response : StoreResponse}
    (hkept : ∀ withDefaults, operation ≠ .reopen withDefaults)
    (hanswer : answer defaults store operation = .ok response) :
    store.Links (next defaults store operation) [operation] := by
  unfold answer at hanswer
  unfold next
  cases operation with
  | save type =>
      have hrun := (save_run type store).symm.trans (run_of_answer hanswer)
      rw [perform, endState_write]
      exact .of_replace (by simp [LinkRequested]) (by simp [typeFile]) (by simp [typeFile]) rfl hrun
  | saveCategory category =>
      have hrun := (saveCategory_run category store).symm.trans (run_of_answer hanswer)
      rw [perform, endState_write]
      exact .of_replace (by simp [LinkRequested]) (by simp [categoryFile])
        (by simp [categoryFile]) rfl hrun
  | linkCategories id categories =>
      rw [perform, endState_write]
      exact .of_link (run_of_answer hanswer)
  | reopen withDefaults => exact absurd rfl (hkept withDefaults)
  | load | list | loadCategory | listCategories | categoriesOf | typesIn =>
      rw [perform, endState_consult]
      exact ⟨rfl, rfl, by simp [LinkRequested], .inl ⟨rfl, rfl⟩⟩

/-- What a run does to the links, if all of its operations succeed. -/
theorem links_after {operations : List StoreOperation}
    (hkept : ∀ withDefaults, .reopen withDefaults ∉ operations)
    (hanswers : ∀ reply ∈ answers defaults store operations, ∃ response, reply = .ok response) :
    store.Links (after defaults store operations) operations := by
  induction operations generalizing store with
  | nil => exact .refl store
  | cons operation rest ih =>
      obtain ⟨⟨response, hfirst⟩, hrest⟩ := List.forall_mem_cons.1 hanswers
      have hstep : store.Links (next defaults store operation) [operation] := by
        apply links_next _ hfirst
        rintro withDefaults rfl
        exact hkept withDefaults List.mem_cons_self
      exact hstep.cons (ih (fun withDefaults hmem =>
        hkept withDefaults (List.mem_cons_of_mem _ hmem)) hrest)

end StoreOperation

namespace DirectoryStore

open StoreOperation

variable {format : DefinitionFormat} {root : Path} {disk started : Disk}
  {defaults : List Category} {opened : DirectoryStore} {operations : List StoreOperation}
  {link : CategoryLink}

/-- An entry that the file of links had when a store was opened is still there after a run,
all of whose operations succeeded, exactly if both of its ends were known when the store
was opened, or nothing new was linked, or the link itself was asked for. A store that is
opened later, when both ends can be read, has the link under the same condition. -/
theorem entry_kept_iff (hopen : (openAt format root defaults).run disk = .ok opened started)
    (hkept : ∀ withDefaults, .reopen withDefaults ∉ operations)
    (hanswers : ∀ reply ∈ answers defaults opened operations, ∃ response, reply = .ok response)
    (hreads : format.readLinks (format.writeLinks
        (after defaults opened operations).catalog.links.elements) =
      .ok (after defaults opened operations).catalog.links.elements)
    (hentry : disk.HasLink format root link) :
    let last := (after defaults opened operations).disk
    let stays := ((opened.catalog.type? link.type).isSome ∧
        (opened.catalog.category? link.category).isSome) ∨
      (∀ other, LinkRequested operations other → other ∈ opened.catalog.links.elements) ∨
      LinkRequested operations link
    (last.HasLink format root link ↔ stays) ∧
      ∀ repaired offered reopened reached,
        repaired.entry? (root.names ++ [linksFile]) = last.entry? (root.names ++ [linksFile]) →
        (openAt format root offered).run repaired = .ok reopened reached →
        (reopened.catalog.type? link.type).isSome →
        (reopened.catalog.category? link.category).isSome →
          ((∃ categories, reopened.catalog.categoriesOf link.type = .ok categories ∧
            link.category ∈ categories) ↔ stays) := by
  intro last stays
  have hlinks := links_after hkept hanswers
  have hfile := linksFile_of_openAt hopen
  have hmem := mem_links_of_openAt hopen link
  rw [and_iff_right hentry] at hmem
  obtain ⟨_, rfl, rfl, rfl, _⟩ := asLoaded_of_openAt hopen
  have hstays : last.HasLink opened.format opened.root link ↔ stays := by
    by_cases hknown : ∀ other, LinkRequested operations other →
        other ∈ opened.catalog.links.elements
    · rw [hlinks.hasLink_iff_of_known hknown, Disk.HasLink.congr hfile]
      exact iff_of_true hentry (.inr (.inl hknown))
    · rw [hlinks.hasLink_iff_of_new hknown hreads, hmem]
      exact or_congr_right (or_iff_right hknown).symm
  refine ⟨hstays, ?_⟩
  intro repaired offered reopened reached hrepaired hreopen htype hcategory
  rw [linked_of_openAt hreopen htype hcategory, Disk.HasLink.congr hrepaired]
  exact hstays

section Damaged

def story : WorkItemType := {id := .ofNat 3, name := "Story"}

def planned : Category := {id := .ofNat 1, name := "planner.requirements"}

/-- A type of which there is a file that cannot be read as a type. -/
def damagedType : TypeId := .ofNat 2

def damagedLink : CategoryLink := ⟨damagedType, planned.id⟩

def storyLink : CategoryLink := ⟨story.id, planned.id⟩

/-- A folder in which the type with the damaged file is in a category. -/
def damagedFolder : Disk where
  entries := [([typesFolder], .folder), ([categoriesFolder], .folder),
    ([typesFolder, fileName damagedType.toText], .file "fields: none".toUTF8),
    ([typesFolder, fileName story.id.toText],
      .file (DefinitionFormat.yaml.writeType story).toUTF8),
    ([categoriesFolder, fileName planned.id.toText],
      .file (DefinitionFormat.yaml.writeCategory planned).toUTF8),
    ([linksFile], .file (DefinitionFormat.yaml.writeLinks [damagedLink]).toUTF8)]

theorem links_readBack (link : CategoryLink) (hlink : link ∈ [damagedLink, storyLink]) :
    DefinitionFormat.yaml.readLinks (DefinitionFormat.yaml.writeLinks [link]) = .ok [link] := by
  simp only [List.mem_cons, List.not_mem_nil, or_false] at hlink
  refine Outcome.eq_ok_of_any (fun links => decide (links = [link])) (fun _ => of_decide_eq_true) ?_
  rcases hlink with rfl | rfl <;> decide +kernel

private theorem load_damaged :
    (load .yaml damagedFolder ⟨"."⟩).toOption.any (fun loaded =>
      decide (loaded.1.links.elements = [] ∧ (loaded.1.type? story.id).isSome ∧
        (loaded.1.type? damagedType).isNone ∧ (loaded.1.category? planned.id).isSome ∧
        loaded.2.map (·.path) =
          [(⟨"./types/00000000000000000000000002.yaml"⟩ : Path)])) = true := by
  have hfiles : damagedFolder.list [typesFolder] =
      .ok [fileName damagedType.toText, fileName story.id.toText] := rfl
  have hfiles' : damagedFolder.list [categoriesFolder] = .ok [fileName planned.id.toText] := rfl
  have hdamaged : damagedFolder.readText [typesFolder, fileName damagedType.toText] =
      .ok "fields: none" := Disk.readText_eq_ok rfl
  have hstory : damagedFolder.readText [typesFolder, fileName story.id.toText] =
      .ok (DefinitionFormat.yaml.writeType story) := Disk.readText_eq_ok rfl
  have hplanned : damagedFolder.readText [categoriesFolder, fileName planned.id.toText] =
      .ok (DefinitionFormat.yaml.writeCategory planned) := Disk.readText_eq_ok rfl
  have hlinks : damagedFolder.readText [linksFile] =
      .ok (DefinitionFormat.yaml.writeLinks [damagedLink]) := Disk.readText_eq_ok rfl
  have hfound : damagedFolder.contains [linksFile] = true := rfl
  have hread := links_readBack damagedLink (by simp)
  simp only [load, loadFolder, loadFiles, loadLinks, Path.names_workingFolder, List.nil_append,
    List.cons_append, hfiles, hfiles', extensionOf?_fileName, if_true, hdamaged, hstory, hplanned,
    hfound, hlinks, hread]
  decide +kernel

/-- The store opened there skips the damaged file, and knows the other type and the
category. -/
private theorem openAt_damaged :
    ∃ opened, (openAt .yaml ⟨"."⟩ []).run damagedFolder = .ok opened damagedFolder ∧
      opened.skipped.map (·.path) = [⟨"./types/00000000000000000000000002.yaml"⟩] ∧
      opened.catalog.links.elements = [] ∧ (opened.catalog.type? damagedType).isNone ∧
      (opened.catalog.type? story.id).isSome ∧ (opened.catalog.category? planned.id).isSome := by
  have hloaded := load_damaged
  cases hload : load .yaml damagedFolder ⟨"."⟩ with
  | error error =>
      rw [hload] at hloaded
      cases hloaded
  | ok loaded =>
      rw [hload] at hloaded
      obtain ⟨hlinks, hstory, hdamaged, hplanned, hskipped⟩ := of_decide_eq_true hloaded
      refine ⟨_, openAt_eq_ok.2 ⟨damagedFolder, damagedFolder, loaded.1, loaded.2, ?_, ?_, rfl,
        hload, rfl⟩, hskipped, hlinks, hdamaged, hstory, hplanned⟩
      all_goals
        rw [Path.names_workingFolder]
        rfl

/-- The file of links can be written there. -/
private theorem write_damaged (text : String) :
    ∃ after, (replaceText [linksFile] text).run damagedFolder = .ok () after := by
  have hlinks : damagedFolder.entry? [linksFile] =
      some (.file (DefinitionFormat.yaml.writeLinks [damagedLink]).toUTF8) := rfl
  have hfile : damagedFolder.entry? [linksFile] ≠ some .folder := by
    rw [hlinks]
    nofun
  obtain ⟨after, hreplace, _⟩ := Disk.replace_eq_ok text.toUTF8
    (show damagedFolder.faults = [] from rfl) (by simp) rfl hfile
  exact ⟨after, replaceText_run_eq_ok.2 hreplace⟩

/-- Putting the other type into the category succeeds, and its link is the only one that
the store has then. -/
private theorem link_story {opened : DirectoryStore}
    (hopen : (openAt .yaml ⟨"."⟩ []).run damagedFolder = .ok opened damagedFolder)
    (hlinks : opened.catalog.links.elements = [])
    (hstory : (opened.catalog.type? story.id).isSome)
    (hplanned : (opened.catalog.category? planned.id).isSome) :
    answer [] opened (.linkCategories story.id [planned.id]) = .ok .done ∧
      (next [] opened (.linkCategories story.id [planned.id])).catalog.links.elements =
        [storyLink] := by
  obtain ⟨_, hformat, hroot, hdisk, _⟩ := asLoaded_of_openAt hopen
  let linked : Catalog :=
    {opened.catalog with links := opened.catalog.links.insertAll [storyLink]}
  have helements : linked.links.elements = [storyLink] := by
    change RankedList.place storyLink opened.catalog.links.elements = _
    rw [hlinks]
    rfl
  have hsize : linked.links.size ≠ opened.catalog.links.size := by
    rw [RankedList.size, RankedList.size, helements, hlinks]
    decide
  have hlinked : opened.catalog.link story.id [planned.id] = .ok linked :=
    Catalog.link_eq_ok.2 ⟨hstory, List.forall_mem_singleton.2 hplanned, rfl⟩
  obtain ⟨disk, hwrite⟩ := write_damaged (DefinitionFormat.yaml.writeLinks linked.links.elements)
  have hrun : (TypeStore.link story.id [planned.id]).run opened =
      .ok () {opened with disk, catalog := linked} := by
    refine (link_run story.id [planned.id] opened).trans ?_
    rw [hlinked]
    refine (if_neg hsize).trans (replace_run_eq_ok.2 ⟨disk, ?_, rfl⟩)
    rw [hformat, hroot, hdisk, Path.names_workingFolder]
    exact hwrite
  unfold answer next
  rw [perform, endState_write, EStateM.run_bind, hrun]
  exact ⟨rfl, helements⟩

/-- What there is at the start and after the run in the damaged folder. -/
private theorem run_damaged :
    ∃ opened, (openAt .yaml ⟨"."⟩ []).run damagedFolder = .ok opened damagedFolder ∧
      opened.skipped.map (·.path) = [⟨"./types/00000000000000000000000002.yaml"⟩] ∧
      damagedFolder.HasLink .yaml ⟨"."⟩ damagedLink ∧ opened.catalog.links.elements = [] ∧
      answer [] opened (.linkCategories story.id [planned.id]) = .ok .done ∧
      (next [] opened (.linkCategories story.id [planned.id])).catalog.links.elements =
        [storyLink] := by
  obtain ⟨opened, hopen, hskipped, hlinks, _, hstory, hplanned⟩ := openAt_damaged
  obtain ⟨hanswer, hstored⟩ := link_story hopen hlinks hstory hplanned
  refine ⟨opened, hopen, hskipped, ?_, hlinks, hanswer, hstored⟩
  have hentry : damagedFolder.entry? ((⟨"."⟩ : Path).names ++ [linksFile]) =
      some (.file (DefinitionFormat.yaml.writeLinks [damagedLink]).toUTF8) := by
    rw [Path.names_workingFolder]
    rfl
  exact (Disk.hasLink_iff_of_text hentry (links_readBack damagedLink (by simp))).2 (by simp)

/-- The result applies to this run, in which an entry is lost. -/
theorem entry_kept_iff_damaged :
    let operations := [.linkCategories story.id [planned.id]]
    ∃ opened, (openAt .yaml ⟨"."⟩ []).run damagedFolder = .ok opened damagedFolder ∧
      damagedFolder.HasLink .yaml ⟨"."⟩ damagedLink ∧
      ((after [] opened operations).disk.HasLink .yaml ⟨"."⟩ damagedLink ↔
        ((opened.catalog.type? damagedType).isSome ∧
            (opened.catalog.category? planned.id).isSome) ∨
          (∀ other, LinkRequested operations other → other ∈ opened.catalog.links.elements) ∨
          LinkRequested operations damagedLink) := by
  intro operations
  obtain ⟨opened, hopen, _, hentry, _, hanswer, hstored⟩ := run_damaged
  have hanswers : ∀ reply ∈ answers [] opened operations, ∃ response, reply = .ok response :=
    List.forall_mem_singleton.2 ⟨_, hanswer⟩
  have hreads : DefinitionFormat.yaml.readLinks (DefinitionFormat.yaml.writeLinks
      (after [] opened operations).catalog.links.elements) =
        .ok (after [] opened operations).catalog.links.elements := by
    change DefinitionFormat.yaml.readLinks (DefinitionFormat.yaml.writeLinks
      (next [] opened (.linkCategories story.id [planned.id])).catalog.links.elements) =
        .ok (next [] opened (.linkCategories story.id [planned.id])).catalog.links.elements
    rw [hstored]
    exact links_readBack storyLink (by simp)
  exact ⟨opened, hopen, hentry, (entry_kept_iff hopen (by simp [operations]) hanswers hreads
    hentry).1⟩

/-- The entry of the type that was skipped is lost as soon as another type is linked. -/
theorem entry_lost :
    ∃ opened, (openAt .yaml ⟨"."⟩ []).run damagedFolder = .ok opened damagedFolder ∧
      opened.skipped.map (·.path) = [⟨"./types/00000000000000000000000002.yaml"⟩] ∧
      damagedFolder.HasLink .yaml ⟨"."⟩ damagedLink ∧
      answer [] opened (.linkCategories story.id [planned.id]) = .ok .done ∧
      ¬ (after [] opened [.linkCategories story.id [planned.id]]).disk.HasLink .yaml ⟨"."⟩
        damagedLink := by
  obtain ⟨opened, hopen, hskipped, hentry, hnone, hanswer, hstored⟩ := run_damaged
  refine ⟨opened, hopen, hskipped, hentry, hanswer, ?_⟩
  obtain ⟨_, hformat, hroot, _, _⟩ := asLoaded_of_openAt hopen
  have hlinks := links_next (by simp) hanswer
  rcases hlinks.file with ⟨hsame, _⟩ | ⟨_, hfile⟩
  · rw [hsame, hnone] at hstored
    cases hstored
  · rw [hformat, hroot, hstored] at hfile
    change ¬ (next [] opened (.linkCategories story.id [planned.id])).disk.HasLink .yaml ⟨"."⟩
      damagedLink
    rw [Disk.hasLink_iff_of_text hfile (links_readBack storyLink (by simp))]
    decide

end Damaged

end DirectoryStore

end WorkSchema
