import WorkSchema.Proofs.Store.Laws
import WorkSchema.Proofs.Store.Opening
import WorkSchema.Proofs.Store.Run

/-!
The links between types and categories. Both ends of every link are known, however a
store came to hold what it holds: a link is made between known ends only, and nothing
that is known is ever taken away. What a type is linked to and what is linked to a
category are two readings of one list of links, each in ascending order.
-/

namespace WorkSchema

namespace Catalog

variable {catalog linked : Catalog} {id type : TypeId} {category : CategoryId}
  {categories : List CategoryId} {types : List TypeId}

namespace LinksKnown

theorem save (hknown : catalog.LinksKnown) (type : WorkItemType) :
    (catalog.save type).LinksKnown := by
  intro link hmem
  obtain ⟨htype, hcategory⟩ := hknown link hmem
  refine ⟨?_, hcategory⟩
  rw [type?_save]
  split
  · rfl
  · exact htype

theorem saveCategory (hknown : catalog.LinksKnown) (category : Category) :
    (catalog.saveCategory category).LinksKnown := by
  intro link hmem
  obtain ⟨htype, hcategory⟩ := hknown link hmem
  refine ⟨htype, ?_⟩
  rw [category?, Catalog.saveCategory, RankedList.find?_insert]
  split
  · rfl
  · exact hcategory

theorem seed (hknown : catalog.LinksKnown) (defaults : List Category) :
    (catalog.seed defaults).LinksKnown := by
  induction defaults generalizing catalog with
  | nil => exact hknown
  | cons category rest ih =>
      rw [seed_cons]
      split
      · exact ih hknown
      · exact ih (hknown.saveCategory category)

theorem link (hknown : catalog.LinksKnown) (hlink : catalog.link id categories = .ok linked) :
    linked.LinksKnown := by
  obtain ⟨htype, hcategories, rfl⟩ := link_eq_ok.mp hlink
  intro link hmem
  rcases RankedList.mem_insertAll hmem with hnew | hold
  · obtain ⟨category, hcategory, rfl⟩ := List.mem_map.mp hnew
    exact ⟨htype, hcategories category hcategory⟩
  · exact hknown link hold

theorem addKnownLink (hknown : catalog.LinksKnown) (link : CategoryLink) :
    (catalog.addKnownLink link).LinksKnown := by
  rw [Catalog.addKnownLink]
  split
  · rename_i hends
    rw [Bool.and_eq_true] at hends
    intro other hmem
    rcases RankedList.mem_insert hmem with rfl | hold
    · exact hends
    · exact hknown other hold
  · exact hknown

theorem foldl_addKnownLink (hknown : catalog.LinksKnown) (links : List CategoryLink) :
    (links.foldl Catalog.addKnownLink catalog).LinksKnown := by
  induction links generalizing catalog with
  | nil => exact hknown
  | cons link rest ih => exact ih (hknown.addKnownLink link)

end LinksKnown

theorem categoriesOf_eq_ok :
    catalog.categoriesOf type = .ok categories ↔ (catalog.type? type).isSome ∧
      categories = (catalog.links.elements.filter (·.type == type)).map (·.category) := by
  simp only [categoriesOf, Outcome.bind_eq_ok, load_eq_ok, Option.isSome_iff_exists]
  constructor
  · rintro ⟨found, hfound, hresult⟩
    cases hresult
    exact ⟨⟨found, hfound⟩, rfl⟩
  · rintro ⟨⟨found, hfound⟩, rfl⟩
    exact ⟨found, hfound, rfl⟩

theorem typesIn_eq_ok :
    catalog.typesIn category = .ok types ↔ (catalog.category? category).isSome ∧
      types = (catalog.links.elements.filter (·.category == category)).map (·.type) := by
  simp only [typesIn, Outcome.bind_eq_ok, loadCategory_eq_ok, Option.isSome_iff_exists]
  constructor
  · rintro ⟨found, hfound, hresult⟩
    cases hresult
    exact ⟨⟨found, hfound⟩, rfl⟩
  · rintro ⟨⟨found, hfound⟩, rfl⟩
    exact ⟨found, hfound, rfl⟩

theorem mem_categoriesOf (hcategories : catalog.categoriesOf type = .ok categories) :
    category ∈ categories ↔ ⟨type, category⟩ ∈ catalog.links.elements := by
  obtain ⟨_, rfl⟩ := categoriesOf_eq_ok.mp hcategories
  simp only [List.mem_map, List.mem_filter, beq_iff_eq]
  constructor
  · rintro ⟨link, ⟨hmem, rfl⟩, rfl⟩
    exact hmem
  · intro hmem
    exact ⟨_, ⟨hmem, rfl⟩, rfl⟩

theorem mem_typesIn (htypes : catalog.typesIn category = .ok types) :
    type ∈ types ↔ ⟨type, category⟩ ∈ catalog.links.elements := by
  obtain ⟨_, rfl⟩ := typesIn_eq_ok.mp htypes
  simp only [List.mem_map, List.mem_filter, beq_iff_eq]
  constructor
  · rintro ⟨link, ⟨hmem, rfl⟩, rfl⟩
    exact hmem
  · intro hmem
    exact ⟨_, ⟨hmem, rfl⟩, rfl⟩

/-- Links of one type are in the order of their categories. -/
theorem sorted_categoriesOf (hcategories : catalog.categoriesOf type = .ok categories) :
    categories.Pairwise fun a b => rank a < rank b := by
  obtain ⟨_, rfl⟩ := categoriesOf_eq_ok.mp hcategories
  rw [List.pairwise_map]
  apply (catalog.links.sorted.filter _).imp_of_mem
  intro a b ha hb hless
  rw [List.mem_filter, beq_iff_eq] at ha hb
  have hranks : (rank a.type <<< 128) + rank a.category < (rank b.type <<< 128) + rank b.category :=
    hless
  rw [ha.2, hb.2] at hranks
  omega

/-- Links to one category are in the order of their types. -/
theorem sorted_typesIn (htypes : catalog.typesIn category = .ok types) :
    types.Pairwise fun a b => rank a < rank b := by
  obtain ⟨_, rfl⟩ := typesIn_eq_ok.mp htypes
  rw [List.pairwise_map]
  apply (catalog.links.sorted.filter _).imp_of_mem
  intro a b ha hb hless
  rw [List.mem_filter, beq_iff_eq] at ha hb
  have hranks : (rank a.type <<< 128) + rank a.category < (rank b.type <<< 128) + rank b.category :=
    hless
  rw [ha.2, hb.2, Nat.shiftLeft_eq, Nat.shiftLeft_eq] at hranks
  omega

end Catalog

/-- Of whatever files a store is loaded, both ends of each link are known. -/
theorem DirectoryStore.linksKnown_of_load {format : DefinitionFormat} {disk : Disk} {root : Path}
    {catalog : Catalog} {skipped : List SkippedFile}
    (hload : load format disk root = .ok (catalog, skipped)) : catalog.LinksKnown := by
  simp only [load, Outcome.bind_eq_ok] at hload
  obtain ⟨types, _, categories, _, links, _, hresult⟩ := hload
  cases hresult
  apply Catalog.LinksKnown.foldl_addKnownLink
  rw [foldl_save, foldl_saveCategory]
  intro link hmem
  cases hmem

theorem DirectoryStore.linksKnown_of_openAt {format : DefinitionFormat} {root : Path}
    {defaults : List Category} {disk after : Disk} {store : DirectoryStore}
    (hopen : (openAt format root defaults).run disk = .ok store after) :
    store.catalog.LinksKnown := by
  obtain ⟨_, _, _, _, _, _, _, hload, rfl⟩ := openAt_eq_ok.mp hopen
  exact linksKnown_of_load hload

/-- A store is closed and opened again in its own way, whichever kind it is. -/
instance : Reopenable AnyStore where
  reopen defaults := AnyStore.act (Reopenable.reopen defaults) (Reopenable.reopen defaults)

namespace AnyStore

/-- A store as it begins: in memory with some categories, or opened in a folder,
whatever lies there. -/
def Begins : AnyStore → Prop
  | .memory store => ∃ categories, store = MemoryStore.withCategories categories
  | .directory store => ∃ format root defaults disk after,
      (DirectoryStore.openAt format root defaults).run disk = .ok store after

variable {store : AnyStore}

theorem linksKnown_of_begins (hbegins : store.Begins) : (TypeStore.catalog store).LinksKnown := by
  cases store with
  | memory inner =>
      obtain ⟨categories, rfl⟩ := hbegins
      change (categories.foldl Catalog.saveCategory {}).LinksKnown
      rw [DirectoryStore.foldl_saveCategory]
      intro link hmem
      cases hmem
  | directory inner =>
      obtain ⟨_, _, _, _, _, hopen⟩ := hbegins
      exact DirectoryStore.linksKnown_of_openAt hopen

end AnyStore

section Writes

variable {σ : Type} [TypeStore σ] {store : σ}

/-- A write keeps the ends of the links known if it does where it succeeds. -/
private theorem linksKnown_of_writes {action : StoreM σ Unit}
    (hwrites : Writes action fun before after => before.LinksKnown → after.LinksKnown)
    (hknown : (TypeStore.catalog store).LinksKnown) :
    (TypeStore.catalog (Outcome.endState (action.run store))).LinksKnown := by
  cases hrun : action.run store with
  | ok _ after => exact hwrites.ok hrun hknown
  | error error after =>
      have hsame := hwrites.error hrun
      change (TypeStore.catalog after).LinksKnown
      rw [hsame]
      exact hknown

end Writes

/-- Linking keeps the ends of the links known, in memory and in a folder. -/
private theorem writes_link_linksKnown (id : TypeId) (categories : List CategoryId) :
    Writes (σ := AnyStore) (TypeStore.link id categories) fun before after =>
      before.LinksKnown → after.LinksKnown := by
  apply AnyStore.writes_act
  · refine ⟨?_, (LawfulStore.link (σ := MemoryStore) id categories).error⟩
    intro store after hrun hknown
    have hlink := (MemoryStore.link_run id categories store).symm.trans hrun
    split at hlink
    · rename_i linked hlinked
      cases hlink
      exact hknown.link hlinked
    · cases hlink
  · refine ⟨?_, (LawfulStore.link (σ := DirectoryStore) id categories).error⟩
    intro store after hrun hknown
    have hlink := (DirectoryStore.link_run id categories store).symm.trans hrun
    split at hlink
    · cases hlink
    · rename_i linked hlinked
      split at hlink
      · cases hlink
        exact hknown
      · obtain ⟨disk, _, rfl⟩ := DirectoryStore.replace_run_eq_ok.mp hlink
        exact hknown.link hlinked

namespace StoreOperation

variable {defaults : List Category} {store : AnyStore}

private theorem linksKnown_reopen (hknown : (TypeStore.catalog store).LinksKnown)
    (offered : List Category) :
    (TypeStore.catalog (Outcome.endState
      ((Reopenable.reopen offered : StoreM AnyStore Unit).run store))).LinksKnown := by
  cases store with
  | memory inner => exact hknown
  | directory inner =>
      change (TypeStore.catalog (Outcome.endState
        ((AnyStore.act _ (Reopenable.reopen offered)).run (.directory inner)))).LinksKnown
      rw [AnyStore.act_run_directory, DirectoryStore.reopen_run]
      cases hopen : (DirectoryStore.openAt inner.format inner.root offered).run inner.disk with
      | error error disk => exact hknown
      | ok opened disk => exact DirectoryStore.linksKnown_of_openAt hopen

/-- No operation, whether it succeeds or fails, leaves a link with an unknown end. -/
theorem linksKnown_next (hknown : (TypeStore.catalog store).LinksKnown)
    (operation : StoreOperation) :
    (TypeStore.catalog (next defaults store operation)).LinksKnown := by
  unfold next
  cases operation with
  | save type =>
      rw [perform, endState_write]
      refine linksKnown_of_writes ⟨?_, (LawfulStore.save type).error⟩ hknown
      intro before after hrun hbefore
      rw [(LawfulStore.save type).ok hrun]
      exact hbefore.save type
  | saveCategory category =>
      rw [perform, endState_write]
      refine linksKnown_of_writes ⟨?_, (LawfulStore.saveCategory category).error⟩ hknown
      intro before after hrun hbefore
      rw [(LawfulStore.saveCategory category).ok hrun]
      exact hbefore.saveCategory category
  | linkCategories id categories =>
      rw [perform, endState_write]
      exact linksKnown_of_writes (writes_link_linksKnown id categories) hknown
  | reopen withDefaults =>
      rw [perform, endState_write]
      exact linksKnown_reopen hknown _
  | load | list | loadCategory | listCategories | categoriesOf | typesIn =>
      rw [perform, endState_consult]
      exact hknown

theorem linksKnown_after (hknown : (TypeStore.catalog store).LinksKnown)
    (operations : List StoreOperation) :
    (TypeStore.catalog (after defaults store operations)).LinksKnown := by
  induction operations generalizing store with
  | nil => exact hknown
  | cons operation rest ih => exact ih (linksKnown_next hknown operation)

end StoreOperation

end WorkSchema
