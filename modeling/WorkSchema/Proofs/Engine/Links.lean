import WorkSchema.Engine.Basic
import WorkSchema.Proofs.Store.Links

/-!
What the engine answers about links. It looks up each id that the store links, so it
relies on the links having known ends: then the answer is there for every type and for
every category that is stored, with the linked ones in ascending order.
-/

namespace WorkSchema

namespace Catalog

variable {catalog : Catalog}

/-- Whether links join what is stored only, and can be followed from both ends alike. -/
structure LinksAgree (catalog : Catalog) : Prop where
  known : ∀ link ∈ catalog.links.elements,
    (catalog.type? link.type).isSome ∧ (catalog.category? link.category).isSome
  categoriesOf : ∀ type, (catalog.type? type).isSome →
    ∃ categories, catalog.categoriesOf type = .ok categories ∧
      categories.Pairwise fun a b => rank a < rank b
  typesIn : ∀ category, (catalog.category? category).isSome →
    ∃ types, catalog.typesIn category = .ok types ∧ types.Pairwise fun a b => rank a < rank b
  agree : ∀ type category categories types, catalog.categoriesOf type = .ok categories →
    catalog.typesIn category = .ok types → (category ∈ categories ↔ type ∈ types)

theorem LinksKnown.linksAgree (hknown : catalog.LinksKnown) : catalog.LinksAgree where
  known := hknown
  categoriesOf type htype := by
    have hcategories := categoriesOf_eq_ok.mpr ⟨htype, rfl⟩
    exact ⟨_, hcategories, sorted_categoriesOf hcategories⟩
  typesIn category hcategory := by
    have htypes := typesIn_eq_ok.mpr ⟨hcategory, rfl⟩
    exact ⟨_, htypes, sorted_typesIn htypes⟩
  agree type category categories types hcategories htypes :=
    (mem_categoriesOf hcategories).trans (mem_typesIn htypes).symm

end Catalog

namespace Engine

variable {σ α : Type} [TypeStore σ] {engine : Engine σ}

theorem ask_run (question : Catalog → Except SchemaError α) (engine : Engine σ) :
    (ask question).run engine = Outcome.inState (question engine.catalog) engine := by
  change (liftResult (question engine.catalog) : EngineM σ α).run engine = _
  cases question engine.catalog <;> rfl

/-- Things that the catalog has under the given keys are all found. -/
theorem mapM_ask_run {β : Type} (question : β → Catalog → Except SchemaError α) {key : α → β}
    {items : List β}
    (hall : ∀ item ∈ items, ∃ found, question item engine.catalog = .ok found ∧ key found = item) :
    ∃ found, (items.mapM fun item => ask (question item)).run engine = .ok found engine ∧
      found.map key = items := by
  induction items with
  | nil => exact ⟨[], rfl, rfl⟩
  | cons item rest ih =>
      obtain ⟨⟨first, hfirst, hkey⟩, hrest⟩ := List.forall_mem_cons.mp hall
      obtain ⟨others, hothers, hkeys⟩ := ih hrest
      refine ⟨first :: others, ?_, by rw [List.map_cons, hkey, hkeys]⟩
      rw [List.mapM_cons, EStateM.run_bind, ask_run, hfirst]
      simp only [Outcome.inState, EStateM.run_bind, hothers]
      rfl

/-- All categories of a stored type are found, under the ids that the store links. -/
theorem categoriesOf_run (hknown : engine.catalog.LinksKnown) {type : TypeId}
    {categories : List CategoryId}
    (hcategories : engine.catalog.categoriesOf type = .ok categories) :
    ∃ found, (categoriesOf type).run engine = .ok found engine ∧
      found.map (·.id) = categories := by
  have hall : ∀ id ∈ categories, ∃ category : Category,
      engine.catalog.loadCategory id = .ok category ∧ category.id = id := by
    intro id hmem
    have hlink := (Catalog.mem_categoriesOf hcategories).mp hmem
    obtain ⟨category, hcategory⟩ := Option.isSome_iff_exists.mp (hknown _ hlink).2
    exact ⟨category, Catalog.loadCategory_eq_ok.mpr hcategory, Catalog.id_of_category? hcategory⟩
  obtain ⟨found, hfound, hids⟩ := mapM_ask_run (fun id catalog => catalog.loadCategory id) hall
  refine ⟨found, ?_, hids⟩
  rw [categoriesOf, EStateM.run_bind, ask_run, hcategories]
  exact hfound

/-- All types in a stored category are found, under the ids that the store links. -/
theorem typesIn_run (hknown : engine.catalog.LinksKnown) {category : CategoryId}
    {types : List TypeId} (htypes : engine.catalog.typesIn category = .ok types) :
    ∃ found, (typesIn category).run engine = .ok found engine ∧ found.map (·.id) = types := by
  have hall : ∀ id ∈ types, ∃ type : WorkItemType,
      engine.catalog.load id = .ok type ∧ type.id = id := by
    intro id hmem
    have hlink := (Catalog.mem_typesIn htypes).mp hmem
    obtain ⟨type, htype⟩ := Option.isSome_iff_exists.mp (hknown _ hlink).1
    exact ⟨type, Catalog.load_eq_ok.mpr htype, Catalog.id_of_type? htype⟩
  obtain ⟨found, hfound, hids⟩ := mapM_ask_run (fun id catalog => catalog.load id) hall
  refine ⟨found, ?_, hids⟩
  rw [typesIn, EStateM.run_bind, ask_run, htypes]
  exact hfound

end Engine

namespace AnyStore

open StoreOperation

/-- However a store begins and whatever is done with it then, writes that fail and
closings included, its links agree, and an engine over it answers for both ends of every
link. -/
theorem linksAgree_after {store : AnyStore} (hbegins : store.Begins) (defaults : List Category)
    (operations : List StoreOperation) :
    let catalog := TypeStore.catalog (after defaults store operations)
    catalog.LinksAgree ∧
      ∀ engine : Engine AnyStore, engine.store = after defaults store operations →
        (∀ type, (catalog.type? type).isSome →
          ∃ found, (Engine.categoriesOf type).run engine = .ok found engine ∧
            catalog.categoriesOf type = .ok (found.map (·.id))) ∧
        ∀ category, (catalog.category? category).isSome →
          ∃ found, (Engine.typesIn category).run engine = .ok found engine ∧
            catalog.typesIn category = .ok (found.map (·.id)) := by
  intro catalog
  have hknown : catalog.LinksKnown := linksKnown_after (linksKnown_of_begins hbegins) operations
  refine ⟨hknown.linksAgree, ?_⟩
  intro engine hstore
  have hcatalog : engine.catalog = catalog := congrArg TypeStore.catalog hstore
  rw [← hcatalog] at hknown ⊢
  constructor
  · intro type htype
    obtain ⟨categories, hcategories, _⟩ := hknown.linksAgree.categoriesOf type htype
    obtain ⟨found, hrun, rfl⟩ := Engine.categoriesOf_run hknown hcategories
    exact ⟨found, hrun, hcategories⟩
  · intro category hcategory
    obtain ⟨types, htypes, _⟩ := hknown.linksAgree.typesIn category hcategory
    obtain ⟨found, hrun, rfl⟩ := Engine.typesIn_run hknown htypes
    exact ⟨found, hrun, htypes⟩

section Dangling

open DirectoryStore

private def issues : Category := {id := .ofNat 1, name := "planner.issues"}

private def bug : WorkItemType := {id := .ofNat 2, name := "Bug"}

/-- A link between a type and a category that are not there. -/
def danglingLink : String :=
  "[\x7bwork_item_type: 00000000000000000000000002, category: 00000000000000000000000001\x7d]"

/-- A folder without definitions, in which there is such a link. -/
def danglingFolder : Disk where
  entries := [([typesFolder], .folder), ([categoriesFolder], .folder),
    ([linksFile], .file danglingLink.toUTF8)]

private theorem load_dangling :
    (DirectoryStore.load .yaml danglingFolder ⟨"."⟩).toOption.any (fun loaded =>
      decide (loaded.1.links.elements = [])) = true := by
  have hlinks : danglingFolder.readText [linksFile] = .ok danglingLink :=
    Disk.readText_eq_ok rfl
  simp only [DirectoryStore.load, loadFolder, loadLinks, Path.names_workingFolder, List.nil_append,
    hlinks]
  decide +kernel

private theorem openAt_dangling :
    ∃ store, (openAt .yaml ⟨"."⟩ []).run danglingFolder = .ok store store.disk ∧
      store.catalog.links.elements = [] := by
  have hlinks := load_dangling
  cases hload : DirectoryStore.load .yaml danglingFolder ⟨"."⟩ with
  | error error =>
      rw [hload] at hlinks
      cases hlinks
  | ok loaded =>
      rw [hload] at hlinks
      let store : DirectoryStore := {
        format := .yaml
        root := ⟨"."⟩
        catalog := loaded.1
        skipped := loaded.2
        disk := danglingFolder }
      refine ⟨store, openAt_eq_ok.mpr ⟨danglingFolder, danglingFolder, loaded.1, loaded.2, ?_, ?_,
        rfl, hload, rfl⟩, of_decide_eq_true hlinks⟩
      all_goals
        rw [Path.names_workingFolder]
        rfl

/-- The link is left out, and what is linked later has known ends again. -/
theorem linksAgree_after_dangling :
    ∃ store, (openAt .yaml ⟨"."⟩ []).run danglingFolder = .ok store store.disk ∧
      store.catalog.links.elements = [] ∧
      let operations := [.save bug, .reopen true, .linkCategories bug.id [issues.id]]
      (TypeStore.catalog (after [issues] (AnyStore.directory store) operations)).LinksAgree := by
  obtain ⟨store, hopen, hlinks⟩ := openAt_dangling
  have hbegins : Begins (.directory store) := ⟨_, _, _, _, _, hopen⟩
  exact ⟨store, hopen, hlinks, (linksAgree_after hbegins [issues] _).1⟩

end Dangling

end AnyStore

end WorkSchema
