import WorkSchema.Proofs.Store.Opening
import WorkSchema.Proofs.Store.Refinement

/-!
What can come of a write. Either kind of store does what the catalog answers and refuses
what the catalog refuses, and the only other thing that can happen is that the disk fails.
-/

namespace WorkSchema

/-- A write that does what a change of the catalog says, unless the disk fails. -/
structure Performs {σ : Type} [TypeStore σ] (action : StoreM σ Unit)
    (change : Catalog → Except SchemaError Catalog) : Prop where
  ok {store after : σ} : action.run store = .ok () after →
    change (TypeStore.catalog store) = .ok (TypeStore.catalog after)
  error {store after : σ} {error : SchemaError} : action.run store = .error error after →
    change (TypeStore.catalog store) = .error error ∨ ∃ failure, error = .file failure

namespace MemoryStore

theorem performs_save (type : WorkItemType) :
    Performs (σ := MemoryStore) (TypeStore.save type) fun catalog => .ok (catalog.save type) :=
  ⟨fun hsave => by cases hsave; rfl, fun hsave => by cases hsave⟩

theorem performs_link (id : TypeId) (categories : List CategoryId) :
    Performs (σ := MemoryStore) (TypeStore.link id categories) (·.link id categories) := by
  constructor
  · intro store after hlink
    have hrun := (link_run id categories store).symm.trans hlink
    split at hrun
    · rename_i hcatalog
      cases hrun
      exact hcatalog
    · cases hrun
  · intro store after error hlink
    have hrun := (link_run id categories store).symm.trans hlink
    split at hrun
    · cases hrun
    · rename_i hcatalog
      cases hrun
      exact Or.inl hcatalog

end MemoryStore

namespace DirectoryStore

/-- Replacing a file fails for the disk only. -/
private theorem file_of_replace {names : List String} {text : String}
    {change : Catalog → Catalog} {store after : DirectoryStore} {error : SchemaError}
    (hrun : (do write names text; setCatalog change : StoreM DirectoryStore Unit).run store =
      .error error after) : ∃ failure, error = .file failure := by
  obtain ⟨disk, hdisk, _⟩ := replace_run_eq_error.mp hrun
  obtain ⟨failure, _, rfl⟩ := replaceText_run_eq_error.mp hdisk
  exact ⟨failure, rfl⟩

theorem performs_save (type : WorkItemType) :
    Performs (σ := DirectoryStore) (TypeStore.save type) fun catalog =>
      .ok (catalog.save type) where
  ok hsave := congrArg Except.ok ((LawfulStore.save type).ok hsave).symm
  error {store _ _} hsave := Or.inr (file_of_replace ((save_run type store).symm.trans hsave))

/-- Links that are all there already are not written, and then the catalog stays. -/
theorem performs_link (id : TypeId) (categories : List CategoryId) :
    Performs (σ := DirectoryStore) (TypeStore.link id categories) (·.link id categories) := by
  constructor
  · intro store after hlink
    have hrun := (link_run id categories store).symm.trans hlink
    split at hrun
    · cases hrun
    · rename_i linked hcatalog
      split at hrun
      · rename_i hsize
        cases hrun
        rw [Catalog.link_eq_self hcatalog hsize] at hcatalog
        exact hcatalog
      · obtain ⟨disk, _, rfl⟩ := replace_run_eq_ok.mp hrun
        exact hcatalog
  · intro store after error hlink
    have hrun := (link_run id categories store).symm.trans hlink
    split at hrun
    · rename_i hcatalog
      cases hrun
      exact Or.inl hcatalog
    · split at hrun
      · cases hrun
      · exact Or.inr (file_of_replace hrun)

end DirectoryStore

namespace AnyStore

theorem performs_act {memory : StoreM MemoryStore Unit} {directory : StoreM DirectoryStore Unit}
    {change : Catalog → Except SchemaError Catalog} (hmemory : Performs memory change)
    (hdirectory : Performs directory change) : Performs (act memory directory) change := by
  constructor
  · intro store after hrun
    rcases act_run_eq_ok hrun with
      ⟨inner, later, rfl, rfl, hinner⟩ | ⟨inner, later, rfl, rfl, hinner⟩
    · exact hmemory.ok hinner
    · exact hdirectory.ok hinner
  · intro store after error hrun
    rcases act_run_eq_error hrun with
      ⟨inner, later, rfl, rfl, hinner⟩ | ⟨inner, later, rfl, rfl, hinner⟩
    · exact hmemory.error hinner
    · exact hdirectory.error hinner

theorem performs_save (type : WorkItemType) :
    Performs (σ := AnyStore) (TypeStore.save type) fun catalog => .ok (catalog.save type) :=
  performs_act (MemoryStore.performs_save type) (DirectoryStore.performs_save type)

theorem performs_link (id : TypeId) (categories : List CategoryId) :
    Performs (σ := AnyStore) (TypeStore.link id categories) (·.link id categories) :=
  performs_act (MemoryStore.performs_link id categories)
    (DirectoryStore.performs_link id categories)

end AnyStore

end WorkSchema
