import WorkSchema.Proofs.Engine.Evolution
import WorkSchema.Proofs.Store.InStep

/-!
What an engine shows lasts. An engine whose store began where nothing was shows the same
once the store was closed and opened again, after every run, whatever of it failed, as long
as what the store holds reads back.
-/

namespace WorkSchema

namespace TypeStore

variable {σ α : Type} [TypeStore σ] {holds : σ → Prop}

theorem keeps_consult (question : Catalog → Except SchemaError α) :
    Outcome.Keeps holds (consult question) := by
  intro store hholds
  unfold Outcome.Ensures
  rw [consult_run]
  cases question (catalog store) <;> exact hholds

theorem keeps_linkNew (hlink : ∀ id categories, Outcome.Keeps holds (link id categories))
    (request : NewType) (id : TypeId) : Outcome.Keeps holds (linkNew request id) := by
  unfold linkNew
  split
  · exact Outcome.keeps_pure ()
  · exact hlink id request.categories

/-- Operations write in three ways only, so what these keep is kept by every operation. -/
theorem keeps_plain (hsave : ∀ type, Outcome.Keeps holds (save type))
    (hsaveCategory : ∀ category, Outcome.Keeps holds (saveCategory category))
    (hlink : ∀ id categories, Outcome.Keeps holds (link id categories)) (rules : Rules)
    (operation : Operation) : Outcome.Keeps holds (operation.plain rules) := by
  intro store hholds
  cases hreply : operation.reply? (catalog store) rules with
  | some reply =>
      rw [Operation.plain_of_reply hreply]
      exact keeps_consult _ store hholds
  | none =>
      cases operation with
      | create request id =>
          have hcreate : Outcome.Keeps holds (create rules request id) := by
            rw [create_eq]
            refine (keeps_consult _).bind fun _ => (hsave _).bind fun _ => ?_
            exact (keeps_linkNew hlink request id).bind fun _ => Outcome.keeps_pure _
          exact hcreate.bind (fun _ => Outcome.keeps_pure _) store hholds
      | addFields id fields =>
          have haddFields : Outcome.Keeps holds (addFields rules id fields) :=
            (keeps_consult _).bind fun _ => (hsave _).bind fun _ => keeps_consult _
          exact haddFields.bind (fun _ => Outcome.keeps_pure _) store hholds
      | createCategory category =>
          have hcreate : Outcome.Keeps holds (createCategory category) :=
            (keeps_consult _).bind fun _ =>
              (hsaveCategory category).bind fun _ => Outcome.keeps_pure _
          exact hcreate.bind (fun _ => Outcome.keeps_pure _) store hholds
      | linkCategories id categories =>
          exact (hlink id categories).bind (fun _ => Outcome.keeps_pure _) store hholds
      | clearCache | invalidate => exact hholds
      | load | resolve | resolveSchema | validateFields | validateUpdate | list | listCategories
      | categoriesOf | typesIn | clone => cases hreply

end TypeStore

/-- Whether what a store with files holds reads back. -/
def AnyStore.ReadsBack : AnyStore → Prop
  | .memory _ => True
  | .directory store => store.catalog.ReadsBack store.format

/-- The operations that show what a store holds. -/
def Operation.shows : Operation → Bool
  | load _ | list | listCategories | categoriesOf _ | typesIn _ => true
  | _ => false

namespace Engine

variable {engine other reopened : Engine AnyStore}

/-- Whether an engine shows what another one shows. -/
def ShowsLike (engine other : Engine AnyStore) : Prop :=
  ∀ operation : Operation, operation.shows = true →
    other.answer operation = engine.answer operation

theorem ShowsLike.symm (hlike : engine.ShowsLike other) : other.ShowsLike engine :=
  fun operation hshows => (hlike operation hshows).symm

theorem ShowsLike.trans {third : Engine AnyStore} (hfirst : engine.ShowsLike other)
    (hsecond : other.ShowsLike third) : engine.ShowsLike third :=
  fun operation hshows => (hsecond operation hshows).trans (hfirst operation hshows)

theorem showsLike_of_catalog (hagrees : engine.CacheAgrees) (hagrees' : other.CacheAgrees)
    (hcatalog : other.catalog = engine.catalog) : engine.ShowsLike other := by
  intro operation hshows
  cases operation with
  | load | list | listCategories | categoriesOf | typesIn =>
      rw [answer_of_reply hagrees rfl, answer_of_reply hagrees' rfl, hcatalog]
  | create | addFields | resolve | resolveSchema | validateFields | validateUpdate
  | createCategory | linkCategories | clearCache | invalidate | clone => cases hshows

/-- Whether one engine can become another one if its store is closed and opened again,
whatever becomes of the writes until then. -/
def ReopensAs (engine reopened : Engine AnyStore) : Prop :=
  ∃ store faults opened disk, engine.store = .directory store ∧
    (DirectoryStore.openAt store.format store.root []).run {store.disk with faults} =
      .ok opened disk ∧
    reopened = {engine with store := .directory opened, cache := {}}

/-- Whether an engine shows the same whenever its store was closed and opened again. -/
def Lasts (engine : Engine AnyStore) : Prop :=
  ∀ reopened, engine.ReopensAs reopened → engine.ShowsLike reopened

theorem ReopensAs.cacheAgrees (hreopens : engine.ReopensAs reopened) : reopened.CacheAgrees := by
  obtain ⟨_, _, _, _, _, _, rfl⟩ := hreopens
  exact SchemaCache.agrees_of_entries_eq_nil rfl

theorem exists_reopensAs {catalog : Catalog} {skipped : List SkippedFile}
    (hreopens : engine.store.Reopens [] catalog skipped) :
    ∃ reopened, engine.ReopensAs reopened ∧ reopened.catalog = catalog := by
  cases hstore : engine.store with
  | memory inner =>
      rw [hstore] at hreopens
      exact hreopens.elim
  | directory inner =>
      rw [hstore] at hreopens
      obtain ⟨faults, opened, disk, hopen, hcatalog, _⟩ := hreopens
      exact ⟨_, ⟨inner, faults, opened, disk, hstore, hopen, rfl⟩, hcatalog⟩

/-- What an engine can be reopened as, one over a store that cannot be told apart can be
reopened as too. -/
theorem ReopensAs.exists_showsLike (hreopens : engine.ReopensAs reopened)
    (hview : engine.store.SameView other.store) :
    ∃ reopened', other.ReopensAs reopened' ∧ reopened.ShowsLike reopened' := by
  have hagrees := hreopens.cacheAgrees
  obtain ⟨store, faults, opened, disk, hstore, hopen, rfl⟩ := hreopens
  have hopened : engine.store.Reopens [] opened.catalog opened.skipped := by
    rw [hstore]
    exact ⟨faults, opened, disk, hopen, rfl, rfl⟩
  obtain ⟨reopened', hreopens', hcatalog⟩ :=
    exists_reopensAs ((hview.reopened _ _ _).mpr hopened)
  exact ⟨reopened', hreopens', showsLike_of_catalog hagrees hreopens'.cacheAgrees hcatalog⟩

theorem inStep_after {operations : List Operation} (hagrees : engine.CacheAgrees)
    (hfresh : engine.FreshIds operations) (hstep : engine.store.InStep) :
    (engine.after operations).store.InStep := by
  induction operations generalizing engine with
  | nil => exact hstep
  | cons operation rest ih =>
      obtain ⟨hfirst, hrest⟩ := hfresh
      obtain ⟨hnext, cache, heq⟩ := next_eq_plain hagrees hfirst
      refine ih hnext hrest ?_
      have hkeeps := TypeStore.keeps_plain AnyStore.keeps_save AnyStore.keeps_saveCategory
        AnyStore.keeps_link engine.rules operation
      rw [heq]
      exact (hkeeps engine.store hstep).endState

theorem lasts_of_inStep (hagrees : engine.CacheAgrees) (hstep : engine.store.InStep)
    (hreads : engine.store.ReadsBack) : engine.Lasts := by
  intro reopened hreopens
  refine showsLike_of_catalog hagrees hreopens.cacheAgrees ?_
  obtain ⟨store, faults, opened, disk, hstore, hopen, rfl⟩ := hreopens
  rw [hstore] at hstep hreads
  have hcatalog := DirectoryStore.InStep.catalog_of_openAt hstep hreads hopen
  change opened.catalog = TypeStore.catalog engine.store
  rw [hstore]
  exact hcatalog

/-- An engine that began where nothing was lasts after every run, as long as what it then
holds reads back. -/
theorem lasts_after {operations : List Operation} (hbegins : engine.store.BeginsEmpty)
    (hempty : engine.cache.entries = []) (hfresh : engine.FreshIds operations)
    (hreads : (engine.after operations).store.ReadsBack) : (engine.after operations).Lasts := by
  have hagrees : engine.CacheAgrees := SchemaCache.agrees_of_entries_eq_nil hempty
  obtain ⟨hafter, _⟩ := after_evolves hagrees hfresh
  exact lasts_of_inStep hafter
    (inStep_after hagrees hfresh (AnyStore.inStep_of_beginsEmpty hbegins)) hreads

end Engine

end WorkSchema
