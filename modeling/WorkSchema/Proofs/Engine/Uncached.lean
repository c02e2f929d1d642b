import WorkSchema.Proofs.Engine.Reading
import WorkSchema.Proofs.Store.Laws
import WorkSchema.Proofs.Store.Run

/-!
The engine without a cache: every operation as a program over the store alone.
While the cache of an engine agrees with its catalog and new types get unused
ids, each operation answers as that program, leaves the store as it leaves it,
and leaves a cache that agrees again, also if it fails midway.
-/

namespace WorkSchema

namespace TypeStore

variable {σ : Type} [TypeStore σ]

/-- The creation of a type, with nothing resolved before. -/
def create (rules : Rules) (request : NewType) (id : TypeId) : StoreM σ ResolvedType := do
  let inherited ← consult (·.accept rules request)
  save (request.toType id)
  unless request.categories.isEmpty do
    link id request.categories
  return {type := request.toType id, schema := inherited.extend request.fields}

def createCategory (category : Category) : StoreM σ Category := do
  consult fun _ => Engine.checkName category.name
  saveCategory category
  return category

/-- The extension of a type, with nothing resolved before. -/
def addFields (rules : Rules) (id : TypeId) (fields : Schema) : StoreM σ ResolvedType := do
  let type ← consult (·.revise rules id fields)
  save type
  consult (·.resolve rules id)

end TypeStore

namespace Operation

variable {σ : Type} [TypeStore σ]

/-- What an operation means to the store. Clearing the cache and dropping from it
mean nothing there. -/
def plain (rules : Rules) : Operation → StoreM σ Response
  | create request id => return .resolved (← TypeStore.create rules request id)
  | addFields id fields => return .resolved (← TypeStore.addFields rules id fields)
  | createCategory category => return .category (← TypeStore.createCategory category)
  | linkCategories id categories => do
      TypeStore.link id categories
      return .done
  | clearCache | invalidate _ => return .done
  | operation => TypeStore.consult fun catalog =>
      (operation.reply? catalog rules).getD (.ok .done)

theorem plain_of_reply {catalog : Catalog} {rules : Rules} {operation : Operation}
    {reply : Except SchemaError Response} (hreply : operation.reply? catalog rules = some reply) :
    operation.plain (σ := σ) rules = TypeStore.consult fun catalog =>
      (operation.reply? catalog rules).getD (.ok .done) := by
  cases operation with
  | create | addFields | createCategory | linkCategories | clearCache | invalidate =>
      cases hreply
  | _ => rfl

end Operation

namespace Catalog

variable {catalog : Catalog}

theorem type?_of_unused {id : TypeId} (hunused : catalog.Unused id) : catalog.type? id = none := by
  cases hfound : catalog.type? id with
  | none => rfl
  | some type => exact absurd (id_of_type? hfound) (hunused type (mem_of_type? hfound)).1

/-- A request is accepted if each check lets it through. -/
theorem accept_eq_ok {rules : Rules} {request : NewType} {inherited : Schema} :
    catalog.accept rules request = .ok inherited ↔
      Engine.checkName request.name = .ok () ∧ Engine.checkDefinitions request.fields = .ok () ∧
        catalog.inherited rules request = .ok inherited ∧
          ∀ category ∈ request.categories, (catalog.category? category).isSome := by
  have hknown : ∀ category,
      (do let _ ← catalog.loadCategory category : Except SchemaError Unit) = .ok () ↔
        (catalog.category? category).isSome := by
    intro category
    simp [Outcome.bind_eq_ok, loadCategory_eq_ok, Option.isSome_iff_exists, pure, Except.pure]
  simp only [← hknown, ← Outcome.forM_eq_ok]
  simp only [accept, Outcome.bind_eq_ok, pure, Except.pure, Except.ok.injEq]
  constructor
  · rintro ⟨_, hname, _, hfields, found, hfound, _, hcategories, rfl⟩
    exact ⟨hname, hfields, hfound, hcategories⟩
  · rintro ⟨hname, hfields, hfound, hcategories⟩
    exact ⟨(), hname, (), hfields, inherited, hfound, (), hcategories, rfl⟩

theorem revise_eq_ok {rules : Rules} {id : TypeId} {fields : Schema} {revised : WorkItemType} :
    catalog.revise rules id fields = .ok revised ↔
      Engine.checkDefinitions fields = .ok () ∧
        ∃ current, catalog.flatten rules.maxDepth id = .ok current ∧
          Engine.checkCompatible current fields = .ok () ∧
            ∃ type, catalog.type? id = some type ∧
              revised = {type with fields := type.fields.extend fields} := by
  simp only [revise, Outcome.bind_eq_ok, load_eq_ok, pure, Except.pure, Except.ok.injEq]
  constructor
  · rintro ⟨_, hdefinitions, current, hcurrent, _, hcompatible, type, htype, rfl⟩
    exact ⟨hdefinitions, current, hcurrent, hcompatible, type, htype, rfl⟩
  · rintro ⟨hdefinitions, current, hcurrent, hcompatible, type, htype, rfl⟩
    exact ⟨(), hdefinitions, current, hcurrent, (), hcompatible, type, htype, rfl⟩

theorem id_of_revise {rules : Rules} {id : TypeId} {fields : Schema} {revised : WorkItemType}
    (hrevise : catalog.revise rules id fields = .ok revised) : revised.id = id := by
  obtain ⟨_, _, _, _, type, htype, rfl⟩ := revise_eq_ok.mp hrevise
  have hid : type.id = id := id_of_type? htype
  exact hid

end Catalog

namespace Engine

variable {σ α β : Type} [TypeStore σ] {engine : Engine σ} {action : EngineM σ α}
  {plain : StoreM σ α}

/-- Whether an action, run by the engine, answers as a program over the store and
changes the store alike, and leaves a cache that agrees. -/
def Follows (engine : Engine σ) (action : EngineM σ α) (plain : StoreM σ α) : Prop :=
  ∃ cache,
    Engine.CacheAgrees {engine with store := Outcome.endState (plain.run engine.store), cache} ∧
    action.run engine = Outcome.inState (Outcome.answer (plain.run engine.store))
      {engine with store := Outcome.endState (plain.run engine.store), cache}

theorem Reads.follows {question : Catalog → Except SchemaError α}
    (hreads : engine.Reads action (question engine.catalog)) :
    engine.Follows action (TypeStore.consult question) := by
  obtain ⟨cache, hcache, hrun⟩ := hreads
  unfold Follows
  rw [TypeStore.consult_run, Outcome.answer_inState, Outcome.endState_inState]
  exact ⟨cache, hcache, hrun⟩

theorem Follows.bind {rest : α → EngineM σ β} {plainRest : α → StoreM σ β}
    (hfirst : engine.Follows action plain)
    (hrest : ∀ value store cache, plain.run engine.store = .ok value store →
      Engine.CacheAgrees {engine with store, cache} →
        Engine.Follows {engine with store, cache} (rest value) (plainRest value)) :
    engine.Follows (action >>= rest) (plain >>= plainRest) := by
  obtain ⟨cache, hcache, hrun⟩ := hfirst
  unfold Follows
  rw [EStateM.run_bind, EStateM.run_bind, hrun]
  cases hplain : plain.run engine.store with
  | error error store =>
      rw [hplain] at hcache
      exact ⟨cache, hcache, rfl⟩
  | ok value store =>
      rw [hplain] at hcache
      exact hrest value store cache hplain hcache

theorem follows_pure (hagrees : engine.CacheAgrees) (value : α) :
    engine.Follows (pure value) (pure value) :=
  ⟨engine.cache, hagrees, rfl⟩

theorem Follows.map (hfollows : engine.Follows action plain) (f : α → β) :
    engine.Follows (do return f (← action)) (do return f (← plain)) :=
  hfollows.bind fun value _ _ _ hcache => follows_pure hcache (f value)

/-- An operation whose value comes from an action that follows a program over the store
answers and ends as that program does. -/
theorem Follows.answer_next {action : EngineM σ α} {plain : StoreM σ α}
    (hfollows : engine.Follows action plain) (operation : Operation) (respond : α → Response)
    (hperform : operation.perform = do return respond (← action)) :
    engine.answer operation = (Outcome.answer (plain.run engine.store)).map respond ∧
      (engine.next operation).store = Outcome.endState (plain.run engine.store) := by
  obtain ⟨cache, _, hrun⟩ := hfollows
  rw [answer, next, hperform, Outcome.answer_map, Outcome.endState_map, hrun,
    Outcome.answer_inState, Outcome.endState_inState]
  exact ⟨rfl, rfl⟩

section Writes

variable {write : StoreM σ Unit} {effect : Catalog → Catalog → Prop}

omit [TypeStore σ] in
private theorem onStore_run (write : StoreM σ Unit) (engine : Engine σ) :
    (onStore write).run engine = Outcome.inState (Outcome.answer (write.run engine.store))
      {engine with store := Outcome.endState (write.run engine.store)} := by
  simp only [onStore, EStateM.run]
  cases write engine.store <;> rfl

/-- A write whose effect leaves the cache in agreement. -/
theorem follows_onStore (hagrees : engine.CacheAgrees) (hwrites : Writes write effect)
    (hkeeps : ∀ after, effect engine.catalog after →
      engine.cache.Agrees after engine.rules.maxDepth) :
    engine.Follows (onStore write) write := by
  refine ⟨engine.cache, ?_, onStore_run write engine⟩
  cases hrun : write.run engine.store with
  | ok value store =>
      cases value
      exact hkeeps _ (hwrites.ok hrun)
  | error error store =>
      have hsame : TypeStore.catalog store = engine.catalog := hwrites.error hrun
      change engine.cache.Agrees (TypeStore.catalog store) _
      rw [hsame]
      exact hagrees

variable [LawfulStore σ]

theorem follows_save_of_unused (hagrees : engine.CacheAgrees) {type : WorkItemType}
    (hunused : engine.catalog.Unused type.id) :
    engine.Follows (onStore (TypeStore.save type)) (TypeStore.save type) := by
  apply follows_onStore hagrees (LawfulStore.save type)
  rintro after rfl
  exact SchemaCache.agrees_save_of_new hagrees (Catalog.type?_of_unused hunused)

theorem follows_link (hagrees : engine.CacheAgrees) (id : TypeId)
    (categories : List CategoryId) :
    engine.Follows (onStore (TypeStore.link id categories)) (TypeStore.link id categories) := by
  apply follows_onStore hagrees (LawfulStore.link id categories)
  intro after hsame
  exact SchemaCache.agrees_congr hagrees hsame.1

theorem follows_saveCategory (hagrees : engine.CacheAgrees) (category : Category) :
    engine.Follows (onStore (TypeStore.saveCategory category))
      (TypeStore.saveCategory category) := by
  apply follows_onStore hagrees (LawfulStore.saveCategory category)
  rintro after rfl
  exact SchemaCache.agrees_congr hagrees rfl

/-- If the write fails nothing is dropped, and nothing has to be. -/
theorem follows_overwrite (hagrees : engine.CacheAgrees) (type : WorkItemType) :
    engine.Follows (overwrite type.id type) (TypeStore.save type) := by
  unfold Follows overwrite
  rw [EStateM.run_bind, onStore_run]
  cases hrun : (TypeStore.save type).run engine.store with
  | ok value store =>
      cases value
      have hsaved : TypeStore.catalog store = engine.catalog.save type :=
        (LawfulStore.save type).ok hrun
      refine ⟨(engine.cache.invalidate type.id).2, ?_, rfl⟩
      change (engine.cache.invalidate type.id).2.Agrees (TypeStore.catalog store) _
      rw [hsaved]
      exact SchemaCache.agrees_save_invalidate hagrees
  | error error store =>
      have hsame : TypeStore.catalog store = engine.catalog :=
        (LawfulStore.save type).error hrun
      refine ⟨engine.cache, ?_, rfl⟩
      change engine.cache.Agrees (TypeStore.catalog store) _
      rw [hsame]
      exact hagrees

theorem follows_create (hagrees : engine.CacheAgrees) (request : NewType) {id : TypeId}
    (hunused : engine.catalog.Unused id) :
    engine.Follows (create request id) (TypeStore.create engine.rules request id) := by
  rw [create_eq]
  apply (reads_admission hagrees request).follows.bind
  intro inherited store cache haccept hcache
  obtain ⟨_, rfl⟩ := TypeStore.consult_eq_ok.mp haccept
  have hid : engine.catalog.Unused (request.toType id).id := hunused
  apply (follows_save_of_unused hcache hid).bind
  intro _ store cache _ hcache
  split
  · exact follows_pure hcache _
  · apply (follows_link hcache id request.categories).bind
    intro _ store cache _ hcache
    exact follows_pure hcache _

theorem follows_addFields (hagrees : engine.CacheAgrees) (id : TypeId) (fields : Schema) :
    engine.Follows (addFields id fields) (TypeStore.addFields engine.rules id fields) := by
  rw [addFields_eq]
  apply (reads_revision hagrees id fields).follows.bind
  intro revised store cache hrevise hcache
  obtain ⟨hrevised, rfl⟩ := TypeStore.consult_eq_ok.mp hrevise
  obtain rfl := Catalog.id_of_revise hrevised
  apply (follows_overwrite hcache revised).bind
  intro _ store cache _ hcache
  exact (reads_resolve hcache revised.id).follows

private theorem follows_createCategory (hagrees : engine.CacheAgrees) (category : Category) :
    engine.Follows (createCategory category) (TypeStore.createCategory category) := by
  apply (reads_lift hagrees (checkName category.name)).follows.bind
  intro _ store cache hname hcache
  obtain ⟨_, rfl⟩ := TypeStore.consult_eq_ok.mp hname
  apply (follows_saveCategory hcache category).bind
  intro _ store cache _ hcache
  exact follows_pure hcache category

/-- Every operation does to the store what it does without a cache, and answers
alike up to the number of schemas that it dropped. -/
theorem follows_perform (hagrees : engine.CacheAgrees) {operation : Operation}
    (hfresh : operation.Fresh engine.catalog) :
    engine.Follows (do return (← operation.perform).withoutCount)
      (do return (← operation.plain engine.rules).withoutCount) := by
  cases hreply : operation.reply? engine.catalog engine.rules with
  | some reply =>
      rw [Operation.plain_of_reply hreply]
      have hreads : engine.Reads operation.perform
          ((operation.reply? engine.catalog engine.rules).getD (.ok .done)) := by
        rw [hreply]
        exact reads_perform hagrees hreply
      exact hreads.follows.map Response.withoutCount
  | none =>
      cases operation with
      | create request id =>
          have hcreate := (follows_create hagrees request (hfresh id rfl)).map Response.resolved
          exact hcreate.map Response.withoutCount
      | addFields id fields =>
          have hextend := (follows_addFields hagrees id fields).map Response.resolved
          exact hextend.map Response.withoutCount
      | createCategory category =>
          have hsave := (follows_createCategory hagrees category).map Response.category
          exact hsave.map Response.withoutCount
      | linkCategories id categories =>
          have hlink := (follows_link hagrees id categories).map fun _ => Response.done
          exact hlink.map Response.withoutCount
      | clearCache => exact ⟨engine.cache.clear, SchemaCache.agrees_clear, rfl⟩
      | invalidate id =>
          exact ⟨(engine.cache.invalidate id).2, SchemaCache.agrees_invalidate hagrees id, rfl⟩
      | load | resolve | resolveSchema | validateFields | validateUpdate | list | listCategories
      | categoriesOf | typesIn | clone => cases hreply

theorem answer_eq_plain (hagrees : engine.CacheAgrees) {operation : Operation}
    (hfresh : operation.Fresh engine.catalog) :
    (engine.answer operation).map Response.withoutCount =
      (Outcome.answer ((operation.plain engine.rules).run engine.store)).map
        Response.withoutCount := by
  obtain ⟨cache, _, hrun⟩ := follows_perform hagrees hfresh
  have hanswer := congrArg Outcome.answer hrun
  rw [Outcome.answer_inState, Outcome.answer_map, Outcome.answer_map] at hanswer
  exact hanswer

theorem next_eq_plain (hagrees : engine.CacheAgrees) {operation : Operation}
    (hfresh : operation.Fresh engine.catalog) :
    (engine.next operation).CacheAgrees ∧ ∃ cache, engine.next operation =
      {engine with
        store := Outcome.endState ((operation.plain engine.rules).run engine.store)
        cache} := by
  obtain ⟨cache, hcache, hrun⟩ := follows_perform hagrees hfresh
  have hnext := congrArg Outcome.endState hrun
  rw [Outcome.endState_inState, Outcome.endState_map, Outcome.endState_map] at hnext
  rw [Outcome.endState_map] at hcache
  rw [next, hnext]
  exact ⟨hcache, cache, rfl⟩

end Writes

end Engine

end WorkSchema
