import WorkSchema.Proofs.Engine.Uncached

/-!
Keeping resolved schemas changes no answer. Two engines over the same store with
the same rules answer alike for as long as they run, whether or not either of
them keeps schemas and whatever each has kept, and every schema that is kept is
the one that resolving its type again would give.
-/

namespace WorkSchema.Engine

variable {σ : Type} [TypeStore σ]

/-- Two engines that differ in their caches at most, and in whether they use
them. -/
structure Alike (a b : Engine σ) : Prop where
  store : a.store = b.store
  rules : a.rules = b.rules
  left : a.CacheAgrees
  right : b.CacheAgrees

/-- The answers of a run, without the numbers of schemas dropped. -/
def report (engine : Engine σ) (operations : List Operation) :
    List (Except SchemaError Response) :=
  (engine.answers operations).map fun answer => answer.map Response.withoutCount

theorem cacheAgrees_of_empty {engine : Engine σ} (hempty : engine.cache.entries = []) :
    engine.CacheAgrees :=
  SchemaCache.agrees_of_entries_eq_nil hempty

/-- The engine when it is told to keep resolved schemas or not to. -/
def keeping (engine : Engine σ) (keeps : Bool) : Engine σ :=
  {engine with settings := {engine.settings with cacheResolved := keeps}}

theorem answer_keeping {engine : Engine σ} (hagrees : engine.CacheAgrees) {id : TypeId}
    {schema : Schema} (hschema : engine.catalog.flatten engine.rules.maxDepth id = .ok schema)
    (keeps : Bool) :
    (engine.keeping keeps).answer (.resolveSchema id) = .ok (.schema schema) := by
  have hkept : (engine.keeping keeps).CacheAgrees := hagrees
  exact answer_resolveSchema hkept hschema

namespace Alike

variable {a b : Engine σ}

theorem catalog (halike : a.Alike b) : a.catalog = b.catalog := by
  unfold Engine.catalog
  rw [halike.store]

variable [LawfulStore σ]

theorem answer (halike : a.Alike b) {operation : Operation}
    (hfresh : operation.Fresh a.catalog) :
    (a.answer operation).map Response.withoutCount =
      (b.answer operation).map Response.withoutCount := by
  have hother : operation.Fresh b.catalog := halike.catalog ▸ hfresh
  rw [answer_eq_plain halike.left hfresh, answer_eq_plain halike.right hother, halike.store,
    halike.rules]

theorem next (halike : a.Alike b) {operation : Operation} (hfresh : operation.Fresh a.catalog) :
    (a.next operation).Alike (b.next operation) := by
  have hother : operation.Fresh b.catalog := halike.catalog ▸ hfresh
  obtain ⟨hleft, cacheA, ha⟩ := next_eq_plain halike.left hfresh
  obtain ⟨hright, cacheB, hb⟩ := next_eq_plain halike.right hother
  refine ⟨?_, ?_, hleft, hright⟩
  · rw [ha, hb, halike.store, halike.rules]
  · rw [ha, hb]
    exact halike.rules

/-- Engines that are alike stay so along a run, and report the same. -/
theorem run (halike : a.Alike b) {operations : List Operation} (hfresh : a.FreshIds operations) :
    a.report operations = b.report operations ∧
      (a.after operations).Alike (b.after operations) := by
  induction operations generalizing a b with
  | nil => exact ⟨rfl, halike⟩
  | cons operation rest ih =>
      obtain ⟨hfirst, hrest⟩ := hfresh
      obtain ⟨hreport, hafter⟩ := ih (halike.next hfirst) hrest
      refine ⟨?_, hafter⟩
      simp only [report, answers, List.map_cons] at hreport ⊢
      rw [halike.answer hfirst, hreport]

end Alike

/-- The cache is transparent. From any contents of the store, an engine that keeps
resolved schemas and one that does not answer every operation of every run alike
and end with the same store, and at any time each entry of their caches has the
lineage and the schema of the chain that its type has then. -/
theorem cache_transparent [LawfulStore σ] (store : σ) (settings : Settings)
    (operations : List Operation)
    (hfresh : FreshIds {store, settings := {settings with cacheResolved := true}} operations) :
    let caching : Engine σ := {store, settings := {settings with cacheResolved := true}}
    let resolving : Engine σ := {store, settings := {settings with cacheResolved := false}}
    caching.report operations = resolving.report operations ∧
      (caching.after operations).store = (resolving.after operations).store ∧
      (caching.after operations).CacheAgrees ∧ (resolving.after operations).CacheAgrees := by
  intro caching resolving
  have halike : caching.Alike resolving :=
    ⟨rfl, rfl, cacheAgrees_of_empty rfl, cacheAgrees_of_empty rfl⟩
  obtain ⟨hreport, hafter⟩ := halike.run hfresh
  exact ⟨hreport, hafter.store, hafter.left, hafter.right⟩

/-- A type is resolved, its base is extended, and the type is resolved again. -/
def extensionOfBase : List Operation :=
  [ .create {name := "Task"} (.ofNat 1),
    .create {name := "Bug", base? := some (.ofNat 1)} (.ofNat 2),
    .resolveSchema (.ofNat 2),
    .addFields (.ofNat 1) (.ofList [("title", {type := .simple .string})]),
    .resolveSchema (.ofNat 2) ]

theorem cache_transparent_for_extension :
    let caching : Engine MemoryStore := {store := {}}
    let resolving : Engine MemoryStore := {store := {}, settings := {cacheResolved := false}}
    caching.FreshIds extensionOfBase ∧
      caching.report extensionOfBase = resolving.report extensionOfBase ∧
        (caching.after extensionOfBase).store = (resolving.after extensionOfBase).store ∧
          (caching.after extensionOfBase).CacheAgrees ∧
            (resolving.after extensionOfBase).CacheAgrees := by
  intro caching resolving
  have hfresh : caching.FreshIds extensionOfBase := by decide
  exact ⟨hfresh, cache_transparent ({} : MemoryStore) {} extensionOfBase hfresh⟩

end WorkSchema.Engine
