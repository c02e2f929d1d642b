import WorkSchema.Proofs.Engine.Transparency
import WorkSchema.Proofs.Engine.Evolution
import WorkSchema.Proofs.Engine.Walk

/-!
What a type inherits. Its schema is the chain of the type flattened, whether or not it was
cached: a definition further down takes the place of one further up and stands where that
stood. So seen from the type, its fields are put over the schema of its base.
-/

namespace WorkSchema

namespace Catalog

variable {catalog : Catalog} {max : Nat} {id base : TypeId}

/-- The ancestors of a type are the chain of its base. -/
theorem chain_base {type : WorkItemType} {above : List WorkItemType}
    (hchain : catalog.chain max id = .ok (type :: above)) (hbase : type.base? = some base) :
    catalog.chain max base = .ok above := by
  obtain ⟨hlineage, hlength⟩ := chain_eq_ok.mp hchain
  cases hlineage with
  | root _ hnone =>
      rw [hbase] at hnone
      cases hnone
  | link _ hsome habove =>
      rw [hbase] at hsome
      cases hsome
      exact chain_eq_ok.mpr ⟨habove, by simp at hlength; omega⟩

end Catalog

namespace Engine

variable {σ : Type} [TypeStore σ]

theorem answer_of_chain {engine : Engine σ} (hagrees : engine.CacheAgrees) {id : TypeId}
    {found : List WorkItemType}
    (hchain : engine.catalog.chain engine.rules.maxDepth id = .ok found) :
    engine.answer (.resolveSchema id) = .ok (.schema (Schema.ofChain found)) :=
  answer_resolveSchema hagrees (Catalog.flatten_eq_ok.mpr ⟨found, hchain, rfl⟩)

/-- In every state that an engine reaches, whatever its store held at first, a type with a
chain resolves to what that chain defines: each name once, in the order in which the names
are first defined from the furthest ancestor down, with the definition of the nearest type
that has one. If the type has a base, this is the schema of the base with the fields of the
type put over it. -/
theorem resolveSchema_flattens [LawfulStore σ] (start : Engine σ) (operations : List Operation)
    (id : TypeId) (found : List WorkItemType) (hempty : start.cache.entries = [])
    (hfresh : start.FreshIds operations)
    (hchain : (chain id).run (start.after operations) = .ok found (start.after operations)) :
    let engine := start.after operations
    ∃ schema, engine.answer (.resolveSchema id) = .ok (.schema schema) ∧
      schema.Flattens found ∧
      ∀ type base, found.head? = some type → type.base? = some base →
        ∃ inherited, engine.answer (.resolveSchema base) = .ok (.schema inherited) ∧
          schema.Overlays inherited type.fields := by
  intro engine
  have hagrees : engine.CacheAgrees := (after_evolves (cacheAgrees_of_empty hempty) hfresh).1
  have hfound : engine.catalog.chain engine.rules.maxDepth id = .ok found := by
    have hanswer := congrArg Outcome.answer hchain
    rw [chain_run, Outcome.answer_inState] at hanswer
    exact hanswer
  have hschema := answer_of_chain hagrees hfound
  refine ⟨Schema.ofChain found, hschema, Schema.flattens_ofChain found, ?_⟩
  intro type base hhead hbase
  obtain ⟨above, rfl⟩ := List.head?_eq_some_iff.mp hhead
  have hinherited := answer_of_chain hagrees (Catalog.chain_base hfound hbase)
  refine ⟨Schema.ofChain above, hinherited, ?_⟩
  rw [Schema.ofChain_cons]
  exact Schema.overlays_extend _ _

/-- Three requests, each for a type below the one before. The second redefines a field of
the first, and the third another. -/
def redefiningRequests : List NewType :=
  let text : FieldDefinition := {type := .simple .string}
  [ {name := "Task", fields := .ofList [("title", text), ("effort", text)]},
    { name := "Bug"
      base? := some (.ofNat 1)
      fields := .ofList [("steps", text), ("effort", {type := .simple .integer})] },
    { name := "Crash"
      base? := some (.ofNat 2)
      fields := .ofList [("trace", text), ("title", {text with required := true})] } ]

def redefiningTypes : List WorkItemType :=
  redefiningRequests.zipIdx.map fun (request, index) => request.toType (.ofNat (index + 1))

def redefiningRun : List Operation :=
  redefiningRequests.zipIdx.map fun (request, index) => .create request (.ofNat (index + 1))

theorem resolveSchema_flattens_redefined :
    let start : Engine MemoryStore := {store := {}}
    let engine := start.after redefiningRun
    let found := redefiningTypes.reverse
    start.FreshIds redefiningRun ∧ (chain (.ofNat 3)).run engine = .ok found engine ∧
      ∃ schema, engine.answer (.resolveSchema (.ofNat 3)) = .ok (.schema schema) ∧
        schema.keys = ["title", "effort", "steps", "trace"] ∧ schema.Flattens found ∧
        ∀ type base, found.head? = some type → type.base? = some base →
          ∃ inherited, engine.answer (.resolveSchema base) = .ok (.schema inherited) ∧
            schema.Overlays inherited type.fields := by
  intro start engine found
  have hfresh : start.FreshIds redefiningRun := by decide
  have hfound : engine.catalog.chain engine.rules.maxDepth (.ofNat 3) = .ok found := rfl
  have hchain : (chain (.ofNat 3)).run engine = .ok found engine := by
    rw [chain_run]
    exact congrArg (Outcome.inState · engine) hfound
  obtain ⟨schema, hschema, hflattens, hbase⟩ :=
    resolveSchema_flattens start redefiningRun (.ofNat 3) found rfl hfresh hchain
  have hsame := answer_of_chain (after_evolves (cacheAgrees_of_empty rfl) hfresh).1 hfound
  have hkeys : (Schema.ofChain found).keys = ["title", "effort", "steps", "trace"] := by decide
  rw [hschema] at hsame
  cases hsame
  exact ⟨hfresh, hchain, _, hschema, hkeys, hflattens, hbase⟩

end Engine

end WorkSchema
