import WorkSchema.Proofs.Engine.Cache
import WorkSchema.Proofs.Engine.Run

/-!
Actions that only read. While the cache of an engine agrees with its catalog, a
reading action answers from the catalog and the rules alone, so what happens to
be cached decides nothing, and all it may change is the cache.
-/

namespace WorkSchema

/-- The settings that an answer may depend on. Whether schemas are kept is not
among them. -/
structure Rules where
  maxDepth : Nat
  fillDefaults : Bool

namespace Catalog

/-- What validating a payload against a type answers. -/
def validateFields (catalog : Catalog) (rules : Rules) (id : TypeId) (payload : Payload) :
    Except SchemaError FieldValues := do
  let schema ← catalog.flatten rules.maxDepth id
  (schema.validate rules.fillDefaults payload).mapError SchemaError.field

/-- A type together with its resolved schema. -/
def resolve (catalog : Catalog) (rules : Rules) (id : TypeId) :
    Except SchemaError ResolvedType := do
  let schema ← catalog.flatten rules.maxDepth id
  let type ← catalog.load id
  return {type, schema}

/-- What a requested type inherits, if its base leaves room for it. -/
def inherited (catalog : Catalog) (rules : Rules) (request : NewType) :
    Except SchemaError Schema := do
  match request.base? with
  | none => return {}
  | some base =>
      let ancestors ← catalog.chain rules.maxDepth base
      if rules.maxDepth < ancestors.length then
        throw (.inheritanceTooDeep request.name rules.maxDepth)
      catalog.flatten rules.maxDepth base

/-- What a requested type inherits, if the request passes all checks. -/
def accept (catalog : Catalog) (rules : Rules) (request : NewType) : Except SchemaError Schema := do
  Engine.checkName request.name
  Engine.checkDefinitions request.fields
  let inherited ← catalog.inherited rules request
  request.categories.forM fun category => do
    let _ ← catalog.loadCategory category
  return inherited

/-- A type with its fields added to or redefined, if that is allowed. -/
def revise (catalog : Catalog) (rules : Rules) (id : TypeId) (fields : Schema) :
    Except SchemaError WorkItemType := do
  Engine.checkDefinitions fields
  let current ← catalog.flatten rules.maxDepth id
  Engine.checkCompatible current fields
  let type ← catalog.load id
  return {type with fields := type.fields.extend fields}

end Catalog

namespace Engine

variable {σ α β : Type} [TypeStore σ]

def rules (engine : Engine σ) : Rules :=
  ⟨engine.settings.maxInheritanceDepth, engine.settings.fillDefaults⟩

def CacheAgrees (engine : Engine σ) : Prop :=
  engine.cache.Agrees engine.catalog engine.settings.maxInheritanceDepth

/-- Whether an action, run by the engine, gives a reply and leaves everything but
the cache as it was. -/
def Reads (engine : Engine σ) (action : EngineM σ α) (reply : Except SchemaError α) : Prop :=
  ∃ cache, Engine.CacheAgrees {engine with cache} ∧
    action.run engine = Outcome.inState reply {engine with cache}

variable {engine : Engine σ} {action : EngineM σ α} {reply : Except SchemaError α}

theorem reads_lift (hagrees : engine.CacheAgrees) (result : Except SchemaError α) :
    engine.Reads (liftResult result) result := by
  refine ⟨engine.cache, hagrees, ?_⟩
  cases result <;> rfl

theorem reads_pure (hagrees : engine.CacheAgrees) (value : α) :
    engine.Reads (pure value) (.ok value) :=
  reads_lift hagrees (.ok value)

theorem reads_get {rest : Engine σ → EngineM σ α} (hrest : engine.Reads (rest engine) reply) :
    engine.Reads (get >>= rest) reply := hrest

theorem reads_ask (hagrees : engine.CacheAgrees) (question : Catalog → Except SchemaError α) :
    engine.Reads (ask question) (question engine.catalog) :=
  reads_get (reads_lift hagrees (question engine.catalog))

/-- What follows a reading action may be shown for the same engine with any
other cache that agrees. -/
theorem Reads.bind {rest : α → EngineM σ β} {replies : α → Except SchemaError β}
    (hfirst : engine.Reads action reply)
    (hrest : ∀ value cache, reply = .ok value → Engine.CacheAgrees {engine with cache} →
      Engine.Reads {engine with cache} (rest value) (replies value)) :
    engine.Reads (action >>= rest) (reply >>= replies) := by
  obtain ⟨cache, hcache, hrun⟩ := hfirst
  unfold Reads
  rw [EStateM.run_bind, hrun]
  cases reply with
  | error error => exact ⟨cache, hcache, rfl⟩
  | ok value => exact hrest value cache rfl hcache

theorem Reads.map (hreads : engine.Reads action reply) (f : α → β) :
    engine.Reads (do return f (← action)) (do return f (← reply)) :=
  hreads.bind fun value _ _ hcache => reads_pure hcache (f value)

theorem reads_mapM {f : β → EngineM σ α} {replies : β → Except SchemaError α}
    (hagrees : engine.CacheAgrees)
    (hreads : ∀ item cache, Engine.CacheAgrees {engine with cache} →
      Engine.Reads {engine with cache} (f item) (replies item)) (items : List β) :
    engine.Reads (items.mapM f) (items.mapM replies) := by
  induction items generalizing engine with
  | nil => exact reads_pure hagrees []
  | cons item rest ih =>
      rw [List.mapM_cons, List.mapM_cons]
      apply (hreads item engine.cache hagrees).bind
      intro value cache _ hcache
      apply (ih hcache hreads).bind
      exact fun values cache _ hcache => reads_pure hcache (value :: values)

theorem reads_forM {f : β → EngineM σ Unit} {replies : β → Except SchemaError Unit}
    (hagrees : engine.CacheAgrees)
    (hreads : ∀ item cache, Engine.CacheAgrees {engine with cache} →
      Engine.Reads {engine with cache} (f item) (replies item)) (items : List β) :
    engine.Reads (items.forM f) (items.forM replies) := by
  induction items generalizing engine with
  | nil => exact reads_pure hagrees ()
  | cons item rest ih =>
      apply (hreads item engine.cache hagrees).bind
      intro _ cache _ hcache
      exact ih hcache hreads

theorem reads_chain (hagrees : engine.CacheAgrees) (id : TypeId) :
    engine.Reads (chain id) (engine.catalog.chain engine.rules.maxDepth id) :=
  reads_get (reads_ask hagrees (·.chain engine.rules.maxDepth id))

omit [TypeStore σ] in
private theorem cached?_run (engine : Engine σ) (id : TypeId) :
    (cached? id).run engine =
      .ok (if engine.settings.cacheResolved then engine.cache.get? id else none) engine := rfl

/-- What is resolved anew is kept if schemas are kept, and agrees because the
chain was walked in the same catalog. -/
private theorem reads_keep (hagrees : engine.CacheAgrees) {id : TypeId}
    {chain : List WorkItemType}
    (hchain : engine.catalog.chain engine.rules.maxDepth id = .ok chain) (keep : Bool)
    (generation : Nat) :
    engine.Reads
      (do
        if keep then
          let _ ← onCache (·.insert generation (chain.map (·.id)) (Schema.ofChain chain))
        return Schema.ofChain chain)
      (.ok (Schema.ofChain chain)) := by
  cases keep with
  | false => exact reads_pure hagrees _
  | true => exact ⟨_, SchemaCache.agrees_insert hagrees hchain generation, rfl⟩

/-- Resolving a type gives the flattened chain, whether the schema comes from
the cache or not. -/
theorem reads_resolveSchema (hagrees : engine.CacheAgrees) (id : TypeId) :
    engine.Reads (resolveSchema id) (engine.catalog.flatten engine.rules.maxDepth id) := by
  unfold Reads resolveSchema
  rw [EStateM.run_bind, cached?_run]
  cases hhit : if engine.settings.cacheResolved then engine.cache.get? id else none with
  | some schema =>
      have hfound : engine.cache.get? id = some schema := by
        split at hhit
        · exact hhit
        · cases hhit
      have hflatten : engine.catalog.flatten engine.rules.maxDepth id = .ok schema :=
        SchemaCache.flatten_of_get? hagrees hfound
      rw [hflatten]
      exact reads_pure hagrees schema
  | none =>
      apply reads_get
      apply (reads_chain hagrees id).bind
      intro chain cache hchain hcache
      exact reads_keep hcache hchain _ _

theorem reads_load (hagrees : engine.CacheAgrees) (id : TypeId) :
    engine.Reads (load id) (engine.catalog.load id) :=
  reads_ask hagrees (·.load id)

theorem reads_resolve (hagrees : engine.CacheAgrees) (id : TypeId) :
    engine.Reads (resolve id) (engine.catalog.resolve engine.rules id) := by
  apply (reads_resolveSchema hagrees id).bind
  intro schema cache _ hcache
  exact (reads_load hcache id).map fun type => ResolvedType.mk type schema

theorem reads_validateFields (hagrees : engine.CacheAgrees) (id : TypeId) (payload : Payload) :
    engine.Reads (validateFields id payload)
      (engine.catalog.validateFields engine.rules id payload) := by
  apply (reads_resolveSchema hagrees id).bind
  intro schema cache _ hcache
  apply reads_get
  have hrules : engine.rules.fillDefaults = engine.settings.fillDefaults := rfl
  rw [hrules]
  cases schema.validate engine.settings.fillDefaults payload with
  | ok values => exact reads_pure hcache values
  | error error => exact reads_lift hcache (.error (.field error))

/-- The checks and lookups of a creation, which come before its first write. -/
def admission (request : NewType) : EngineM σ Schema := do
  liftResult (checkName request.name)
  liftResult (checkDefinitions request.fields)
  let inherited ← inheritedSchema request
  request.categories.forM fun category => do
    let _ ← ask (·.loadCategory category)
  return inherited

/-- The writes of a creation. -/
def record (request : NewType) (id : TypeId) (inherited : Schema) : EngineM σ ResolvedType := do
  onStore (TypeStore.save (request.toType id))
  unless request.categories.isEmpty do
    onStore (TypeStore.link id request.categories)
  return {type := request.toType id, schema := inherited.extend request.fields}

theorem create_eq (request : NewType) (id : TypeId) :
    create (σ := σ) request id = admission request >>= record request id := by
  simp [create, admission, record, NewType.toType]

/-- The checks and lookups of an extension. -/
def revision (id : TypeId) (fields : Schema) : EngineM σ WorkItemType := do
  liftResult (checkDefinitions fields)
  let current ← resolveSchema id
  liftResult (checkCompatible current fields)
  let type ← load id
  return {type with fields := type.fields.extend fields}

/-- Saves the type that has the id and drops what was resolved from it before. -/
def overwrite (id : TypeId) (type : WorkItemType) : EngineM σ Unit := do
  onStore (TypeStore.save type)
  let _ ← onCache (·.invalidate id)

theorem addFields_eq (id : TypeId) (fields : Schema) :
    addFields (σ := σ) id fields = (do
      let type ← revision id fields
      overwrite id type
      resolve id) := by
  simp [addFields, revision, overwrite]

private theorem reads_inheritedSchema (hagrees : engine.CacheAgrees) (request : NewType) :
    engine.Reads (inheritedSchema request) (engine.catalog.inherited engine.rules request) := by
  unfold inheritedSchema Catalog.inherited
  cases request.base? with
  | none => exact reads_pure hagrees ({} : Schema)
  | some base =>
      apply (reads_chain hagrees base).bind
      intro ancestors cache _ hcache
      apply reads_get
      by_cases hdeep : engine.rules.maxDepth < ancestors.length
      · have hdeep' : engine.settings.maxInheritanceDepth < ancestors.length := hdeep
        simp only [hdeep, hdeep', if_true]
        exact ⟨cache, hcache, rfl⟩
      · have hdeep' : ¬ engine.settings.maxInheritanceDepth < ancestors.length := hdeep
        simp only [hdeep, hdeep', if_false]
        exact reads_resolveSchema hcache base

theorem reads_admission (hagrees : engine.CacheAgrees) (request : NewType) :
    engine.Reads (admission request) (engine.catalog.accept engine.rules request) := by
  apply (reads_lift hagrees (checkName request.name)).bind
  intro _ cache _ hcache
  apply (reads_lift hcache (checkDefinitions request.fields)).bind
  intro _ cache _ hcache
  apply (reads_inheritedSchema hcache request).bind
  intro inherited cache _ hcache
  apply Reads.map
  apply reads_forM hcache
  intro category cache hcache
  exact (reads_ask hcache (·.loadCategory category)).map fun _ => ()

theorem reads_revision (hagrees : engine.CacheAgrees) (id : TypeId) (fields : Schema) :
    engine.Reads (revision id fields) (engine.catalog.revise engine.rules id fields) := by
  apply (reads_lift hagrees (checkDefinitions fields)).bind
  intro _ cache _ hcache
  apply (reads_resolveSchema hcache id).bind
  intro current cache _ hcache
  apply (reads_lift hcache (checkCompatible current fields)).bind
  intro _ cache _ hcache
  exact (reads_load hcache id).map fun type => {type with fields := type.fields.extend fields}

end Engine

/-- What an operation that changes nothing but the cache answers, as the catalog
alone has it; there is none for the other operations. -/
def Operation.reply? (catalog : Catalog) (rules : Rules) :
    Operation → Option (Except SchemaError Response)
  | load id => some (do return .type (← catalog.load id))
  | resolve id => some (do return .resolved (← catalog.resolve rules id))
  | resolveSchema id => some (do return .schema (← catalog.flatten rules.maxDepth id))
  | validateFields id payload =>
      some (do return .values (← catalog.validateFields rules id payload))
  | validateUpdate id current changes =>
      some (do return .values (← catalog.validateFields rules id (.update current changes)))
  | list => some (.ok (.types catalog.types.elements))
  | listCategories => some (.ok (.categories catalog.categories.elements))
  | categoriesOf id => some (do
      let ids ← catalog.categoriesOf id
      return .categories (← ids.mapM catalog.loadCategory))
  | typesIn category => some (do
      let ids ← catalog.typesIn category
      return .types (← ids.mapM catalog.load))
  | clone => some (.ok .done)
  | create .. | addFields .. | createCategory _ | linkCategories .. | clearCache
  | invalidate _ => none

namespace Engine

variable {σ : Type} [TypeStore σ] {engine : Engine σ}

private theorem reads_categoriesOf (hagrees : engine.CacheAgrees) (id : TypeId) :
    engine.Reads (categoriesOf id) (do
      let ids ← engine.catalog.categoriesOf id
      ids.mapM engine.catalog.loadCategory) := by
  apply (reads_ask hagrees (·.categoriesOf id)).bind
  intro ids cache _ hcache
  apply reads_mapM hcache
  intro category cache hcache
  exact reads_ask hcache (·.loadCategory category)

private theorem reads_typesIn (hagrees : engine.CacheAgrees) (category : CategoryId) :
    engine.Reads (typesIn category) (do
      let ids ← engine.catalog.typesIn category
      ids.mapM engine.catalog.load) := by
  apply (reads_ask hagrees (·.typesIn category)).bind
  intro ids cache _ hcache
  apply reads_mapM hcache
  intro id cache hcache
  exact reads_load hcache id

/-- Every reading operation answers from the catalog and the rules alone. -/
theorem reads_perform (hagrees : engine.CacheAgrees) {operation : Operation}
    {reply : Except SchemaError Response}
    (hreply : operation.reply? engine.catalog engine.rules = some reply) :
    engine.Reads operation.perform reply := by
  cases operation with
  | load id =>
      cases hreply
      exact (reads_load hagrees id).map Response.type
  | resolve id =>
      cases hreply
      exact (reads_resolve hagrees id).map Response.resolved
  | resolveSchema id =>
      cases hreply
      exact (reads_resolveSchema hagrees id).map Response.schema
  | validateFields id payload =>
      cases hreply
      exact (reads_validateFields hagrees id payload).map Response.values
  | validateUpdate id current changes =>
      cases hreply
      exact (reads_validateFields hagrees id (.update current changes)).map Response.values
  | list | listCategories | clone =>
      cases hreply
      exact reads_pure hagrees _
  | categoriesOf id =>
      cases hreply
      have hreads := (reads_categoriesOf hagrees id).map Response.categories
      simp only [bind_assoc] at hreads
      exact hreads
  | typesIn category =>
      cases hreply
      have hreads := (reads_typesIn hagrees category).map Response.types
      simp only [bind_assoc] at hreads
      exact hreads
  | create | addFields | createCategory | linkCategories | clearCache | invalidate =>
      cases hreply

theorem answer_of_reply (hagrees : engine.CacheAgrees) {operation : Operation}
    {reply : Except SchemaError Response}
    (hreply : operation.reply? engine.catalog engine.rules = some reply) :
    engine.answer operation = reply := by
  obtain ⟨cache, _, hrun⟩ := reads_perform hagrees hreply
  rw [answer, hrun, Outcome.answer_inState]

theorem answer_resolveSchema (hagrees : engine.CacheAgrees) {id : TypeId} {schema : Schema}
    (hschema : engine.catalog.flatten engine.rules.maxDepth id = .ok schema) :
    engine.answer (.resolveSchema id) = .ok (.schema schema) := by
  rw [answer_of_reply hagrees rfl, hschema]
  rfl

theorem answer_resolveSchema_iff (hagrees : engine.CacheAgrees) {id : TypeId} {schema : Schema} :
    engine.answer (.resolveSchema id) = .ok (.schema schema) ↔
      engine.catalog.flatten engine.rules.maxDepth id = .ok schema := by
  rw [answer_of_reply hagrees rfl]
  cases engine.catalog.flatten engine.rules.maxDepth id <;>
    simp [bind, Except.bind, pure, Except.pure]

/-- A type resolves alike wherever its chain flattens alike. -/
theorem answer_resolveSchema_congr {after : Engine σ} (hagrees : engine.CacheAgrees)
    (hagrees' : after.CacheAgrees) (hrules : after.rules = engine.rules) {id : TypeId}
    (hsame : after.catalog.flatten engine.rules.maxDepth id =
      engine.catalog.flatten engine.rules.maxDepth id) :
    after.answer (.resolveSchema id) = engine.answer (.resolveSchema id) := by
  rw [answer_of_reply hagrees' rfl, answer_of_reply hagrees rfl, hrules, hsame]

theorem answer_validateFields (hagrees : engine.CacheAgrees) {id : TypeId} {schema : Schema}
    (hschema : engine.catalog.flatten engine.rules.maxDepth id = .ok schema)
    (payload : Payload) :
    engine.answer (.validateFields id payload) =
      ((schema.validate engine.rules.fillDefaults payload).mapError SchemaError.field).map
        Response.values := by
  rw [answer_of_reply hagrees rfl, Catalog.validateFields, hschema]
  rfl

/-- An answer with values comes from the schema of the type. -/
theorem validate_of_answer (hagrees : engine.CacheAgrees) {id : TypeId} {payload : Payload}
    {values : FieldValues}
    (hanswer : engine.answer (.validateFields id payload) = .ok (.values values)) :
    ∃ schema, engine.catalog.flatten engine.rules.maxDepth id = .ok schema ∧
      schema.validate engine.rules.fillDefaults payload = .ok values := by
  rw [answer_of_reply hagrees rfl, Catalog.validateFields] at hanswer
  obtain ⟨found, hfound, hvalues⟩ := Outcome.bind_eq_ok.mp hanswer
  obtain ⟨schema, hschema, hresult⟩ := Outcome.bind_eq_ok.mp hfound
  refine ⟨schema, hschema, ?_⟩
  cases hvalid : schema.validate engine.rules.fillDefaults payload with
  | ok values' =>
      rw [hvalid] at hresult
      cases hresult
      cases hvalues
      rfl
  | error error =>
      rw [hvalid] at hresult
      cases hresult

end Engine

end WorkSchema
