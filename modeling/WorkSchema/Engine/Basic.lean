import WorkSchema.Config.Settings
import WorkSchema.Engine.Cache
import WorkSchema.Store.Interface
import WorkSchema.WorkItem.Validation

/-!
The engine creates and extends types, resolves what they inherit, and validates
values against the result. An operation that fails keeps what it had changed
until then.
-/

namespace WorkSchema

structure Engine (σ : Type) where
  store : σ
  cache : SchemaCache := {}
  settings : Settings := {}

abbrev EngineM (σ : Type) := EStateM SchemaError (Engine σ)

namespace Engine

variable {σ : Type}

/-- Runs an action of the store. -/
def onStore {α : Type} (action : StoreM σ α) : EngineM σ α := fun engine =>
  match action engine.store with
  | .ok value store => .ok value {engine with store}
  | .error error store => .error error {engine with store}

/-- Runs a change of the cache. -/
def onCache {α : Type} (change : SchemaCache → α × SchemaCache) : EngineM σ α :=
  modifyGet fun engine =>
    let (value, cache) := change engine.cache
    (value, {engine with cache})

variable [TypeStore σ]

def catalog (engine : Engine σ) : Catalog := TypeStore.catalog engine.store

/-- Asks the catalog of the store. -/
def ask {α : Type} (question : Catalog → Except SchemaError α) : EngineM σ α := do
  liftResult (question (← get).catalog)

/-- Fields of a request must have names that are not blank, and valid types. -/
def checkDefinitions (fields : Schema) : Except SchemaError Unit :=
  fields.entries.forM fun (name, definition) =>
    if Text.isBlank name then throw (.badParameter "fields" "field names must not be blank")
    else match definition.type.validate with
      | .ok () => pure ()
      | .error source => throw (.invalidFieldType name source)

def checkName (name : String) : Except SchemaError Unit :=
  if Text.isBlank name then throw (.badParameter "name" "must not be blank") else pure ()

/-- The type itself, followed by its ancestors. -/
def chain (id : TypeId) : EngineM σ (List WorkItemType) := do
  let max := (← get).settings.maxInheritanceDepth
  ask (·.chain max id)

def cached? (id : TypeId) : EngineM σ (Option Schema) := do
  let engine ← get
  return if engine.settings.cacheResolved then engine.cache.get? id else none

/-- The fields of a type and of its ancestors in one schema. A schema that was
resolved before is taken from the cache. -/
def resolveSchema (id : TypeId) : EngineM σ Schema := do
  match ← cached? id with
  | some schema => return schema
  | none =>
      let engine ← get
      let chain ← chain id
      let schema := Schema.ofChain chain
      if engine.settings.cacheResolved then
        let _ ← onCache (·.insert engine.cache.generation (chain.map (·.id)) schema)
      return schema

/-- A type as it is stored. -/
def load (id : TypeId) : EngineM σ WorkItemType := ask (·.load id)

/-- A type together with its resolved schema. -/
def resolve (id : TypeId) : EngineM σ ResolvedType := do
  let schema ← resolveSchema id
  let type ← load id
  return {type, schema}

/-- The schema that a new type inherits. Its base must leave room for one more
type in the chain. -/
def inheritedSchema (request : NewType) : EngineM σ Schema := do
  match request.base? with
  | none => return {}
  | some base =>
      let ancestors ← chain base
      let max := (← get).settings.maxInheritanceDepth
      if max < ancestors.length then throw (.inheritanceTooDeep request.name max)
      resolveSchema base

/-- Creates a type under a new id. All checks come before the first write; the
links of the type are written after the type itself. -/
def create (request : NewType) (id : TypeId) : EngineM σ ResolvedType := do
  liftResult (checkName request.name)
  liftResult (checkDefinitions request.fields)
  let inherited ← inheritedSchema request
  request.categories.forM fun category => do
    let _ ← ask (·.loadCategory category)
  let type := request.toType id
  onStore (TypeStore.save type)
  unless request.categories.isEmpty do
    onStore (TypeStore.link id request.categories)
  return {type, schema := inherited.extend type.fields}

/-- Validates all values of an item. -/
def validateFields (id : TypeId) (payload : Payload) : EngineM σ FieldValues := do
  let schema ← resolveSchema id
  match schema.validate (← get).settings.fillDefaults payload with
  | .ok values => return values
  | .error error => throw (.field error)

/-- Validates changes together with the stored values they are made to. -/
def validateUpdate (id : TypeId) (current : FieldValues) (changes : Payload) :
    EngineM σ FieldValues :=
  validateFields id (Payload.update current changes)

def requiredness (definition : FieldDefinition) : String :=
  if definition.required then "required" else "optional"

/-- Why one definition cannot take the place of another. -/
def conflictMessage (new old : FieldDefinition) : String :=
  s!"{requiredness new} {new.kind.name} does not accept all values of " ++
    s!"{requiredness old} {old.kind.name}"

/-- Every new definition must enclose the one it replaces, inherited ones
included, so that stored values stay valid. -/
def checkCompatible (current fields : Schema) : Except SchemaError Unit :=
  fields.entries.forM fun (name, new) =>
    match current.get? name with
    | some old =>
        if new.encloses old then pure () else throw (.conflict name (conflictMessage new old))
    | none => pure ()

/-- Adds fields to a type or redefines them. Resolved schemas that the type is
part of are dropped. -/
def addFields (id : TypeId) (fields : Schema) : EngineM σ ResolvedType := do
  liftResult (checkDefinitions fields)
  let current ← resolveSchema id
  liftResult (checkCompatible current fields)
  let type ← load id
  onStore (TypeStore.save {type with fields := type.fields.extend fields})
  let _ ← onCache (·.invalidate id)
  resolve id

/-- All types as they are stored. -/
def list : EngineM σ (List WorkItemType) := return (← get).catalog.types.elements

def createCategory (category : Category) : EngineM σ Category := do
  liftResult (checkName category.name)
  onStore (TypeStore.saveCategory category)
  return category

def listCategories : EngineM σ (List Category) := return (← get).catalog.categories.elements

/-- Puts a type into more categories. -/
def linkCategories (id : TypeId) (categories : List CategoryId) : EngineM σ Unit :=
  onStore (TypeStore.link id categories)

def categoriesOf (id : TypeId) : EngineM σ (List Category) := do
  let ids ← ask (·.categoriesOf id)
  ids.mapM fun category => ask (·.loadCategory category)

def typesIn (category : CategoryId) : EngineM σ (List WorkItemType) := do
  let ids ← ask (·.typesIn category)
  ids.mapM fun id => load id

def clearCache : EngineM σ Unit := onCache fun cache => ((), cache.clear)

end Engine

end WorkSchema
