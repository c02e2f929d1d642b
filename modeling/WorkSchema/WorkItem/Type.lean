import WorkSchema.Field.DefinitionForm
import WorkSchema.Identifier

/-!
Work item types: what is stored of them, what a request for a new one holds,
and how both are written down.
-/

namespace WorkSchema

/-- The fields of a type by name, in their order. -/
abbrev Schema := OrderedMap FieldDefinition

namespace Schema

def toDocument (schema : Schema) : Document :=
  .mapping (schema.entries.map fun (name, definition) => (name, definition.toDocument))

def read (origin : Origin) (source : Source) : Decoded Schema :=
  source.readMap (FieldDefinition.read origin)

/-- Equality of the definitions under each name, whatever their order. -/
def identical (a b : Schema) : Bool := a.equalBy FieldDefinition.identical b

end Schema

/-- A type as it is stored: its own fields, and the type it extends. -/
structure WorkItemType where
  id : TypeId
  name : String
  description? : Option String := none
  icon? : Option String := none
  base? : Option TypeId := none
  fields : Schema := {}

namespace WorkItemType

instance : Ranked WorkItemType := ⟨fun type => rank type.id⟩

def toDocument (type : WorkItemType) : Document :=
  .mapping (
    ("id", .string type.id.toText) ::
    ("name", .string type.name) ::
    Document.member? "description" (type.description?.map Document.string) ++
    Document.member? "icon" (type.icon?.map Document.string) ++
    Document.member? "base_type_id" (type.base?.map fun id => .string id.toText) ++
    [("fields", type.fields.toDocument)])

structure Draft where
  id? : Option TypeId := none
  name? : Option String := none
  description? : Option String := none
  icon? : Option String := none
  base? : Option TypeId := none
  fields : Schema := {}

def reader (origin : Origin) : RecordReader Draft where
  name := "WorkItemType"
  fields := [⟨"id", false⟩, ⟨"name", false⟩, ⟨"description", true⟩, ⟨"icon", true⟩,
    ⟨"base_type_id", true⟩, ⟨"fields", true⟩]
  assign draft name source := do
    match name with
    | "id" => return {draft with id? := some (← source.readIdentifier)}
    | "name" => return {draft with name? := some (← source.readString)}
    | "description" =>
        return {draft with description? := ← source.readOptional Source.readString}
    | "icon" => return {draft with icon? := ← source.readOptional Source.readString}
    | "base_type_id" =>
        return {draft with base? := ← source.readOptional Source.readIdentifier}
    | _ => return {draft with fields := ← Schema.read origin source}

def read (origin : Origin) (source : Source) : Decoded WorkItemType := do
  match ← (reader origin).read origin {} source with
  | {id? := some id, name? := some name, description?, icon?, base?, fields} =>
      return {id, name, description?, icon?, base?, fields}
  | {id? := none, ..} => throw (.missingField "id")
  | _ => throw (.missingField "name")

def identical (a b : WorkItemType) : Bool :=
  a.id == b.id && a.name == b.name && a.description? == b.description? && a.icon? == b.icon? &&
    a.base? == b.base? && a.fields.identical b.fields

end WorkItemType

/-- A type with the fields it inherits and its own, in one schema. -/
structure ResolvedType where
  type : WorkItemType
  schema : Schema

namespace ResolvedType

/-- The members of the type itself, and then the schema. -/
def toDocument (resolved : ResolvedType) : Document :=
  match resolved.type.toDocument with
  | .mapping members => .mapping (members ++ [("schema", resolved.schema.toDocument)])
  | other => other

end ResolvedType

/-- A request for a new type. -/
structure NewType where
  name : String
  description? : Option String := none
  icon? : Option String := none
  base? : Option TypeId := none
  fields : Schema := {}
  categories : List CategoryId := []

namespace NewType

/-- The type that the request asks for, under an id made for it. -/
def toType (request : NewType) (id : TypeId) : WorkItemType :=
  { id
    name := request.name
    description? := request.description?
    icon? := request.icon?
    base? := request.base?
    fields := request.fields }

def toDocument (request : NewType) : Document :=
  .mapping [
    ("name", .string request.name),
    ("description", .optional (request.description?.map .string)),
    ("icon", .optional (request.icon?.map .string)),
    ("base_type_id", .optional (request.base?.map fun id => .string id.toText)),
    ("fields", request.fields.toDocument),
    ("categories", .sequence (request.categories.map fun id => .string id.toText))]

structure Draft where
  name? : Option String := none
  description? : Option String := none
  icon? : Option String := none
  base? : Option TypeId := none
  fields : Schema := {}
  categories : List CategoryId := []

def reader (origin : Origin) : RecordReader Draft where
  name := "NewWorkItemType"
  fields := [⟨"name", false⟩, ⟨"description", true⟩, ⟨"icon", true⟩, ⟨"base_type_id", true⟩,
    ⟨"fields", true⟩, ⟨"categories", true⟩]
  assign draft name source := do
    match name with
    | "name" => return {draft with name? := some (← source.readString)}
    | "description" =>
        return {draft with description? := ← source.readOptional Source.readString}
    | "icon" => return {draft with icon? := ← source.readOptional Source.readString}
    | "base_type_id" =>
        return {draft with base? := ← source.readOptional Source.readIdentifier}
    | "fields" => return {draft with fields := ← Schema.read origin source}
    | _ => return {draft with categories := ← source.readList Source.readIdentifier}

def read (origin : Origin) (source : Source) : Decoded NewType := do
  match ← (reader origin).read origin {} source with
  | {name? := some name, description?, icon?, base?, fields, categories} =>
      return {name, description?, icon?, base?, fields, categories}
  | _ => throw (.missingField "name")

def identical (a b : NewType) : Bool :=
  a.name == b.name && a.description? == b.description? && a.icon? == b.icon? &&
    a.base? == b.base? && a.fields.identical b.fields && a.categories == b.categories

end NewType

end WorkSchema
