import WorkSchema.Text.Blank
import WorkSchema.WorkItem.Payload
import WorkSchema.WorkItem.Type

/-!
Checking submitted values against a schema, and schemas against what a later
one may change.
-/

namespace WorkSchema

namespace Schema

/-- What is stored for one field. A field that the payload does not name gets
the default of its type where defaults are filled in; one that it names without
a value stays empty. -/
def storedValue (fillDefaults : Bool) (payload : Payload) (name : String)
    (definition : FieldDefinition) : Except FieldError (Option FieldValue) := do
  match ← definition.validate name (payload.get? name).join with
  | some value => return some value
  | none =>
      if fillDefaults && !payload.contains name then return definition.type.default?
      else return none

def storedEntries (fillDefaults : Bool) (payload : Payload) :
    List (String × FieldDefinition) → Except FieldError (List (String × FieldValue))
  | [] => return []
  | (name, definition) :: rest => do
      let value? ← storedValue fillDefaults payload name definition
      let stored ← storedEntries fillDefaults payload rest
      match value? with
      | some value => return (name, value) :: stored
      | none => return stored

/-- The values to store for a payload, in the order of the schema. Names that
the schema does not have are rejected before any value is looked at. -/
def validate (schema : Schema) (fillDefaults : Bool) (payload : Payload) :
    Except FieldError FieldValues :=
  match payload.keys.find? (!schema.contains ·) with
  | some name => throw (.unknownField name)
  | none => return .ofList (← storedEntries fillDefaults payload schema.entries)

/-- Adds fields. A field that is there already takes the new definition and
keeps its place. -/
def extend (schema : Schema) (fields : Schema) : Schema := schema.insertAll fields.entries

/-- The fields of a chain of types that begins with the type itself and goes up
to its furthest ancestor, whose fields come first. -/
def ofChain (chain : List WorkItemType) : Schema :=
  chain.reverse.foldl (fun schema type => schema.extend type.fields) {}

end Schema

namespace Payload

/-- The payload that stored values and changes to them amount to. -/
def update (current : FieldValues) (changes : Payload) : Payload :=
  (OrderedMap.map some current).insertAll changes.entries

end Payload

end WorkSchema
