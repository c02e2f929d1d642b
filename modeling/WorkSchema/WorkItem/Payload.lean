import WorkSchema.Collection.OrderedMap
import WorkSchema.Field.Reading

/-!
The values submitted for the fields of a work item, and the values stored.
-/

namespace WorkSchema

/-- Submitted values by name. An explicit null is an entry without a value. -/
abbrev Payload := OrderedMap (Option FieldValue)

/-- Stored values by name. -/
abbrev FieldValues := OrderedMap FieldValue

namespace Payload

/-- The entries of a JSON object in their order. The first member that stands
for no value is the error. -/
def entriesOfJson : List (String × Json) → Except FieldError (List (String × Option FieldValue))
  | [] => return []
  | (name, json) :: rest => do
      match FieldValue.ofJson json with
      | .ok value? => return (name, value?) :: (← entriesOfJson rest)
      | .error error => throw (.invalidValue name error)

def ofJson (members : List (String × Json)) : Except FieldError Payload :=
  return .ofList (← entriesOfJson members)

end Payload

namespace FieldValues

def toDocument (values : FieldValues) : Document :=
  .mapping (values.entries.map fun (name, value) => (name, value.toDocument))

/-- The values as a JSON object, whose members are sorted. -/
def toJson (values : FieldValues) : Json := values.toDocument.toJson

end FieldValues

end WorkSchema
