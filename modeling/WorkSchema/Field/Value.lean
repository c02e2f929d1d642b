import WorkSchema.Number.Layout
import WorkSchema.Text.Quoted

/-!
Field values as they are submitted and stored. Absence is never a value: it is
`none` in an `Option FieldValue`.
-/

namespace WorkSchema

inductive FieldValue where
  | boolean (value : Bool)
  | integer (value : Int64)
  | float (value : Binary64)
  | string (value : String)
  | list (items : List FieldValue)

namespace FieldValue

/-- The name of a value's representation. -/
def typeName : FieldValue → String
  | boolean _ => "boolean"
  | integer _ => "integer"
  | float _ => "float"
  | string _ => "string"
  | list _ => "list"

def items? : FieldValue → Option (List FieldValue)
  | list items => some items
  | _ => none

mutual

/-- Equality as values are compared everywhere: representations never mix, and
floats are compared as numbers, so a NaN equals nothing. -/
def equal : FieldValue → FieldValue → Bool
  | boolean a, boolean b => a == b
  | integer a, integer b => a == b
  | float a, float b => a.equal b
  | string a, string b => a == b
  | list a, list b => equalItems a b
  | _, _ => false

def equalItems : List FieldValue → List FieldValue → Bool
  | [], [] => true
  | a :: as, b :: bs => equal a b && equalItems as bs
  | _, _ => false

end

mutual

/-- The text of a value in messages. -/
def display : FieldValue → String
  | boolean value => if value then "true" else "false"
  | integer value => toString value.toInt
  | float value => FloatLayout.message.write value
  | string value => Quoted.quote value
  | list items => "[" ++ ", ".intercalate (displayItems items) ++ "]"

def displayItems : List FieldValue → List String
  | [] => []
  | item :: rest => display item :: displayItems rest

end

end FieldValue

end WorkSchema
