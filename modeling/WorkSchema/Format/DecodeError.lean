import WorkSchema.Field.Error
import WorkSchema.Format.Source
import WorkSchema.Identifier

/-!
What can be wrong with a source when something definite is read from it.
-/

namespace WorkSchema

/-- What stands in the source, as errors describe it. -/
inductive Found where
  | null
  | bool (value : Bool)
  | integer (value : Int)
  | float (value : Binary64)
  | string (value : String)
  | sequence
  | mapping
  | other

namespace Found

def text : Found → String
  | null => "null"
  | bool value => "boolean \x60" ++ (if value then "true" else "false") ++ "\x60"
  | integer value => "integer \x60" ++ toString value ++ "\x60"
  | float value => "floating point \x60" ++ FloatLayout.json.write value ++ "\x60"
  | string value => "string " ++ Quoted.quote value
  | sequence => "sequence"
  | mapping => "map"
  | other => "other"

end Found

/-- What was called for. A record is named as the program names it. -/
inductive Expected where
  | boolean
  | string
  | sequence
  | mapping
  | unit
  | stringOrMapping
  | singleMember
  | fewerItems
  | unsigned
  | path
  | record (name : String)
  | recordOf (name : String) (fields : Nat)
  deriving DecidableEq, Repr

def Expected.text : Expected → String
  | boolean => "a boolean"
  | string => "a string"
  | sequence => "a sequence"
  | mapping => "a map"
  | unit => "unit"
  | stringOrMapping => "string or map"
  | singleMember => "map with a single key"
  | fewerItems => "fewer elements in array"
  | unsigned => "usize"
  | path => "path string"
  | record name => s!"struct {name}"
  | recordOf name fields =>
      s!"struct {name} with {fields} element" ++ (if fields = 1 then "" else "s")

inductive DecodeError where
  | fault (fault : Fault)
  | invalidType (found : Found) (expected : Expected)
  | invalidValue (found : Found) (expected : Expected)
  | invalidLength (length : Nat) (expected : Expected)
  | missingField (name : String)
  | duplicateField (name : String)
  | unknownKind (name : String)
  | noValue
  | field (error : FieldError)
  | identifier (error : IdentifierError)

namespace DecodeError

def quoted (name : String) : String := "\x60" ++ name ++ "\x60"

/-- The text of an error in the contents. Faults of the text itself are told by
their position, which is not kept, so they have no text. -/
def message : DecodeError → String
  | fault _ => ""
  | invalidType found expected => s!"invalid type: {found.text}, expected {expected.text}"
  | invalidValue found expected => s!"invalid value: {found.text}, expected {expected.text}"
  | invalidLength length expected => s!"invalid length {length}, expected {expected.text}"
  | missingField name => s!"missing field {quoted name}"
  | duplicateField name => s!"duplicate field {quoted name}"
  | unknownKind name =>
      s!"unknown variant {quoted name}, expected one of " ++
        ", ".intercalate (Kind.all.map fun kind => quoted kind.name)
  | noValue => "data did not match any variant of untagged enum FieldValue"
  | field error => error.message
  | identifier error => error.message

end DecodeError

end WorkSchema
