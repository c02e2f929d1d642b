import WorkSchema.Json.Basic
import WorkSchema.Number.Layout

/-!
Documents: what is written out, before a text format is chosen. The members of
a mapping keep the order in which they are to be written, and floats may be any
number, since only some formats can write them all.
-/

namespace WorkSchema

inductive Document where
  | null
  | bool (value : Bool)
  | integer (value : Int)
  | float (value : Binary64)
  | string (value : String)
  | sequence (items : List Document)
  | mapping (members : List (String × Document))

namespace Document

/-- The member for an optional part, left out if there is none. -/
def member? (name : String) (value? : Option Document) : List (String × Document) :=
  match value? with
  | some value => [(name, value)]
  | none => []

def optional (value? : Option Document) : Document := value?.getD null

mutual

/-- A document as a JSON value. Members are sorted, and what is not a finite
number becomes null. -/
def toJson : Document → Json
  | null => .null
  | bool value => .bool value
  | integer value => .ofInt value
  | float value => .ofFloat value
  | string value => .string value
  | sequence items => .array (itemsToJson items)
  | mapping members => .objectOf (membersToJson members)

def itemsToJson : List Document → List Json
  | [] => []
  | item :: rest => toJson item :: itemsToJson rest

def membersToJson : List (String × Document) → List (String × Json)
  | [] => []
  | (name, value) :: rest => (name, toJson value) :: membersToJson rest

end

mutual

/-- A JSON value as a document, member for member. -/
def ofJson : Json → Document
  | .null => null
  | .bool value => bool value
  | .number (.integer value _ _) => integer value
  | .number (.float value _) => float value
  | .string value => string value
  | .array items => sequence (itemsOfJson items)
  | .object members => mapping (membersOfJson members)

def itemsOfJson : List Json → List Document
  | [] => []
  | item :: rest => ofJson item :: itemsOfJson rest

def membersOfJson : List (String × Json) → List (String × Document)
  | [] => []
  | (name, value) :: rest => (name, ofJson value) :: membersOfJson rest

end

end Document

end WorkSchema
