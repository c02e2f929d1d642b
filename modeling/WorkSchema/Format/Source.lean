import WorkSchema.Json.Basic
import WorkSchema.Yaml.Scalar

/-!
Sources: what is read in, as far as it could be read. A text that breaks off is
still a source up to that point, so a reader meets the faults of the text and
the faults of its contents in the order in which they stand.
-/

namespace WorkSchema

/-- Why a text cannot be read on. -/
inductive Fault where
  | ended
  | malformed
  deriving DecidableEq, Repr

/-- The kind of input a source was read from. Texts and values of JSON differ
in how they report a sequence with too many items and a kind that is no text. -/
inductive Origin where
  | jsonText
  | jsonValue
  | yaml
  deriving DecidableEq, Repr

/-- The members of a mapping have sources as names, since YAML allows any. A
collection that its text does not close has the fault that stopped it. -/
inductive Source where
  | null
  | bool (value : Bool)
  | number (value : JsonNumber)
  | string (value : String)
  | scalar (value : Yaml.Scalar)
  | sequence (items : List Source) (stop? : Option Fault)
  | mapping (members : List (Source × Source)) (stop? : Option Fault)
  | tagged (tag : String) (inner : Source)
  /-- A part that may be skipped but not read. -/
  | unreadable (inner : Source)
  /-- The point at which the text cannot be read on. -/
  | broken (fault : Fault)

namespace Source

/-- The fault that stops the text inside this source, if one does. It is the
last thing in the source, so a collection that holds it is not closed. -/
def stop? : Source → Option Fault
  | sequence _ stop? | mapping _ stop? => stop?
  | tagged _ inner | unreadable inner => inner.stop?
  | broken fault => some fault
  | null | bool _ | number _ | string _ | scalar _ => none

mutual

/-- The first fault met when every part is read. -/
def fault? : Source → Option Fault
  | sequence items stop? => (itemsFault? items).or stop?
  | mapping members stop? => (membersFault? members).or stop?
  | tagged _ inner => inner.fault?
  | unreadable _ => some .malformed
  | broken fault => some fault
  | null | bool _ | number _ | string _ | scalar _ => none

def itemsFault? : List Source → Option Fault
  | [] => none
  | item :: rest => item.fault?.or (itemsFault? rest)

def membersFault? : List (Source × Source) → Option Fault
  | [] => none
  | (name, value) :: rest => (name.fault?.or value.fault?).or (membersFault? rest)

end

mutual

/-- A JSON value as a source. -/
def ofJson : Json → Source
  | .null => null
  | .bool value => bool value
  | .number value => number value
  | .string value => string value
  | .array items => sequence (itemsOfJson items) none
  | .object members => mapping (membersOfJson members) none

def itemsOfJson : List Json → List Source
  | [] => []
  | item :: rest => ofJson item :: itemsOfJson rest

def membersOfJson : List (String × Json) → List (Source × Source)
  | [] => []
  | (name, value) :: rest => (string name, ofJson value) :: membersOfJson rest

end

mutual

/-- The JSON value that a source of JSON text holds. Of two members of one name
the later one counts. -/
def toJson : Source → Except Fault Json
  | null => .ok .null
  | bool value => .ok (.bool value)
  | number value => .ok (.number value)
  | string value => .ok (.string value)
  | scalar value => .ok (.string value.text)
  | sequence items stop? => do
      let items ← itemsToJson items
      match stop? with
      | some fault => throw fault
      | none => return .array items
  | mapping members stop? => do
      let members ← membersToJson members
      match stop? with
      | some fault => throw fault
      | none => return .objectOf members
  | tagged _ inner => inner.toJson
  | unreadable _ => .error .malformed
  | broken fault => .error fault

def itemsToJson : List Source → Except Fault (List Json)
  | [] => .ok []
  | item :: rest => do
      let first ← item.toJson
      let tail ← itemsToJson rest
      return first :: tail

def membersToJson : List (Source × Source) → Except Fault (List (String × Json))
  | [] => .ok []
  | (name, value) :: rest => do
      let name ← match name with
        | string name => pure name
        | broken fault => throw fault
        | _ => throw .malformed
      let first ← value.toJson
      let tail ← membersToJson rest
      return (name, first) :: tail

end

end Source

end WorkSchema
