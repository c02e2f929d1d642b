import WorkSchema.Collection.OrderedMap
import WorkSchema.Format.DecodeError

/-!
Reading plain values and records from a source. In a source of YAML text a
scalar is read as what is called for at its place; in JSON every part says what
it is.
-/

namespace WorkSchema

abbrev Decoded := Except DecodeError

def Found.ofMeaning : Option Yaml.Meaning → Found
  | some .null => .null
  | some (.bool value) => .bool value
  | some (.integer value) => .integer value
  | some (.float value) => .float value
  | some (.string value) => .string value
  | some .oversized | none => .other

namespace Source

/-- What an error says about this source. -/
def found : Source → Found
  | null => .null
  | bool value => .bool value
  | number (.integer value _ _) => .integer value
  | number (.float value _) => .float value
  | string value => .string value
  | scalar value => .ofMeaning value.meaning?
  | sequence .. => .sequence
  | mapping .. => .mapping
  | tagged _ inner => inner.found
  | unreadable _ | broken _ => .other

/-- The error of a source that is not what was expected. A fault of the text at
this very place comes first. -/
def mismatch (source : Source) (expected : Expected) : DecodeError :=
  match source with
  | broken fault => .fault fault
  | unreadable _ => .fault .malformed
  | _ => .invalidType source.found expected

/-- Passes over a part that is not read. -/
def skip (source : Source) : Decoded Unit :=
  match source.stop? with
  | some fault => throw (.fault fault)
  | none => pure ()

/-- The end of a collection. -/
def close (stop? : Option Fault) : Decoded Unit :=
  match stop? with
  | some fault => throw (.fault fault)
  | none => pure ()

def readString (source : Source) : Decoded String :=
  match source with
  | string value => return value
  | scalar value => return value.text
  | _ => throw (source.mismatch .string)

def readBool (source : Source) : Decoded Bool :=
  match source with
  | bool value => return value
  | scalar value =>
      match (if value.mayBe "bool" then Yaml.bool? value.text else none) with
      | some value => return value
      | none => throw (source.mismatch .boolean)
  | _ => throw (source.mismatch .boolean)

/-- A whole number of at most 64 bits that is not negative. -/
def readUnsigned (source : Source) : Decoded Nat :=
  match source with
  | number (.integer value _ _) =>
      if 0 ≤ value then return value.toNat
      else throw (.invalidValue source.found .unsigned)
  | scalar value =>
      match (if value.mayBe "int" then Yaml.unsigned? value.text else none) with
      | some value => return value
      | none => throw (source.mismatch .unsigned)
  | _ => throw (source.mismatch .unsigned)

/-- Whether the source stands for a part that is not there. -/
def isAbsent : Source → Bool
  | null => true
  | scalar value =>
      value.isPlain && (value.text.isEmpty ||
        match value.tag? with
        | none => Yaml.isNullText value.text
        | some tag => tag == Yaml.Scalar.standardTag "null" && Yaml.isNullText value.text)
  | _ => false

/-- A plain scalar under the tag of null must be one. -/
def misnamesNull : Source → Bool
  | scalar value =>
      value.isPlain && value.tag? == some (Yaml.Scalar.standardTag "null") &&
        !Yaml.isNullText value.text
  | _ => false

def readOptional {α : Type} (read : Source → Decoded α) (source : Source) : Decoded (Option α) :=
  if source.isAbsent then return none
  else if source.misnamesNull then throw (source.mismatch .unit)
  else return some (← read source)

/-- The items of a sequence, read one by one. An empty scalar of YAML text is a
sequence without items. -/
def readList {α : Type} (read : Source → Decoded α) (source : Source) : Decoded (List α) :=
  match source with
  | sequence items stop? => do
      let values ← items.mapM read
      close stop?
      return values
  | tagged _ (sequence items stop?) => do
      let values ← items.mapM read
      close stop?
      return values
  | scalar value => if value.isAbsent then return [] else throw (source.mismatch .sequence)
  | _ => throw (source.mismatch .sequence)

def readMembers {α : Type} (read : Source → Decoded α) :
    List (Source × Source) → OrderedMap α → Decoded (OrderedMap α)
  | [], map => return map
  | (key, value) :: rest, map => do
      let name ← key.readString
      let entry ← read value
      readMembers read rest (map.insert name entry)

/-- The members of a mapping in their order. A name that comes again replaces
its value. -/
def readMap {α : Type} (read : Source → Decoded α) (source : Source) : Decoded (OrderedMap α) :=
  match source with
  | mapping members stop? | tagged _ (mapping members stop?) => do
      let map ← readMembers read members {}
      close stop?
      return map
  | scalar value => if value.isAbsent then return {} else throw (source.mismatch .mapping)
  | _ => throw (source.mismatch .mapping)

def readIdentifier {entity : Entity} (source : Source) : Decoded (Identifier entity) := do
  match Identifier.ofText (← source.readString) with
  | .ok id => return id
  | .error error => throw (.identifier error)

end Source

/-- A field of a record: its name, and whether a record may lack it. -/
structure RecordField where
  name : String
  optional : Bool := true

/-- How a record of a given name is read: which fields it has, and how the
source of a field goes into the part that is read so far. -/
structure RecordReader (σ : Type) where
  name : String
  fields : List RecordField
  assign : σ → String → Source → Decoded σ

namespace RecordReader

variable {σ : Type}

/-- Members in the order of the source. Unknown names are passed over. -/
def readMembers (reader : RecordReader σ) (draft : σ) (seen : List String) :
    List (Source × Source) → Decoded (σ × List String)
  | [] => return (draft, seen)
  | (key, value) :: rest => do
      let name ← key.readString
      if reader.fields.any (·.name == name) then
        if seen.contains name then throw (.duplicateField name)
        let draft ← reader.assign draft name value
        readMembers reader draft (name :: seen) rest
      else
        value.skip
        readMembers reader draft seen rest

/-- The fields that no member named: the first one that a record must have is
an error. -/
def checkMissing (reader : RecordReader σ) (seen : List String) : Decoded Unit :=
  match reader.fields.find? fun field => !field.optional && !seen.contains field.name with
  | some field => throw (.missingField field.name)
  | none => pure ()

/-- Items in the order of the fields. -/
def readItems (reader : RecordReader σ) (origin : Origin) (total : Nat) (stop? : Option Fault)
    (draft : σ) : List RecordField → List Source → Decoded σ
  | [], [] => do
      Source.close stop?
      return draft
  | [], item :: _ =>
      match origin, item with
      | .jsonText, _ => throw (.fault .malformed)
      | _, _ => throw (.invalidLength total .fewerItems)
  | field :: fields, item :: items => do
      let draft ← reader.assign draft field.name item
      readItems reader origin total stop? draft fields items
  | field :: fields, [] => do
      Source.close stop?
      if field.optional then readItems reader origin total stop? draft fields []
      else
        throw (.invalidLength (reader.fields.length - (fields.length + 1))
          (.recordOf reader.name reader.fields.length))

/-- Reads a record from a mapping, or from a sequence in the order of its
fields. An empty scalar of YAML text is a mapping without members. -/
def read (reader : RecordReader σ) (origin : Origin) (draft : σ) (source : Source) : Decoded σ :=
  match source with
  | .mapping members stop? | .tagged _ (.mapping members stop?) => do
      let (draft, seen) ← reader.readMembers draft [] members
      Source.close stop?
      reader.checkMissing seen
      return draft
  | .sequence items stop? | .tagged _ (.sequence items stop?) =>
      reader.readItems origin items.length stop? draft reader.fields items
  | .scalar value =>
      if value.isAbsent then do
        reader.checkMissing []
        return draft
      else throw (source.mismatch (.record reader.name))
  | _ => throw (source.mismatch (.record reader.name))

end RecordReader

end WorkSchema
