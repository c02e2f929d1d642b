import WorkSchema.Format.Reader
import WorkSchema.Json.Printer

/-!
Reading kinds and field values from a source, and field values as JSON.
-/

namespace WorkSchema

namespace Kind

def ofNameOrFail (name : String) : Decoded Kind :=
  match ofName? name with
  | some kind => return kind
  | none => throw (.unknownKind name)

/-- What may stand beside the name of a kind: nothing, or null. -/
def readNothing (source : Source) : Decoded Unit :=
  match source with
  | .null => return ()
  | .scalar value =>
      if value.isPlain && (value.text.isEmpty || Yaml.isNullText value.text) then return ()
      else throw (source.mismatch .unit)
  | _ => throw (source.mismatch .unit)

/-- A kind is its name. JSON also takes a mapping of the name to null, and YAML
an empty scalar under the name as a tag. -/
def read (origin : Origin) (source : Source) : Decoded Kind :=
  match source with
  | .string name => ofNameOrFail name
  | .scalar value =>
      match value.tag? with
      | some tag =>
          if tag.startsWith "!" then do
            let kind ← ofNameOrFail (String.ofList (tag.toList.drop 1))
            readNothing (.scalar value)
            return kind
          else ofNameOrFail value.text
      | none => ofNameOrFail value.text
  | .mapping members stop? =>
      match origin, members with
      | .yaml, _ => throw (source.mismatch .stringOrMapping)
      | .jsonText, (key, value) :: rest => do
          let kind ← ofNameOrFail (← key.readString)
          readNothing value
          Source.close (if rest.isEmpty then stop? else some .malformed)
          return kind
      | .jsonText, [] => throw (.fault (stop?.getD .malformed))
      | .jsonValue, [(key, value)] => do
          let kind ← ofNameOrFail (← key.readString)
          readNothing value
          return kind
      | .jsonValue, _ => throw (.invalidValue .mapping .singleMember)
  | .broken fault => throw (.fault fault)
  | _ =>
      match origin with
      | .jsonText => throw (.fault .malformed)
      | _ => throw (source.mismatch .stringOrMapping)

end Kind

namespace FieldValue

def boolean? : Source → Option Bool
  | .bool value => some value
  | .scalar value =>
      match value.meaning? with
      | some (.bool value) => some value
      | _ => none
  | _ => none

/-- A whole number that fits a signed 64-bit integer. -/
def int64? (n : Int) : Option Int64 :=
  if Int64.minValue.toInt ≤ n ∧ n ≤ Int64.maxValue.toInt then some (Int64.ofInt n) else none

def integer? : Source → Option Int64
  | .number (.integer value _ _) => int64? value
  | .scalar value =>
      match value.meaning? with
      | some (.integer value) => int64? value
      | _ => none
  | _ => none

/-- A number of any form as a float. -/
def float? : Source → Option Binary64
  | .number (.integer value _ _) => some (.ofInt value)
  | .number (.float value _) => some value
  | .scalar value =>
      match value.meaning? with
      | some (.integer value) => some (.ofInt value)
      | some (.float value) => some value
      | _ => none
  | _ => none

def string? : Source → Option String
  | .string value => some value
  | .scalar value =>
      match value.meaning? with
      | some (.string value) => some value
      | _ => none
  | _ => none

mutual

/-- The first representation that fits, from the narrowest on: a whole number
is an integer if it can be one and a float otherwise. -/
def ofSource? (source : Source) : Option FieldValue :=
  ((boolean? source).map boolean).or
    (((integer? source).map integer).or
      (((float? source).map float).or
        (((string? source).map string).or
          (match source with
            | .sequence items _ => (itemsOfSource? items).map list
            | _ => none))))

def itemsOfSource? : List Source → Option (List FieldValue)
  | [] => some []
  | item :: rest => do
      let first ← ofSource? item
      let tail ← itemsOfSource? rest
      return first :: tail

end

/-- A value is read as a whole before it is told what it is, so a fault of the
text inside it comes first. -/
def read (source : Source) : Decoded FieldValue :=
  match source.fault? with
  | some fault => throw (.fault fault)
  | none =>
      match ofSource? source with
      | some value => return value
      | none => throw .noValue

mutual

def toDocument : FieldValue → Document
  | boolean value => .bool value
  | integer value => .integer value.toInt
  | float value => .float value
  | string value => .string value
  | list items => .sequence (itemsToDocument items)

def itemsToDocument : List FieldValue → List Document
  | [] => []
  | item :: rest => toDocument item :: itemsToDocument rest

end

def toJson (value : FieldValue) : Json := value.toDocument.toJson

mutual

/-- The value that a JSON value stands for, other than a null at the top.
Objects, and nulls inside arrays, stand for none. -/
def ofJsonInner : Json → Except FieldError FieldValue
  | .bool value => return boolean value
  | .number (.integer value _ _) =>
      match int64? value with
      | some value => return integer value
      | none => return float (.ofInt value)
  | .number (.float value _) => return float value
  | .string value => return string value
  | .array items => return list (← itemsOfJson items)
  | .null => throw (.unsupportedValue "null")
  | .object members =>
      throw (.unsupportedValue (JsonText.compact (.ofJson (.object members))))

def itemsOfJson : List Json → Except FieldError (List FieldValue)
  | [] => return []
  | item :: rest => do
      let first ← ofJsonInner item
      let tail ← itemsOfJson rest
      return first :: tail

end

/-- The value that a JSON value stands for. Null stands for absence. -/
def ofJson : Json → Except FieldError (Option FieldValue)
  | .null => return none
  | value => return some (← ofJsonInner value)

end FieldValue

end WorkSchema
