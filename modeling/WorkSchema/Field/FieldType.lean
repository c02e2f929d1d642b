import WorkSchema.Field.EnumType

/-!
Field types: a primitive kind, an enum over one, or a list of another type.
-/

namespace WorkSchema

/-- A list keeps the kind it calls itself, `list` unless it is malformed. A
simple type of a composite kind is malformed too. -/
inductive FieldType where
  | simple (kind : Kind)
  | enum (type : EnumType)
  | list (kind : Kind) (component : FieldType)

namespace FieldType

def kind : FieldType → Kind
  | simple kind => kind
  | enum type => type.kind
  | list kind _ => kind

def listOf (component : FieldType) : FieldType := .list .list component

/-- Checks the type itself, a list before its component. -/
def validate : FieldType → Except FieldError Unit
  | simple kind =>
      if kind.isComposite then throw (.invalidType (.compositeSimple kind)) else pure ()
  | enum type => type.validate
  | list kind component =>
      if kind = .list then component.validate else throw (.invalidType (.notAList kind))

/-- The stored form of a value. Elements of a list are converted in order, and
the first that fails decides the error. -/
def convert : FieldType → FieldValue → Except FieldError FieldValue
  | simple kind, value => kind.convert value
  | enum type, value => type.convert value
  | list _ component, value =>
      match value.items? with
      | some items => return .list (← items.mapM component.convert)
      | none => throw (.mismatch .list value)

/-- What stands in for a field that is left out: the default of an enum, the
empty list, and nothing for simple types. -/
def default? : FieldType → Option FieldValue
  | simple _ => none
  | enum type => type.effectiveDefault?
  | list .. => some (.list [])

/-- Structural equality. Types of different form are never equal. -/
def equal : FieldType → FieldType → Bool
  | simple a, simple b => a == b
  | enum a, enum b => a.equal b
  | list a componentA, list b componentB => a == b && componentA.equal componentB
  | _, _ => false

/-- Whether values valid under the second type stay valid under the first. -/
def encloses : FieldType → FieldType → Bool
  | simple a, simple b => a == b
  | enum a, enum b => a.encloses b
  | list a componentA, list b componentB => a == b && componentA.encloses componentB
  | _, _ => false

/-- Equality of the representation of stored values. It follows the rules of
`equal` at every level. -/
def equalValue : FieldType → FieldType → Bool
  | simple a, simple b => a == b
  | enum a, enum b => a.equal b
  | list a componentA, list b componentB => a == b && componentA.equalValue componentB
  | _, _ => false

/-- Equality of every part as it is written. -/
def identical : FieldType → FieldType → Bool
  | simple a, simple b => a == b
  | enum a, enum b => a.identical b
  | list a componentA, list b componentB => a == b && componentA.identical componentB
  | _, _ => false

end FieldType

end WorkSchema
