import WorkSchema.Field.Conversion

/-!
Enums: values of a primitive kind, restricted to a given set. A malformed enum
can be written down and read, so every operation is defined on it; `validate`
is what rejects it.
-/

namespace WorkSchema

structure EnumType where
  /-- The kind the type calls itself, `enum` unless it is malformed. -/
  kind : Kind := .enum
  /-- The kind of the values. -/
  base : Kind
  values : List FieldValue
  /-- Whether the values may be redefined later. -/
  rewritable : Bool := false
  default? : Option FieldValue := none

namespace EnumType

/-- Whether a value is one of the allowed ones, compared in stored form. -/
def contains (type : EnumType) (value : FieldValue) : Bool :=
  type.values.any fun allowed => type.base.sameValue allowed value

/-- Checks the type itself. The first defect found is the one reported. -/
def validate (type : EnumType) : Except FieldError Unit := do
  if type.values.isEmpty then throw (.invalidType .emptyEnum)
  if type.kind ≠ .enum then throw (.invalidType (.notAnEnum type.kind))
  if type.base.isComposite then throw (.invalidType (.compositeBase type.base))
  if let some bad := type.values.find? (!type.base.conforms ·) then
    throw (.invalidType (.nonconforming bad type.base))
  if let some value := type.default? then
    unless type.contains value do throw (.invalidType (.defaultNotAllowed value))

/-- The explicit default, or else the first value. -/
def effectiveDefault? (type : EnumType) : Option FieldValue :=
  type.default?.or type.values.head?

/-- The stored form of a value, which must be one of the allowed ones. -/
def convert (type : EnumType) (value : FieldValue) : Except FieldError FieldValue := do
  let stored ← type.base.convert value
  if type.contains stored then return stored else throw (.disallowed value)

/-- The type with another default, kept in stored form. Clearing the default
always succeeds. -/
def setDefault (type : EnumType) (value? : Option FieldValue) : Except FieldError EnumType :=
  match value? with
  | none => return {type with default? := none}
  | some value => do
      let stored ← type.base.convert value
      if type.contains stored then return {type with default? := some stored}
      else throw (.disallowed value)

def sameDefault (a b : EnumType) : Bool :=
  match a.default?, b.default? with
  | none, none => true
  | some x, some y => a.base.sameValue x y
  | _, _ => false

/-- Whether both hold as many values, and each holds all values of the other. -/
def sameValues (a b : EnumType) : Bool :=
  a.values.length == b.values.length && a.values.all b.contains && b.values.all a.contains

/-- Structural equality. A rewritable enum does not compare its values, so the
relation is not symmetric when only one of the two is rewritable. -/
def equal (a b : EnumType) : Bool :=
  a.kind == b.kind && a.base == b.base && a.sameDefault b &&
    (a.rewritable || (!b.rewritable && a.sameValues b))

/-- Whether `a` allows every value of `b`. An enum without values neither
encloses nor is enclosed. -/
def encloses (a b : EnumType) : Bool :=
  a.kind == b.kind && a.base == b.base && !a.values.isEmpty && !b.values.isEmpty &&
    b.values.all a.contains

/-- Equality of every part as it is written. -/
def identical (a b : EnumType) : Bool :=
  a.kind == b.kind && a.base == b.base && FieldValue.equalItems a.values b.values &&
    a.rewritable == b.rewritable &&
    (match a.default?, b.default? with
      | none, none => true
      | some x, some y => x.equal y
      | _, _ => false)

end EnumType

end WorkSchema
