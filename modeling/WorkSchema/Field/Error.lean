import WorkSchema.Error
import WorkSchema.Field.Kind
import WorkSchema.Field.Value

/-!
What can be wrong with a field type, a value or the name of a field.
-/

namespace WorkSchema

/-- Why a field type is malformed. -/
inductive TypeDefect where
  | compositeSimple (kind : Kind)
  | emptyEnum
  | notAnEnum (kind : Kind)
  | compositeBase (kind : Kind)
  | nonconforming (value : FieldValue) (base : Kind)
  | defaultNotAllowed (value : FieldValue)
  | notAList (kind : Kind)
  | missingBase
  | described (text : String)

namespace TypeDefect

def message : TypeDefect → String
  | compositeSimple kind => s!"simple type cannot have composite kind '{kind.name}'"
  | emptyEnum => "enum values must not be empty"
  | notAnEnum kind => s!"enum type must have kind 'enum', not '{kind.name}'"
  | compositeBase kind => s!"enum base type cannot be '{kind.name}'"
  | nonconforming value base => s!"enum value {value.display} is not a valid {base.name}"
  | defaultNotAllowed value =>
      s!"enum default {value.display} is not one of the allowed values"
  | notAList kind => s!"list type must have kind 'list', not '{kind.name}'"
  | missingBase => "enum type requires base_type"
  | described text => text

end TypeDefect

/-- An error about a field. Errors name values by their text, so they outlive
the value they are about. -/
inductive FieldError where
  | unknownKind (name : String)
  | invalidType (defect : TypeDefect)
  | typeMismatch (value : String) (kind : Kind)
  | notAllowed (value : String)
  | unsupportedValue (value : String)
  | missingField (field : String)
  | unknownField (field : String)
  | invalidValue (field : String) (source : FieldError)

namespace FieldError

def message : FieldError → String
  | unknownKind name => s!"unknown field kind: {name}"
  | invalidType defect => s!"invalid field type: {defect.message}"
  | typeMismatch value kind => s!"value {value} is not a valid {kind.name}"
  | notAllowed value => s!"value {value} is not one of the allowed values"
  | unsupportedValue value => s!"unsupported value: {value}"
  | missingField field => s!"missing required field: {field}"
  | unknownField field => s!"unknown field: {field}"
  | invalidValue field source => s!"invalid value for field '{field}': {source.message}"

/-- The name of an error, which stays the same when its wording changes. -/
def code : FieldError → String
  | unknownKind _ => "UnknownKind"
  | invalidType _ => "InvalidType"
  | typeMismatch .. => "TypeMismatch"
  | notAllowed _ => "NotAllowed"
  | unsupportedValue _ => "UnsupportedValue"
  | missingField _ => "MissingField"
  | unknownField _ => "UnknownField"
  | invalidValue .. => "InvalidValue"

/-- A malformed type is a fault of the definitions; everything else is one of
the submitted values. An error inside a field keeps its own kind. -/
def kind : FieldError → ErrorKind
  | unknownKind _ | invalidType _ => .configuration
  | invalidValue _ source => source.kind
  | typeMismatch .. | notAllowed _ | unsupportedValue _ | missingField _ | unknownField _ =>
      .badParameter

def severity (error : FieldError) : ErrorSeverity := error.kind.severity

end FieldError

end WorkSchema
