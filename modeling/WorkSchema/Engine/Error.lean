import WorkSchema.Config.Error
import WorkSchema.Disk.Basic
import WorkSchema.Format.DecodeError

/-!
What can go wrong while types are created, resolved or extended, and while
values are validated.
-/

namespace WorkSchema

/-- Errors name types and fields by their text. -/
inductive SchemaError where
  | field (error : FieldError)
  | invalidFieldType (field : String) (source : FieldError)
  | typeNotFound (id : String)
  | categoryNotFound (id : String)
  | badParameter (parameter message : String)
  | inheritanceCycle (path : String)
  | inheritanceTooDeep (id : String) (max : Nat)
  | conflict (field message : String)
  | config (error : ConfigError)
  | file (error : FileError)
  | malformedFile (error : DecodeError)

namespace SchemaError

def message : SchemaError → String
  | field error => error.message
  | invalidFieldType name source => s!"invalid definition for field '{name}': {source.message}"
  | typeNotFound id => s!"work item type not found: {id}"
  | categoryNotFound id => s!"category not found: {id}"
  | badParameter parameter message => s!"invalid parameter '{parameter}': {message}"
  | inheritanceCycle path => s!"inheritance cycle detected: {path}"
  | inheritanceTooDeep id max => s!"inheritance chain of {id} exceeds maximum depth {max}"
  | conflict name message => s!"field '{name}' conflicts with its current definition: {message}"
  | config error => s!"configuration error: {error.message}"
  | file error => s!"IO error: {error.message}"
  | malformedFile error => s!"YAML error: {error.message}"

/-- The name of an error. One about a value goes by its own name. -/
def code : SchemaError → String
  | field error => error.code
  | invalidFieldType .. => "InvalidFieldType"
  | typeNotFound _ => "WorkItemTypeNotFound"
  | categoryNotFound _ => "CategoryNotFound"
  | badParameter .. => "BadParameter"
  | inheritanceCycle _ => "InheritanceCycle"
  | inheritanceTooDeep .. => "InheritanceTooDeep"
  | conflict .. => "Conflict"
  | config _ => "Config"
  | file _ => "Io"
  | malformedFile _ => "Yaml"

/-- An error about a value keeps its kind; one about a definition is always a
fault of the configuration. -/
def kind : SchemaError → ErrorKind
  | field error => error.kind
  | invalidFieldType .. | inheritanceCycle _ | inheritanceTooDeep .. | config _ => .configuration
  | typeNotFound _ | categoryNotFound _ => .notFound
  | badParameter .. => .badParameter
  | conflict .. => .conflict
  | file _ | malformedFile _ => .internal

def severity (error : SchemaError) : ErrorSeverity := error.kind.severity

def isNotFound (error : SchemaError) : Bool := error.kind == .notFound

end SchemaError

end WorkSchema
