import WorkSchema.Engine.Error

/-!
Errors of commands: what was being done, and why it failed. The full text names
the error and then everything that it was caused by.
-/

namespace WorkSchema

namespace FieldError

/-- The messages of an error and of its causes. -/
def messages : FieldError → List String
  | invalidValue field source => (invalidValue field source).message :: source.messages
  | error => [error.message]

end FieldError

namespace ConfigError

def messages : ConfigError → List String
  | unparsable fault => [(unparsable fault).message, fault.message]
  | error => [error.message]

end ConfigError

namespace SchemaError

def messages (error : SchemaError) : List String :=
  match error with
  | field source => source.messages
  | invalidFieldType _ source => error.message :: source.messages
  | config source => error.message :: source.messages
  | file source => [error.message, source.message]
  | malformedFile source => [error.message, source.message]
  | _ => [error.message]

end SchemaError

inductive CommandError where
  | loadingSettings (cause : ConfigError)
  | openingStore (root : Path) (cause : SchemaError)
  | invalidId (text : String) (cause : IdentifierError)
  | readingFile (path : Path) (cause : FileError)
  | parsingFile (path : Path)
  | notAnObject (path : Path)
  | field (cause : FieldError)
  | schema (cause : SchemaError)

namespace CommandError

/-- What failed, without its cause. -/
def message : CommandError → String
  | loadingSettings _ => "loading configuration"
  | openingStore root _ => s!"opening schema store at {root.text}"
  | invalidId text _ => s!"'{text}' is not a valid work item type id"
  | readingFile path _ => s!"reading {path.text}"
  | parsingFile path => s!"parsing {path.text}"
  | notAnObject path => s!"{path.text} must contain a JSON object"
  | field cause => cause.message
  | schema cause => cause.message

/-- The messages of an error and of its causes. -/
def messages (error : CommandError) : List String :=
  match error with
  | loadingSettings cause => error.message :: cause.messages
  | openingStore _ cause => error.message :: cause.messages
  | invalidId _ cause => [error.message, cause.message]
  | readingFile _ cause => [error.message, cause.message]
  | parsingFile _ => [error.message, "malformed JSON"]
  | notAnObject _ => [error.message]
  | field cause => cause.messages
  | schema cause => cause.messages

def fullText (error : CommandError) : String := ": ".intercalate error.messages

end CommandError

end WorkSchema
