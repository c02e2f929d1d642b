import WorkSchema.Disk.Path

/-!
What can be wrong with the configuration.
-/

namespace WorkSchema

/-- Why a source of settings cannot be used. -/
inductive ConfigFault where
  | unreadable
  | malformed
  | wrongType
  deriving DecidableEq, Repr

def ConfigFault.message : ConfigFault → String
  | unreadable => "the file cannot be read"
  | malformed => "the text is malformed"
  | wrongType => "a setting has the wrong type"

inductive ConfigError where
  | fileNotFound (path : Path)
  | unsupportedFormat (format : String)
  | unparsable (fault : ConfigFault)
  | invalidValue (key message : String)
  deriving DecidableEq, Repr

def ConfigError.message : ConfigError → String
  | fileNotFound path => s!"Configuration file not found: {path.text}"
  | unsupportedFormat format => s!"Unsupported configuration file format: {format}"
  | unparsable fault => s!"Failed to parse configuration: {fault.message}"
  | invalidValue key message => s!"Invalid configuration value for key '{key}': {message}"

/-- The name of an error, which stays the same when its wording changes. -/
def ConfigError.code : ConfigError → String
  | fileNotFound _ => "FileNotFound"
  | unsupportedFormat _ => "UnsupportedFormat"
  | unparsable _ => "ParseError"
  | invalidValue .. => "InvalidValue"

end WorkSchema
