import WorkSchema.Config.Toml
import WorkSchema.Config.Variable
import WorkSchema.Disk.Basic
import WorkSchema.Json.Parser
import WorkSchema.Yaml.Parser

/-!
Loading settings: defaults first, then a file if one is given, and the
environment last.
-/

namespace WorkSchema

inductive ConfigFormat where
  | toml
  | yaml
  | json
  deriving DecidableEq, Repr

namespace ConfigFormat

/-- The format of a file by its extension, in any letter case. -/
def ofExtension? : String → Option ConfigFormat
  | "toml" => some .toml
  | "yaml" | "yml" => some .yaml
  | "json" => some .json
  | _ => none

/-- The values that a text gives; `none` if it is malformed. -/
def parse? (format : ConfigFormat) (text : String) : Option ConfigLayer :=
  match format with
  | .toml => Toml.parse? text
  | .yaml =>
      match Yaml.parse? text with
      | some (.mapping members none) | some (.tagged _ (.mapping members none)) =>
          ConfigValue.layerOfMembers? members
      | some (.scalar scalar) => if scalar.isAbsent then some [] else none
      | _ => none
  | .json =>
      match JsonText.parseValue text with
      | .ok (.object members) => some (members.map fun (name, value) => (name, .ofJson value))
      | _ => none

end ConfigFormat

namespace Settings

/-- The layer of a file. It must be there before its format is looked at; a
folder in its place gives no values. -/
def fileLayer (disk : Disk) (path : Path) : Except ConfigError ConfigLayer := do
  unless disk.contains path.names do throw (.fileNotFound path)
  let extension := (path.extension?.getD "").toLower
  match ConfigFormat.ofExtension? extension with
  | none => throw (.unsupportedFormat extension)
  | some format =>
      if disk.isFolder path.names then return []
      match disk.readText path.names with
      | .error _ => throw (.unparsable .unreadable)
      | .ok text =>
          match format.parse? text with
          | some layer => return layer
          | none => throw (.unparsable .malformed)

def load (disk : Disk) (environment : List (String × String)) (file? : Option Path) :
    Except ConfigError Settings := do
  let file ← match file? with
    | some path => fileLayer disk path
    | none => pure []
  let settings ← ConfigLayer.toSettings [file, Variable.layer environment]
  settings.validate
  return settings

end Settings

end WorkSchema
