import WorkSchema.WorkItem.Category
import WorkSchema.WorkItem.Type
import WorkSchema.Yaml.Parser
import WorkSchema.Yaml.Writer

/-!
The text of definition files.
-/

namespace WorkSchema

/-- How definitions are written to files and read from them. -/
structure DefinitionFormat where
  writeType : WorkItemType → String
  readType : String → Decoded WorkItemType
  writeCategory : Category → String
  readCategory : String → Decoded Category
  writeLinks : List CategoryLink → String
  readLinks : String → Decoded (List CategoryLink)

namespace DefinitionFormat

/-- Reads a YAML text with a reader of sources. -/
def readYaml {α : Type} (read : Source → Decoded α) (text : String) : Decoded α :=
  match Yaml.parse? text with
  | some source => read source
  | none => throw (.fault .malformed)

def yaml : DefinitionFormat where
  writeType type := Yaml.write type.toDocument
  readType := readYaml (WorkItemType.read .yaml)
  writeCategory category := Yaml.write category.toDocument
  readCategory := readYaml (Category.read .yaml)
  writeLinks links := Yaml.write (.sequence (links.map CategoryLink.toDocument))
  readLinks := readYaml (Source.readList (CategoryLink.read .yaml))

end DefinitionFormat

end WorkSchema
