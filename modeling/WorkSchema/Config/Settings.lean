import WorkSchema.Format.Document
import WorkSchema.Format.Reader

/-!
The settings of an engine and of the store it opens.
-/

namespace WorkSchema

structure Settings where
  /-- The longest chain of base types, the type itself not counted. -/
  maxInheritanceDepth : Nat := 32
  /-- Whether resolved schemas are kept between calls. -/
  cacheResolved : Bool := true
  /-- Whether fields that are left out get the default of their type. -/
  fillDefaults : Bool := true
  /-- The directory of the store, if one is set. -/
  storeRoot? : Option String := none
  deriving DecidableEq, Repr

namespace Settings

/-- The names that settings go by in all sources. -/
def names : List String :=
  ["max_inheritance_depth", "cache_resolved", "fill_defaults", "store_root"]

def toDocument (settings : Settings) : Document :=
  .mapping (
    ("max_inheritance_depth", .integer settings.maxInheritanceDepth) ::
    ("cache_resolved", .bool settings.cacheResolved) ::
    ("fill_defaults", .bool settings.fillDefaults) ::
    Document.member? "store_root" (settings.storeRoot?.map Document.string))

def readPath (source : Source) : Decoded String :=
  match source with
  | .string value => return value
  | .scalar value => return value.text
  | _ => throw (source.mismatch .path)

def reader : RecordReader Settings where
  name := "SchemaConfig"
  fields := [⟨"max_inheritance_depth", true⟩, ⟨"cache_resolved", true⟩,
    ⟨"fill_defaults", true⟩, ⟨"store_root", true⟩]
  assign settings name source := do
    match name with
    | "max_inheritance_depth" =>
        return {settings with maxInheritanceDepth := ← source.readUnsigned}
    | "cache_resolved" => return {settings with cacheResolved := ← source.readBool}
    | "fill_defaults" => return {settings with fillDefaults := ← source.readBool}
    | _ => return {settings with storeRoot? := ← source.readOptional readPath}

/-- Reads settings; what is not there keeps its default. -/
def read (origin : Origin) (source : Source) : Decoded Settings := reader.read origin {} source

end Settings

end WorkSchema
