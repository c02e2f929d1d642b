import WorkSchema.Config.Error
import WorkSchema.Config.Settings

/-!
What sources say about settings. A source is a layer of values by name; of two
layers that name a setting the later one decides.
-/

namespace WorkSchema

/-- A value as far as a setting can be made of it. -/
inductive ConfigValue where
  | absent
  | boolean (value : Bool)
  | integer (value : Int)
  | string (value : String)
  /-- A float, a collection, or anything else that no setting takes. -/
  | other
  deriving DecidableEq, Repr

/-- The values of a source by name. Of two values of one name the later one
counts. -/
abbrev ConfigLayer := List (String × ConfigValue)

namespace ConfigValue

mutual

/-- The value of a source of YAML text; `none` if the source cannot be read. -/
def ofSource? : Source → Option ConfigValue
  | .null => some .absent
  | .bool value => some (.boolean value)
  | .number (.integer value _ _) => some (.integer value)
  | .number (.float ..) => some .other
  | .string value => some (.string value)
  | .scalar scalar =>
      match scalar.meaning? with
      | some .null => some .absent
      | some (.bool value) => some (.boolean value)
      | some (.integer value) => some (.integer value)
      | some (.string value) => some (.string value)
      | some (.float _) | some .oversized => some .other
      | none => none
  | .sequence items none => if itemsReadable items then some .other else none
  | .mapping members none => (layerOfMembers? members).map fun _ => .other
  | _ => none

def itemsReadable : List Source → Bool
  | [] => true
  | item :: rest => (ofSource? item).isSome && itemsReadable rest

def layerOfMembers? : List (Source × Source) → Option ConfigLayer
  | [] => some []
  | (name, value) :: rest => do
      let name ← match name with
        | .string name => some name
        | .scalar scalar => some scalar.text
        | _ => none
      let value ← ofSource? value
      let layer ← layerOfMembers? rest
      some ((name, value) :: layer)

end

def ofJson : Json → ConfigValue
  | .null => .absent
  | .bool value => .boolean value
  | .number (.integer value _ _) => .integer value
  | .string value => .string value
  | .number (.float ..) | .array _ | .object _ => .other

/-- A whole number of at most 64 bits that is not negative. -/
def toUnsigned : ConfigValue → Except ConfigError Nat
  | integer value =>
      if 0 ≤ value ∧ value < 0x10000000000000000 then return value.toNat
      else throw (.unparsable .wrongType)
  | _ => throw (.unparsable .wrongType)

def toBool : ConfigValue → Except ConfigError Bool
  | boolean value => return value
  | _ => throw (.unparsable .wrongType)

def toPath? : ConfigValue → Except ConfigError (Option String)
  | absent => return none
  | string value => return some value
  | _ => throw (.unparsable .wrongType)

end ConfigValue

namespace ConfigLayer

/-- The value that the last of the layers with this name gives it. -/
def value? (layers : List ConfigLayer) (name : String) : Option ConfigValue :=
  (layers.map List.reverse).reverse.flatten.lookup name

/-- Settings from layers, the later ones first in rank. What no layer names
keeps its default, and other names mean nothing. -/
def toSettings (layers : List ConfigLayer) : Except ConfigError Settings := do
  let read {α : Type} (name : String) (default : α) (convert : ConfigValue → Except ConfigError α) :
      Except ConfigError α :=
    match value? layers name with
    | some value => convert value
    | none => return default
  let defaults : Settings := {}
  return {
    maxInheritanceDepth :=
      ← read "max_inheritance_depth" defaults.maxInheritanceDepth ConfigValue.toUnsigned
    cacheResolved := ← read "cache_resolved" defaults.cacheResolved ConfigValue.toBool
    fillDefaults := ← read "fill_defaults" defaults.fillDefaults ConfigValue.toBool
    storeRoot? := ← read "store_root" defaults.storeRoot? ConfigValue.toPath? }

end ConfigLayer

namespace Settings

/-- Settings that an engine can work with. -/
def validate (settings : Settings) : Except ConfigError Unit :=
  if settings.maxInheritanceDepth = 0 then
    throw (.invalidValue "max_inheritance_depth" "must be at least 1")
  else return ()

end Settings

end WorkSchema
