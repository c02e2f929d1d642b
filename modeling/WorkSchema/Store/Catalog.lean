import WorkSchema.Engine.Error
import WorkSchema.WorkItem.Category
import WorkSchema.WorkItem.Type

/-!
What a store holds: types, categories, and the links between them, each in
ascending order of ids. Types hold their own fields only.
-/

namespace WorkSchema

structure Catalog where
  types : RankedList WorkItemType := {}
  categories : RankedList Category := {}
  links : RankedList CategoryLink := {}

namespace Catalog

def type? (catalog : Catalog) (id : TypeId) : Option WorkItemType := catalog.types.find? (rank id)

def category? (catalog : Catalog) (id : CategoryId) : Option Category :=
  catalog.categories.find? (rank id)

def load (catalog : Catalog) (id : TypeId) : Except SchemaError WorkItemType :=
  match catalog.type? id with
  | some type => return type
  | none => throw (.typeNotFound id.toText)

def loadCategory (catalog : Catalog) (id : CategoryId) : Except SchemaError Category :=
  match catalog.category? id with
  | some category => return category
  | none => throw (.categoryNotFound id.toText)

/-- Inserts a type, or replaces the one of the same id. -/
def save (catalog : Catalog) (type : WorkItemType) : Catalog :=
  {catalog with types := catalog.types.insert type}

def saveCategory (catalog : Catalog) (category : Category) : Catalog :=
  {catalog with categories := catalog.categories.insert category}

/-- The catalog with a type put into categories. The type and then each
category must be known; otherwise nothing is linked. -/
def link (catalog : Catalog) (id : TypeId) (categories : List CategoryId) :
    Except SchemaError Catalog := do
  let _ ← catalog.load id
  match categories.find? fun category => (catalog.category? category).isNone with
  | some missing => throw (.categoryNotFound missing.toText)
  | none =>
      let links := categories.map fun category => CategoryLink.mk id category
      return {catalog with links := catalog.links.insertAll links}

/-- Adds a link if both of its ends are known. -/
def addKnownLink (catalog : Catalog) (link : CategoryLink) : Catalog :=
  if (catalog.type? link.type).isSome && (catalog.category? link.category).isSome then
    {catalog with links := catalog.links.insert link}
  else catalog

def categoriesOf (catalog : Catalog) (id : TypeId) : Except SchemaError (List CategoryId) := do
  let _ ← catalog.load id
  return (catalog.links.elements.filter (·.type == id)).map (·.category)

def typesIn (catalog : Catalog) (id : CategoryId) : Except SchemaError (List TypeId) := do
  let _ ← catalog.loadCategory id
  return (catalog.links.elements.filter (·.category == id)).map (·.type)

/-- Whether a type is among those below it, so that its chain has no end. -/
def comesBack (below : List WorkItemType) (current : TypeId) : Bool :=
  below.any (·.id == current)

def cycleError (below : List WorkItemType) (current : TypeId) : SchemaError :=
  .inheritanceCycle (" -> ".intercalate (below.map (·.id.toText) ++ [current.toText]))

/-- The chain of a type up from `current`, after the types in `below`, with at
most `budget` types more. -/
def chainAbove (catalog : Catalog) (max : Nat) (id : TypeId) (below : List WorkItemType)
    (current : TypeId) : Nat → Except SchemaError (List WorkItemType)
  | 0 =>
      if comesBack below current then throw (cycleError below current)
      else throw (.inheritanceTooDeep id.toText max)
  | budget + 1 =>
      if comesBack below current then throw (cycleError below current)
      else do
        let type ← catalog.load current
        match type.base? with
        | none => return below ++ [type]
        | some base => chainAbove catalog max id (below ++ [type]) base budget

/-- The type itself, followed by its ancestors from the nearest on. A chain that
comes back to a type, or that has more than `max` ancestors, is an error. -/
def chain (catalog : Catalog) (max : Nat) (id : TypeId) : Except SchemaError (List WorkItemType) :=
  catalog.chainAbove max id [] id (max + 1)

end Catalog

end WorkSchema
