import WorkSchema.Format.Document
import WorkSchema.Format.Reader

/-!
Categories, which group work item types, and the links that put a type into a
category.
-/

namespace WorkSchema

structure Category where
  id : CategoryId
  name : String
  description? : Option String := none
  deriving DecidableEq

namespace Category

instance : Ranked Category := ⟨fun category => rank category.id⟩

/-- The categories of planning that fresh stores begin with. Their ids never
change, so that every store means the same categories by them. -/
def plannerDefaults : List Category :=
  [ { id := .ofNat 1
      name := "planner.requirements"
      description? := some "Work item types that capture requirements" },
    { id := .ofNat 2
      name := "planner.issues"
      description? := some "Work item types that capture issues" } ]

def toDocument (category : Category) : Document :=
  .mapping (
    ("id", .string category.id.toText) ::
    ("name", .string category.name) ::
    Document.member? "description" (category.description?.map Document.string))

structure Draft where
  id? : Option CategoryId := none
  name? : Option String := none
  description? : Option String := none

def reader : RecordReader Draft where
  name := "Category"
  fields := [⟨"id", false⟩, ⟨"name", false⟩, ⟨"description", true⟩]
  assign draft name source := do
    match name with
    | "id" => return {draft with id? := some (← source.readIdentifier)}
    | "name" => return {draft with name? := some (← source.readString)}
    | _ => return {draft with description? := ← source.readOptional Source.readString}

def read (origin : Origin) (source : Source) : Decoded Category := do
  match ← reader.read origin {} source with
  | {id? := some id, name? := some name, description?} => return {id, name, description?}
  | {id? := none, ..} => throw (.missingField "id")
  | _ => throw (.missingField "name")

end Category

/-- The membership of a type in a category. -/
structure CategoryLink where
  type : TypeId
  category : CategoryId
  deriving DecidableEq

namespace CategoryLink

/-- Links are ordered by type first and by category within a type. -/
instance : Ranked CategoryLink := ⟨fun link => (rank link.type <<< 128) + rank link.category⟩

def toDocument (link : CategoryLink) : Document :=
  .mapping [
    ("work_item_type", .string link.type.toText),
    ("category", .string link.category.toText)]

structure Draft where
  type? : Option TypeId := none
  category? : Option CategoryId := none

def reader : RecordReader Draft where
  name := "CategoryLink"
  fields := [⟨"work_item_type", false⟩, ⟨"category", false⟩]
  assign draft name source := do
    match name with
    | "work_item_type" => return {draft with type? := some (← source.readIdentifier)}
    | _ => return {draft with category? := some (← source.readIdentifier)}

def read (origin : Origin) (source : Source) : Decoded CategoryLink := do
  match ← reader.read origin {} source with
  | {type? := some type, category? := some category} => return {type, category}
  | {type? := none, ..} => throw (.missingField "work_item_type")
  | _ => throw (.missingField "category")

end CategoryLink

end WorkSchema
