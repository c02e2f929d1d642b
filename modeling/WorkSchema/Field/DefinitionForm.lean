import WorkSchema.Field.Definition
import WorkSchema.Field.TypeForm

/-!
Field definitions as they are written down.
-/

namespace WorkSchema.FieldDefinition

def toDocument (definition : FieldDefinition) : Document :=
  .mapping (
    ("type", definition.type.toDocument) ::
    ("required", .bool definition.required) ::
    Document.member? "label" (definition.label?.map Document.string) ++
    Document.member? "description" (definition.description?.map Document.string))

structure Draft where
  type? : Option FieldType := none
  required : Bool := false
  label? : Option String := none
  description? : Option String := none

def reader (origin : Origin) : RecordReader Draft where
  name := "FieldDefinition"
  fields := [⟨"type", false⟩, ⟨"required", true⟩, ⟨"label", true⟩, ⟨"description", true⟩]
  assign draft name source := do
    match name with
    | "type" => return {draft with type? := some (← FieldType.read origin source)}
    | "required" => return {draft with required := ← source.readBool}
    | "label" => return {draft with label? := ← source.readOptional Source.readString}
    | _ => return {draft with description? := ← source.readOptional Source.readString}

def read (origin : Origin) (source : Source) : Decoded FieldDefinition := do
  match ← (reader origin).read origin {} source with
  | {type? := some type, required, label?, description?} =>
      return {type, required, label?, description?}
  | _ => throw (.missingField "type")

end WorkSchema.FieldDefinition
