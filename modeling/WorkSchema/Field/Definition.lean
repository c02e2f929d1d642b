import WorkSchema.Field.FieldType

/-!
Field definitions: what a work item type says about one of its fields.
-/

namespace WorkSchema

structure FieldDefinition where
  type : FieldType
  required : Bool := false
  label? : Option String := none
  description? : Option String := none

namespace FieldDefinition

def kind (definition : FieldDefinition) : Kind := definition.type.kind

/-- Checks what is submitted for the field called `name`. An absent value never
reaches the type, so a malformed type matters only to values that are there. -/
def validate (definition : FieldDefinition) (name : String) (value? : Option FieldValue) :
    Except FieldError (Option FieldValue) :=
  match value? with
  | none => if definition.required then throw (.missingField name) else return none
  | some value =>
      match definition.type.convert value with
      | .ok stored => return some stored
      | .error source => throw (.invalidValue name source)

/-- Whether data valid under the old definition stays valid under the new one.
An optional field cannot become required, since stored items may lack it. -/
def encloses (new old : FieldDefinition) : Bool :=
  new.type.encloses old.type && (old.required || !new.required)

def identical (a b : FieldDefinition) : Bool :=
  a.type.identical b.type && a.required == b.required && a.label? == b.label? &&
    a.description? == b.description?

end FieldDefinition

end WorkSchema
