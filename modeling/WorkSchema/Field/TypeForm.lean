import WorkSchema.Field.FieldType
import WorkSchema.Field.Reading

/-!
Field types as they are written down. The written form does not say which of
the three forms a type has; that follows from the attributes that are there, so
every type, malformed or not, reads back as itself.
-/

namespace WorkSchema

/-- The attributes of a written type. -/
structure TypeForm where
  kind : Kind
  base? : Option Kind := none
  values? : Option (List FieldValue) := none
  rewritable? : Option Bool := none
  default? : Option FieldValue := none
  component? : Option TypeForm := none

namespace FieldType

def toForm : FieldType → TypeForm
  | simple kind => {kind}
  | enum type =>
      { kind := type.kind
        base? := some type.base
        values? := some type.values
        rewritable? := some type.rewritable
        default? := type.default? }
  | list kind component => {kind, component? := some component.toForm}

end FieldType

namespace TypeForm

/-- The type that a form describes. A component makes it a list, whatever else
is there; any other attribute makes it an enum, which needs its base. -/
def toType (form : TypeForm) : Except FieldError FieldType :=
  match form with
  | {kind, component? := some component, ..} => return .list kind (← component.toType)
  | {kind, base?, values?, rewritable?, default?, component? := none} =>
      if base?.isSome || values?.isSome || rewritable?.isSome || default?.isSome then
        match base? with
        | some base =>
            return .enum
              { kind, base, default?
                values := values?.getD []
                rewritable := rewritable?.getD false }
        | none => throw (.invalidType .missingBase)
      else return .simple kind

/-- A kind by itself, as the base of an enum is written. -/
def kindDocument (kind : Kind) : Document := .mapping [("kind", .string kind.name)]

def toDocument (form : TypeForm) : Document :=
  match form with
  | {kind, base?, values?, rewritable?, default?, component?} =>
      let component := match component? with
        | some component => [("component_type", component.toDocument)]
        | none => []
      .mapping (
        ("kind", .string kind.name) ::
        Document.member? "base_type" (base?.map kindDocument) ++
        Document.member? "values" (values?.map fun values =>
          .sequence (FieldValue.itemsToDocument values)) ++
        Document.member? "rewritable" (rewritable?.map Document.bool) ++
        Document.member? "default" (default?.map FieldValue.toDocument) ++
        component)

def baseReader (origin : Origin) : RecordReader (Option Kind) where
  name := "SimpleType"
  fields := [⟨"kind", false⟩]
  assign _ _ source := return some (← Kind.read origin source)

def readBase (origin : Origin) (source : Source) : Decoded Kind := do
  match ← (baseReader origin).read origin none source with
  | some kind => return kind
  | none => throw (.missingField "kind")

/-- A form while its attributes are read, each at most once. -/
structure Draft where
  kind? : Option Kind := none
  base? : Option (Option Kind) := none
  values? : Option (Option (List FieldValue)) := none
  rewritable? : Option (Option Bool) := none
  default? : Option (Option FieldValue) := none
  component? : Option (Option TypeForm) := none

namespace Draft

/-- An attribute that has not been read before. -/
def once {α : Type} (name : String) (slot : Option α) : Decoded Unit :=
  if slot.isSome then throw (.duplicateField name) else pure ()

/-- Reads an attribute other than the component. -/
def assign (origin : Origin) (draft : Draft) (name : String) (source : Source) :
    Decoded Draft := do
  match name with
  | "kind" =>
      once name draft.kind?
      return {draft with kind? := some (← Kind.read origin source)}
  | "base_type" =>
      once name draft.base?
      return {draft with base? := some (← source.readOptional (readBase origin))}
  | "values" =>
      once name draft.values?
      return {draft with
        values? := some (← source.readOptional (Source.readList FieldValue.read))}
  | "rewritable" =>
      once name draft.rewritable?
      return {draft with rewritable? := some (← source.readOptional Source.readBool)}
  | "default" =>
      once name draft.default?
      return {draft with default? := some (← source.readOptional FieldValue.read)}
  | _ =>
      source.skip
      return draft

def finish (draft : Draft) : Decoded TypeForm :=
  match draft.kind? with
  | some kind =>
      return {
        kind
        base? := draft.base?.join
        values? := draft.values?.join
        rewritable? := draft.rewritable?.join
        default? := draft.default?.join
        component? := draft.component?.join }
  | none => throw (.missingField "kind")

end Draft

def recordName : String := "FieldTypeRepr"

def fieldNames : List String :=
  ["kind", "base_type", "values", "rewritable", "default", "component_type"]

mutual

/-- Reads a written type from a mapping, or from a sequence of its attributes. -/
def read (origin : Origin) (source : Source) : Decoded TypeForm :=
  match source with
  | .mapping members stop? => do
      let draft ← readMembers origin {} members
      Source.close stop?
      draft.finish
  | .sequence items stop? => do
      let draft ← readItems origin items.length stop? {} fieldNames items
      draft.finish
  | .tagged _ inner => read origin inner
  | .scalar value =>
      if value.isAbsent then throw (.missingField "kind")
      else throw (source.mismatch (.record recordName))
  | _ => throw (source.mismatch (.record recordName))

def readMembers (origin : Origin) (draft : Draft) :
    List (Source × Source) → Decoded Draft
  | [] => return draft
  | (key, value) :: rest => do
      let name ← key.readString
      if name = "component_type" then
        Draft.once name draft.component?
        let component? ← readComponent origin value
        readMembers origin {draft with component? := some component?} rest
      else
        let draft ← draft.assign origin name value
        readMembers origin draft rest

def readComponent (origin : Origin) (source : Source) : Decoded (Option TypeForm) :=
  if source.isAbsent then return none
  else if source.misnamesNull then throw (source.mismatch .unit)
  else return some (← read origin source)

def readItems (origin : Origin) (total : Nat) (stop? : Option Fault) (draft : Draft) :
    List String → List Source → Decoded Draft
  | _, [] => do
      Source.close stop?
      if draft.kind?.isSome then return draft
      else throw (.invalidLength 0 (.recordOf recordName fieldNames.length))
  | [], _ :: _ =>
      match origin with
      | .jsonText => throw (.fault .malformed)
      | _ => throw (.invalidLength total .fewerItems)
  | name :: names, item :: items => do
      if name = "component_type" then
        let component? ← readComponent origin item
        readItems origin total stop? {draft with component? := some component?} names items
      else
        let draft ← draft.assign origin name item
        readItems origin total stop? draft names items

end

end TypeForm

namespace FieldType

def toDocument (type : FieldType) : Document := type.toForm.toDocument

def read (origin : Origin) (source : Source) : Decoded FieldType := do
  match (← TypeForm.read origin source).toType with
  | .ok type => return type
  | .error error => throw (.field error)

end FieldType

end WorkSchema
