import WorkSchema.Command.Error
import WorkSchema.Engine.Basic
import WorkSchema.Json.Parser
import WorkSchema.Json.Printer
import WorkSchema.Yaml.Writer

/-!
What the commands do with an engine, and the text that each of them writes.
-/

namespace WorkSchema

abbrev CommandM (σ : Type) := EStateM CommandError (Engine σ)

namespace Report

variable {σ : Type} [TypeStore σ]

/-- Runs an operation of the engine. -/
def onEngine {α : Type} (action : EngineM σ α) : CommandM σ α :=
  EStateM.adaptExcept CommandError.schema action

def parseId (text : String) : Except CommandError TypeId :=
  match Identifier.ofText text with
  | .ok id => return id
  | .error error => throw (.invalidId text error)

def listLine (type : WorkItemType) : String :=
  match type.base? with
  | some base => s!"{type.id.toText}  {type.name}  (extends {base.toText})"
  | none => s!"{type.id.toText}  {type.name}"

def unlines (lines : List String) : String := String.join (lines.map (· ++ "\n"))

/-- One line for each type. -/
def listTypes : CommandM σ String := do
  let types ← onEngine Engine.list
  return if types.isEmpty then "No work item types.\n" else unlines (types.map listLine)

/-- A type with its resolved schema as YAML text. -/
def showType (id : String) : CommandM σ String := do
  let id ← liftResult (parseId id)
  let resolved ← onEngine (Engine.resolve id)
  return Yaml.write resolved.toDocument

/-- The payload in a file of JSON text. -/
def readPayload (path : Path) (content : Except FileError String) :
    Except CommandError (List (String × Json)) :=
  match content with
  | .error error => throw (.readingFile path error)
  | .ok text =>
      match JsonText.parseValue text with
      | .ok (.object members) => return members
      | .ok _ => throw (.notAnObject path)
      | .error _ => throw (.parsingFile path)

def indentedText (values : FieldValues) : String :=
  JsonText.indented 0 (.ofJson values.toJson) ++ "\n"

/-- Validates the payload in a file and writes the values to store as JSON. -/
def validatePayload (id : String) (path : Path) (content : Except FileError String) :
    CommandM σ String := do
  let id ← liftResult (parseId id)
  let members ← liftResult (readPayload path content)
  match Payload.ofJson members with
  | .error error => throw (.field error)
  | .ok payload => return indentedText (← onEngine (Engine.validateFields id payload))

/-- What the check finds about a file or a type. -/
inductive Finding where
  | skipped (file : SkippedFile)
  | unresolved (type : WorkItemType) (error : SchemaError)
  | malformed (type : WorkItemType) (defects : List (String × FieldError))
  | sound (type : WorkItemType) (fields : Nat)

namespace Finding

def isSound : Finding → Bool
  | sound .. => true
  | _ => false

def skippedLine (path : Path) (reason : String) : String :=
  s!"error  {path.text}: [{ErrorKind.configuration.name}] {reason}"

def line : Finding → String
  | skipped file => skippedLine file.path file.error.message
  | unresolved type error =>
      s!"error  {type.id.toText}  {type.name}: [{error.kind.name}] {error.message}"
  | malformed type defects =>
      let texts := defects.map fun (name, error) => s!"{name}: {error.message}"
      s!"error  {type.id.toText}  {type.name}: [{ErrorKind.configuration.name}] " ++
        "; ".intercalate texts
  | sound type fields => s!"ok     {type.id.toText}  {type.name} ({fields} fields)"

end Finding

/-- The fields of a schema whose types are malformed. -/
def defects (schema : Schema) : List (String × FieldError) :=
  schema.entries.filterMap fun (name, definition) =>
    match definition.type.validate with
    | .ok () => none
    | .error error => some (name, error)

/-- Resolves a type and checks the types of all its fields. -/
def checkType (type : WorkItemType) : EngineM σ Finding := fun engine =>
  match Engine.resolveSchema type.id engine with
  | .error error engine => .ok (.unresolved type error) engine
  | .ok schema engine =>
      let defects := defects schema
      .ok (if defects.isEmpty then .sound type schema.size else .malformed type defects) engine

def checkTypes : List WorkItemType → EngineM σ (List Finding)
  | [] => return []
  | type :: rest => do
      let finding ← checkType type
      return finding :: (← checkTypes rest)

/-- Checks everything in the store: first the files that were skipped, then all
types in the order of their ids. -/
def check : EngineM σ (List Finding) := do
  let engine ← get
  let findings ← checkTypes engine.catalog.types.elements
  return (TypeStore.skipped engine.store).map .skipped ++ findings

def isHealthy (findings : List Finding) : Bool := findings.all Finding.isSound

def text (findings : List Finding) : String := unlines (findings.map Finding.line)

end Report

end WorkSchema
