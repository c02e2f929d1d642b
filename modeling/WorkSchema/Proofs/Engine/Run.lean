import WorkSchema.Engine.Basic
import WorkSchema.Proofs.Outcome

/-!
Runs of an engine: the operations that a caller has, what each answers and which
engine it leaves behind. Operations that fail are part of a run like any other.
-/

namespace WorkSchema

inductive Operation where
  | create (request : NewType) (id : TypeId)
  | addFields (id : TypeId) (fields : Schema)
  | load (id : TypeId)
  | resolve (id : TypeId)
  | resolveSchema (id : TypeId)
  | validateFields (id : TypeId) (payload : Payload)
  | validateUpdate (id : TypeId) (current : FieldValues) (changes : Payload)
  | list
  | createCategory (category : Category)
  | listCategories
  | linkCategories (id : TypeId) (categories : List CategoryId)
  | categoriesOf (id : TypeId)
  | typesIn (category : CategoryId)
  | clearCache
  | invalidate (id : TypeId)
  | clone

inductive Response where
  | done
  | dropped (count : Nat)
  | resolved (resolved : ResolvedType)
  | schema (schema : Schema)
  | type (type : WorkItemType)
  | types (types : List WorkItemType)
  | category (category : Category)
  | categories (categories : List Category)
  | values (values : FieldValues)

/-- A response without the number of schemas that were dropped from the cache. -/
def Response.withoutCount : Response → Response
  | dropped _ => done
  | response => response

namespace Operation

variable {σ : Type} [TypeStore σ]

/-- What an operation does. A clone shares the store and the cache with its
engine, so whoever goes on with it goes on with the same state. -/
def perform : Operation → EngineM σ Response
  | create request id => return .resolved (← Engine.create request id)
  | addFields id fields => return .resolved (← Engine.addFields id fields)
  | load id => return .type (← Engine.load id)
  | resolve id => return .resolved (← Engine.resolve id)
  | resolveSchema id => return .schema (← Engine.resolveSchema id)
  | validateFields id payload => return .values (← Engine.validateFields id payload)
  | validateUpdate id current changes =>
      return .values (← Engine.validateUpdate id current changes)
  | list => return .types (← Engine.list)
  | createCategory category => return .category (← Engine.createCategory category)
  | listCategories => return .categories (← Engine.listCategories)
  | linkCategories id categories => do
      Engine.linkCategories id categories
      return .done
  | categoriesOf id => return .categories (← Engine.categoriesOf id)
  | typesIn category => return .types (← Engine.typesIn category)
  | clearCache => do
      Engine.clearCache
      return .done
  | invalidate id => return .dropped (← Engine.onCache (·.invalidate id))
  | clone => return .done

end Operation

/-- An id that no stored type has or extends. -/
def Catalog.Unused (catalog : Catalog) (id : TypeId) : Prop :=
  ∀ type ∈ catalog.types.elements, type.id ≠ id ∧ type.base? ≠ some id

instance (catalog : Catalog) (id : TypeId) : Decidable (catalog.Unused id) :=
  inferInstanceAs (Decidable (∀ type ∈ catalog.types.elements, type.id ≠ id ∧ type.base? ≠ some id))

namespace Operation

/-- The id that an operation makes a type under. -/
def created? : Operation → Option TypeId
  | create _ id => some id
  | _ => none

/-- Whether a type made by the operation gets an id that occurs nowhere yet. -/
def Fresh (operation : Operation) (catalog : Catalog) : Prop :=
  ∀ id ∈ operation.created?, catalog.Unused id

instance (operation : Operation) (catalog : Catalog) : Decidable (operation.Fresh catalog) :=
  inferInstanceAs (Decidable (∀ id ∈ operation.created?, catalog.Unused id))

end Operation

namespace Engine

variable {σ : Type} [TypeStore σ]

def answer (engine : Engine σ) (operation : Operation) : Except SchemaError Response :=
  Outcome.answer (operation.perform.run engine)

def next (engine : Engine σ) (operation : Operation) : Engine σ :=
  Outcome.endState (operation.perform.run engine)

/-- The answers to a sequence of operations, in order. -/
def answers : Engine σ → List Operation → List (Except SchemaError Response)
  | _, [] => []
  | engine, operation :: rest => engine.answer operation :: answers (engine.next operation) rest

def after (engine : Engine σ) (operations : List Operation) : Engine σ :=
  operations.foldl next engine

/-- Whether every type that is made in a run gets an id that occurs nowhere when
it is made. -/
def FreshIds : Engine σ → List Operation → Prop
  | _, [] => True
  | engine, operation :: rest =>
      operation.Fresh engine.catalog ∧ FreshIds (engine.next operation) rest

instance decidableFreshIds : (engine : Engine σ) → (operations : List Operation) →
    Decidable (engine.FreshIds operations)
  | _, [] => .isTrue trivial
  | engine, operation :: rest =>
      haveI := decidableFreshIds (engine.next operation) rest
      inferInstanceAs (Decidable
        (operation.Fresh engine.catalog ∧ FreshIds (engine.next operation) rest))

@[simp] theorem after_nil (engine : Engine σ) : engine.after [] = engine := rfl

@[simp] theorem after_cons (engine : Engine σ) (operation : Operation) (rest : List Operation) :
    engine.after (operation :: rest) = (engine.next operation).after rest := rfl

theorem after_append (engine : Engine σ) (first second : List Operation) :
    engine.after (first ++ second) = (engine.after first).after second :=
  List.foldl_append

theorem freshIds_append (engine : Engine σ) (first second : List Operation) :
    engine.FreshIds (first ++ second) ↔
      engine.FreshIds first ∧ (engine.after first).FreshIds second := by
  induction first generalizing engine with
  | nil => simp [FreshIds]
  | cons operation rest ih => simp [FreshIds, ih, and_assoc]

/-- What holds at the start of a run and is kept by every step holds at its end. -/
theorem after_induction {holds : Engine σ → Prop} {engine : Engine σ} (hstart : holds engine)
    (hstep : ∀ (engine : Engine σ) (operation : Operation), holds engine →
      holds (engine.next operation)) (operations : List Operation) :
    holds (engine.after operations) := by
  induction operations generalizing engine with
  | nil => exact hstart
  | cons operation rest ih => exact ih (hstep engine operation hstart)

end Engine

end WorkSchema
