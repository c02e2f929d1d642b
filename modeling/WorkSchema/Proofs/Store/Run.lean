import WorkSchema.Proofs.Outcome
import WorkSchema.Store.Directory
import WorkSchema.Store.Memory

/-!
Runs of a store: what its callers can do with it, what each operation answers and which
store it leaves behind. Closing a store and opening it again is one of the operations.
-/

namespace WorkSchema

namespace TypeStore

variable {σ α : Type} [TypeStore σ] {question : Catalog → Except SchemaError α} {store after : σ}

/-- An action over the store that answers from its catalog. -/
def consult (question : Catalog → Except SchemaError α) : StoreM σ α := do
  liftResult (question (catalog (← get)))

theorem consult_run (question : Catalog → Except SchemaError α) (store : σ) :
    (consult question).run store = Outcome.inState (question (catalog store)) store := by
  change (liftResult (question (catalog store)) : StoreM σ α).run store = _
  cases question (catalog store) <;> rfl

theorem consult_eq_ok {value : α} :
    (consult question).run store = .ok value after ↔
      question (catalog store) = .ok value ∧ after = store := by
  rw [consult_run]
  cases question (catalog store) <;> simp [Outcome.inState, eq_comm]

theorem consult_eq_error {error : SchemaError} :
    (consult question).run store = .error error after ↔
      question (catalog store) = .error error ∧ after = store := by
  rw [consult_run]
  cases question (catalog store) <;> simp [Outcome.inState, eq_comm]

end TypeStore

/-- What becomes of a store when it is closed and opened again with default categories. -/
class Reopenable (σ : Type) where
  reopen : List Category → StoreM σ Unit

/-- A memory store lasts as long as the program, so it is never closed. -/
instance : Reopenable MemoryStore where
  reopen _ := pure ()

/-- Of a directory store nothing but its folder outlasts the closing. -/
instance : Reopenable DirectoryStore where
  reopen defaults := fun store =>
    match (DirectoryStore.openAt store.format store.root defaults).run store.disk with
    | .ok opened _ => .ok () opened
    | .error error disk => .error error {store with disk}

theorem DirectoryStore.reopen_run (offered : List Category) (store : DirectoryStore) :
    (Reopenable.reopen offered).run store =
      match (openAt store.format store.root offered).run store.disk with
      | .ok opened _ => .ok () opened
      | .error error disk => .error error {store with disk} := rfl

inductive StoreOperation where
  | save (type : WorkItemType)
  | load (id : TypeId)
  | list
  | saveCategory (category : Category)
  | loadCategory (id : CategoryId)
  | listCategories
  | linkCategories (id : TypeId) (categories : List CategoryId)
  | categoriesOf (id : TypeId)
  | typesIn (category : CategoryId)
  | reopen (withDefaults : Bool)

inductive StoreResponse where
  | done
  | type (type : WorkItemType)
  | types (types : List WorkItemType)
  | category (category : Category)
  | categories (categories : List Category)
  | typeIds (ids : List TypeId)
  | categoryIds (ids : List CategoryId)

namespace StoreOperation

variable {σ : Type}

/-- The store after a write is the one that the write leaves. -/
theorem endState_write (action : StoreM σ Unit) (store : σ) :
    Outcome.endState ((do
        action
        return StoreResponse.done : StoreM σ StoreResponse).run store) =
      Outcome.endState (action.run store) :=
  Outcome.endState_map action (fun _ => StoreResponse.done) store

/-- A write that succeeds leaves what it establishes where it succeeds. -/
theorem endState_of_done {action : StoreM σ Unit} {store : σ} {success failure : σ → Prop}
    (hensures : Outcome.Ensures action store (fun _ after => success after) failure)
    (hdone : Outcome.answer ((do
        action
        return StoreResponse.done : StoreM σ StoreResponse).run store) = .ok .done) :
    success (Outcome.endState (action.run store)) := by
  unfold Outcome.Ensures at hensures
  rw [EStateM.run_bind] at hdone
  cases hrun : action.run store with
  | ok _ after =>
      rw [hrun] at hensures
      exact hensures
  | error error after =>
      rw [hrun] at hdone
      cases hdone

/-- A question changes nothing. -/
theorem endState_consult [TypeStore σ] {α : Type} (question : Catalog → Except SchemaError α)
    (respond : α → StoreResponse) (store : σ) :
    Outcome.endState ((do
        return respond (← TypeStore.consult question) : StoreM σ StoreResponse).run store) =
      store := by
  rw [Outcome.endState_map, TypeStore.consult_run, Outcome.endState_inState]

variable [TypeStore σ] [Reopenable σ]

/-- What an operation does. Reopening offers either the given defaults or none. -/
def perform (defaults : List Category) : StoreOperation → StoreM σ StoreResponse
  | save type => do
      TypeStore.save type
      return .done
  | load id => return .type (← TypeStore.consult (·.load id))
  | list => return .types (← TypeStore.consult fun catalog => .ok catalog.types.elements)
  | saveCategory category => do
      TypeStore.saveCategory category
      return .done
  | loadCategory id => return .category (← TypeStore.consult (·.loadCategory id))
  | listCategories =>
      return .categories (← TypeStore.consult fun catalog => .ok catalog.categories.elements)
  | linkCategories id categories => do
      TypeStore.link id categories
      return .done
  | categoriesOf id => return .categoryIds (← TypeStore.consult (·.categoriesOf id))
  | typesIn category => return .typeIds (← TypeStore.consult (·.typesIn category))
  | reopen withDefaults => do
      Reopenable.reopen (if withDefaults then defaults else [])
      return .done

def answer (defaults : List Category) (store : σ) (operation : StoreOperation) :
    Except SchemaError StoreResponse :=
  Outcome.answer ((operation.perform defaults).run store)

def next (defaults : List Category) (store : σ) (operation : StoreOperation) : σ :=
  Outcome.endState ((operation.perform defaults).run store)

/-- The answers to a sequence of operations, in order. -/
def answers (defaults : List Category) :
    σ → List StoreOperation → List (Except SchemaError StoreResponse)
  | _, [] => []
  | store, operation :: rest =>
      answer defaults store operation :: answers defaults (next defaults store operation) rest

def after (defaults : List Category) (store : σ) (operations : List StoreOperation) : σ :=
  operations.foldl (next defaults) store

theorem after_append (defaults : List Category) (store : σ) (first second : List StoreOperation) :
    after defaults store (first ++ second) = after defaults (after defaults store first) second :=
  List.foldl_append

end StoreOperation

end WorkSchema
