import WorkSchema.Store.Catalog

/-!
What the engine asks of a store: its contents, and writes that may fail. A write
that fails returns its error together with the store as it is then.
-/

namespace WorkSchema

/-- A file of definitions that could not be read and was left out. -/
structure SkippedFile where
  path : Path
  error : DecodeError

abbrev StoreM (σ : Type) := EStateM SchemaError σ

class TypeStore (σ : Type) where
  catalog : σ → Catalog
  /-- Inserts a type or replaces it. -/
  save : WorkItemType → StoreM σ Unit
  saveCategory : Category → StoreM σ Unit
  /-- Puts a type into categories. Linking again changes nothing. -/
  link : TypeId → List CategoryId → StoreM σ Unit
  skipped : σ → List SkippedFile

/-- A result that does not depend on the state. -/
def liftResult {ε σ α : Type} (result : Except ε α) : EStateM ε σ α :=
  match result with
  | .ok value => pure value
  | .error error => throw error

end WorkSchema
