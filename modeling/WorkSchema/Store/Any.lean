import WorkSchema.Store.Directory
import WorkSchema.Store.Memory

/-!
A store whose kind is chosen when it is opened.
-/

namespace WorkSchema

inductive AnyStore where
  | memory (store : MemoryStore)
  | directory (store : DirectoryStore)

namespace AnyStore

/-- The action of whichever store there is. -/
def act {α : Type} (memory : StoreM MemoryStore α) (directory : StoreM DirectoryStore α) :
    StoreM AnyStore α := fun store =>
  match store with
  | .memory inner =>
      match memory inner with
      | .ok value inner => .ok value (.memory inner)
      | .error error inner => .error error (.memory inner)
  | .directory inner =>
      match directory inner with
      | .ok value inner => .ok value (.directory inner)
      | .error error inner => .error error (.directory inner)

instance : TypeStore AnyStore where
  catalog
    | .memory store => TypeStore.catalog store
    | .directory store => TypeStore.catalog store
  save type := act (TypeStore.save type) (TypeStore.save type)
  saveCategory category := act (TypeStore.saveCategory category) (TypeStore.saveCategory category)
  link id categories := act (TypeStore.link id categories) (TypeStore.link id categories)
  skipped
    | .memory store => TypeStore.skipped store
    | .directory store => TypeStore.skipped store

/-- The disk that the store writes to, if it writes to one. -/
def disk? : AnyStore → Option Disk
  | .memory _ => none
  | .directory store => some store.disk

/-- The store over another state of the disk. -/
def onDisk (disk : Disk) : AnyStore → AnyStore
  | .memory store => .memory store
  | .directory store => .directory {store with disk}

end AnyStore

end WorkSchema
