import WorkSchema.Store.Interface

/-!
A store that lasts as long as the program runs. Its writes always succeed.
-/

namespace WorkSchema

structure MemoryStore where
  catalog : Catalog := {}

namespace MemoryStore

/-- A store that begins with the given categories. -/
def withCategories (categories : List Category) : MemoryStore :=
  {catalog := categories.foldl Catalog.saveCategory {}}

def save (type : WorkItemType) : StoreM MemoryStore Unit :=
  modify fun store => {catalog := store.catalog.save type}

def saveCategory (category : Category) : StoreM MemoryStore Unit :=
  modify fun store => {catalog := store.catalog.saveCategory category}

def link (id : TypeId) (categories : List CategoryId) : StoreM MemoryStore Unit := do
  let catalog ← liftResult ((← get).catalog.link id categories)
  set (MemoryStore.mk catalog)

instance : TypeStore MemoryStore where
  catalog := MemoryStore.catalog
  save := save
  saveCategory := saveCategory
  link := link
  skipped _ := []

end MemoryStore

end WorkSchema
