import WorkSchema.WorkItem.Type

/-!
Resolved schemas that are kept between calls. Each is kept with the chain of
types that it was resolved from, so a change of one type drops the schemas of
everything that inherits from it.
-/

namespace WorkSchema

/-- The lineage is the type itself, followed by its ancestors. -/
structure CacheEntry where
  lineage : List TypeId
  schema : Schema

/-- The generation counts the invalidations. A schema that was resolved in an
earlier one may be out of date and is not kept. -/
structure SchemaCache where
  entries : List (TypeId × CacheEntry) := []
  generation : Nat := 0

namespace SchemaCache

def size (cache : SchemaCache) : Nat := cache.entries.length

def get? (cache : SchemaCache) (id : TypeId) : Option Schema :=
  (cache.entries.lookup id).map (·.schema)

def put (id : TypeId) (entry : CacheEntry) :
    List (TypeId × CacheEntry) → List (TypeId × CacheEntry)
  | [] => [(id, entry)]
  | (other, old) :: rest =>
      if other = id then (id, entry) :: rest else (other, old) :: put id entry rest

/-- Keeps a schema that was resolved in the given generation, under the first
type of its lineage, and tells whether it did. -/
def insert (cache : SchemaCache) (generation : Nat) (lineage : List TypeId) (schema : Schema) :
    Bool × SchemaCache :=
  match lineage with
  | [] => (false, cache)
  | id :: _ =>
      if cache.generation = generation then
        (true, {cache with entries := put id {lineage, schema} cache.entries})
      else (false, cache)

/-- Drops a type and everything that inherits from it, and counts the schemas
dropped. -/
def invalidate (cache : SchemaCache) (id : TypeId) : Nat × SchemaCache :=
  let kept := cache.entries.filter fun (_, entry) => !entry.lineage.contains id
  (cache.size - kept.length, {entries := kept, generation := cache.generation + 1})

def clear (cache : SchemaCache) : SchemaCache := {generation := cache.generation + 1}

end SchemaCache

end WorkSchema
