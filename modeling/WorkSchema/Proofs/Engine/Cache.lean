import WorkSchema.Engine.Cache
import WorkSchema.Proofs.Store.Chain
import WorkSchema.Proofs.WorkItem.Flattening

/-!
When a cache of resolved schemas agrees with a catalog: each of its entries is
what resolving the type afresh gives. Saving a type keeps this for the entries
whose lineage the type is not in, and those are the ones that an invalidation
keeps.
-/

namespace WorkSchema

namespace Catalog

variable {catalog : Catalog} {max : Nat} {id : TypeId} {chain : List WorkItemType}

/-- The resolved schema of a type as the catalog alone has it. -/
def flatten (catalog : Catalog) (max : Nat) (id : TypeId) : Except SchemaError Schema := do
  return Schema.ofChain (← catalog.chain max id)

theorem flatten_eq_ok {schema : Schema} :
    catalog.flatten max id = .ok schema ↔
      ∃ chain, catalog.chain max id = .ok chain ∧ Schema.ofChain chain = schema := by
  simp only [flatten, Outcome.bind_eq_ok, pure, Except.pure, Except.ok.injEq]

/-- Saving a type that a chain does not go through leaves the chain as it is. -/
theorem chain_save_of_not_mem {type : WorkItemType} (hchain : catalog.chain max id = .ok chain)
    (hnot : type.id ∉ chain.map (·.id)) : (catalog.save type).chain max id = .ok chain := by
  apply chain_mono hchain
  intro other hmem hfound
  have hne : other.id ≠ type.id := by
    intro hsame
    exact hnot (hsame ▸ List.mem_map_of_mem hmem)
  rw [type?_save, if_neg hne]
  exact hfound

end Catalog

/-- Whether an entry is what resolving the type gives: its lineage names the
chain, and its schema is that of the chain. -/
def CacheEntry.IsFor (entry : CacheEntry) (catalog : Catalog) (max : Nat) (id : TypeId) : Prop :=
  ∃ chain, catalog.chain max id = .ok chain ∧ entry.lineage = chain.map (·.id) ∧
    entry.schema = Schema.ofChain chain

namespace SchemaCache

variable {cache : SchemaCache} {catalog : Catalog} {max : Nat} {id : TypeId}

def Agrees (cache : SchemaCache) (catalog : Catalog) (max : Nat) : Prop :=
  ∀ id entry, (id, entry) ∈ cache.entries → entry.IsFor catalog max id

theorem agrees_of_entries_eq_nil (hempty : cache.entries = []) : cache.Agrees catalog max := by
  intro id entry hmem
  rw [hempty] at hmem
  cases hmem

theorem mem_put {entry kept : CacheEntry} {other : TypeId}
    {entries : List (TypeId × CacheEntry)} (hmem : (other, kept) ∈ put id entry entries) :
    (other, kept) = (id, entry) ∨ (other, kept) ∈ entries := by
  induction entries with
  | nil => exact Or.inl (List.mem_singleton.mp hmem)
  | cons first rest ih =>
      unfold put at hmem
      split at hmem
      · rcases List.mem_cons.mp hmem with hnew | hrest
        · exact Or.inl hnew
        · exact Or.inr (List.mem_cons_of_mem _ hrest)
      · rcases List.mem_cons.mp hmem with hfirst | hrest
        · exact Or.inr (hfirst ▸ List.mem_cons_self)
        · rcases ih hrest with hnew | hold
          · exact Or.inl hnew
          · exact Or.inr (List.mem_cons_of_mem _ hold)

theorem mem_of_get? {schema : Schema} (hfound : cache.get? id = some schema) :
    ∃ entry, (id, entry) ∈ cache.entries ∧ entry.schema = schema := by
  unfold get? at hfound
  obtain ⟨entry, hlookup, hschema⟩ := Option.map_eq_some_iff.mp hfound
  obtain ⟨before, after, hsplit, _⟩ := List.lookup_eq_some_iff.mp hlookup
  exact ⟨entry, by simp [hsplit], hschema⟩

/-- What a cache that agrees has for a type is the schema of that type. -/
theorem flatten_of_get? {schema : Schema} (hagrees : cache.Agrees catalog max)
    (hfound : cache.get? id = some schema) : catalog.flatten max id = .ok schema := by
  obtain ⟨entry, hmem, rfl⟩ := mem_of_get? hfound
  obtain ⟨chain, hchain, _, hschema⟩ := hagrees id entry hmem
  exact Catalog.flatten_eq_ok.mpr ⟨chain, hchain, hschema.symm⟩

theorem agrees_insert {chain : List WorkItemType} (hagrees : cache.Agrees catalog max)
    (hchain : catalog.chain max id = .ok chain) (generation : Nat) :
    (cache.insert generation (chain.map (·.id)) (Schema.ofChain chain)).2.Agrees catalog max := by
  obtain ⟨type, above, rfl, hid⟩ := (Catalog.chain_eq_ok.mp hchain).1.head
  simp only [insert, List.map_cons]
  split
  · intro other entry hmem
    rcases mem_put hmem with hnew | hold
    · cases hnew
      exact ⟨_, hid ▸ hchain, rfl, rfl⟩
    · exact hagrees other entry hold
  · exact hagrees

theorem agrees_clear : cache.clear.Agrees catalog max :=
  agrees_of_entries_eq_nil rfl

theorem mem_invalidate_iff {entry : CacheEntry} {changed : TypeId} :
    (id, entry) ∈ (cache.invalidate changed).2.entries ↔
      (id, entry) ∈ cache.entries ∧ changed ∉ entry.lineage := by
  simp [invalidate, List.mem_filter]

theorem agrees_invalidate (hagrees : cache.Agrees catalog max) (changed : TypeId) :
    (cache.invalidate changed).2.Agrees catalog max :=
  fun id entry hmem => hagrees id entry (mem_invalidate_iff.mp hmem).1

/-- Saving a type that no lineage goes through keeps the agreement. -/
theorem agrees_save {type : WorkItemType} (hagrees : cache.Agrees catalog max)
    (hnot : ∀ id entry, (id, entry) ∈ cache.entries → type.id ∉ entry.lineage) :
    cache.Agrees (catalog.save type) max := by
  intro id entry hmem
  obtain ⟨chain, hchain, hlineage, hschema⟩ := hagrees id entry hmem
  have hnew : type.id ∉ chain.map (·.id) := by
    rw [← hlineage]
    exact hnot id entry hmem
  exact ⟨chain, Catalog.chain_save_of_not_mem hchain hnew, hlineage, hschema⟩

/-- A new type is in no lineage, so nothing has to be dropped for it. -/
theorem agrees_save_of_new {type : WorkItemType} (hagrees : cache.Agrees catalog max)
    (hnew : catalog.type? type.id = none) : cache.Agrees (catalog.save type) max := by
  apply agrees_save hagrees
  intro id entry hmem hin
  obtain ⟨chain, hchain, hlineage, _⟩ := hagrees id entry hmem
  rw [hlineage] at hin
  obtain ⟨other, hother, hid⟩ := List.mem_map.mp hin
  have hfound := (Catalog.chain_eq_ok.mp hchain).1.type?_of_mem hother
  rw [hid, hnew] at hfound
  cases hfound

/-- After a type was saved and then invalidated the cache agrees again. -/
theorem agrees_save_invalidate {type : WorkItemType} (hagrees : cache.Agrees catalog max) :
    (cache.invalidate type.id).2.Agrees (catalog.save type) max := by
  apply agrees_save (agrees_invalidate hagrees type.id)
  exact fun id entry hmem => (mem_invalidate_iff.mp hmem).2

theorem agrees_congr {after : Catalog} (hagrees : cache.Agrees catalog max)
    (htypes : after.types = catalog.types) : cache.Agrees after max := by
  intro id entry hmem
  obtain ⟨chain, hchain, hrest⟩ := hagrees id entry hmem
  refine ⟨chain, Catalog.chain_mono hchain ?_, hrest⟩
  intro type _ hfound
  unfold Catalog.type?
  rw [htypes]
  exact hfound

end SchemaCache

end WorkSchema
