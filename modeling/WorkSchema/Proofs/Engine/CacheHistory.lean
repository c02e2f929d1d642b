import Mathlib.Data.List.Induction
import Mathlib.Data.Set.Card
import WorkSchema.Proofs.Collection.OrderedMap
import WorkSchema.Proofs.Engine.Cache

/-!
What a cache holds is decided by the calls it has had. A schema is there as long as the last
insert of its type that was accepted has not been followed by a clearing, or by an
invalidation of a type that stood in the lineage of that insert. Lineages of earlier inserts
of the type do not matter, nor do inserts that were refused.
-/

namespace WorkSchema.SchemaCache

/-- The calls that a cache takes. -/
inductive Call where
  | get (id : TypeId)
  | insert (generation : Nat) (lineage : List TypeId) (schema : Schema)
  | invalidate (id : TypeId)
  | clear

/-- Whether a call ends a generation. -/
def Call.invalidates : Call → Bool
  | invalidate _ | clear => true
  | get _ | insert .. => false

/-- How often a history has invalidated what was kept until then. -/
def invalidations (history : List Call) : Nat := history.countP Call.invalidates

namespace Call

/-- The cache that a call leaves behind. -/
def next (cache : SchemaCache) : Call → SchemaCache
  | get _ => cache
  | insert generation lineage schema => (cache.insert generation lineage schema).2
  | invalidate id => (cache.invalidate id).2
  | clear => cache.clear

/-- Whether a call that follows a history inserts an entry for a type and is accepted, which
takes the current generation and a lineage that begins with the type. -/
def Inserts (history : List Call) (id : TypeId) (entry : CacheEntry) : Call → Prop
  | insert generation lineage schema =>
      generation = invalidations history ∧ lineage.head? = some id ∧ entry = {lineage, schema}
  | get _ | invalidate _ | clear => False

/-- Whether a call drops an entry of the given lineage. -/
def Drops (lineage : List TypeId) : Call → Prop
  | invalidate id => id ∈ lineage
  | clear => True
  | get _ | insert .. => False

end Call

/-- A cache after a history of calls that began when it was empty. -/
def after (history : List Call) : SchemaCache := history.foldl Call.next {}

/-- Whether an entry was inserted for a type by the call at some position of a history. -/
def InsertsAt (history : List Call) (position : Nat) (id : TypeId) (entry : CacheEntry) : Prop :=
  ∃ call, history[position]? = some call ∧ call.Inserts (history.take position) id entry

/-- Whether a history retains an entry for a type: the entry comes from the last insert for
the type that was accepted, and no call since has dropped it. -/
def Retains (history : List Call) (id : TypeId) (entry : CacheEntry) : Prop :=
  ∃ position, InsertsAt history position id entry ∧
    (∀ later other, position < later → ¬InsertsAt history later id other) ∧
    ∀ later call, position < later → history[later]? = some call → ¬call.Drops entry.lineage

section Histories

variable {history : List Call} {call : Call} {position : Nat} {id : TypeId} {entry : CacheEntry}

private theorem getElem?_concat_eq_some {calls : List Call} {later : Call} :
    (calls ++ [call])[position]? = some later ↔
      calls[position]? = some later ∨ position = calls.length ∧ call = later := by
  rcases lt_trichotomy position calls.length with hlt | rfl | hgt
  · simp [List.getElem?_append_left hlt, hlt.ne]
  · simp
  · have hnone : calls[position]? = none := List.getElem?_eq_none hgt.le
    have hend : (calls ++ [call])[position]? = none := by
      apply List.getElem?_eq_none
      simpa using hgt
    simp [hnone, hend, hgt.ne']

theorem InsertsAt.lt_length (hat : InsertsAt history position id entry) :
    position < history.length := by
  obtain ⟨_, hcall, _⟩ := hat
  exact (List.getElem?_eq_some_iff.mp hcall).1

/-- The call that comes last inserts at the end, and nothing else changes. -/
theorem insertsAt_concat :
    InsertsAt (history ++ [call]) position id entry ↔
      InsertsAt history position id entry ∨
        position = history.length ∧ call.Inserts history id entry := by
  constructor
  · rintro ⟨_, hcall, hinserts⟩
    rcases getElem?_concat_eq_some.mp hcall with hold | ⟨rfl, rfl⟩
    · rw [List.take_append_of_le_length (List.getElem?_eq_some_iff.mp hold).1.le] at hinserts
      exact .inl ⟨_, hold, hinserts⟩
    · rw [List.take_left] at hinserts
      exact .inr ⟨rfl, hinserts⟩
  · rintro (⟨later, hold, hinserts⟩ | ⟨rfl, hinserts⟩)
    · refine ⟨later, getElem?_concat_eq_some.mpr (.inl hold), ?_⟩
      rwa [List.take_append_of_le_length (List.getElem?_eq_some_iff.mp hold).1.le]
    · refine ⟨call, getElem?_concat_eq_some.mpr (.inr ⟨rfl, rfl⟩), ?_⟩
      rwa [List.take_left]

/-- What is retained after one more call: what the call inserts, or what was retained before
if the call neither replaces nor drops it. -/
theorem retains_concat :
    Retains (history ++ [call]) id entry ↔
      call.Inserts history id entry ∨
        Retains history id entry ∧ (∀ other, ¬call.Inserts history id other) ∧
          ¬call.Drops entry.lineage := by
  constructor
  · rintro ⟨position, hat, hlast, hkept⟩
    rcases insertsAt_concat.mp hat with hold | ⟨rfl, hnew⟩
    · refine .inr ⟨⟨position, hold, ?_, ?_⟩, ?_, ?_⟩
      · exact fun later other hlt hat => hlast later other hlt (insertsAt_concat.mpr (.inl hat))
      · exact fun later call hlt hcall =>
          hkept later call hlt (getElem?_concat_eq_some.mpr (.inl hcall))
      · exact fun other hnew =>
          hlast _ other hold.lt_length (insertsAt_concat.mpr (.inr ⟨rfl, hnew⟩))
      · exact hkept _ call hold.lt_length (getElem?_concat_eq_some.mpr (.inr ⟨rfl, rfl⟩))
    · exact .inl hnew
  · rintro (hnew | ⟨⟨position, hat, hlast, hkept⟩, hnot, hspared⟩)
    -- Nothing comes after the call, so nothing can replace or drop what it inserts.
    · have hend : ∀ later, history.length < later → ¬later < (history ++ [call]).length := by
        intro later hlt
        simpa using hlt
      refine ⟨history.length, insertsAt_concat.mpr (.inr ⟨rfl, hnew⟩), ?_, ?_⟩
      · exact fun later _ hlt hat => hend later hlt hat.lt_length
      · exact fun later _ hlt hcall => (hend later hlt (List.getElem?_eq_some_iff.mp hcall).1).elim
    · refine ⟨position, insertsAt_concat.mpr (.inl hat), ?_, ?_⟩
      · intro later other hlt hat
        rcases insertsAt_concat.mp hat with hold | ⟨_, hnew⟩
        · exact hlast later other hlt hold
        · exact hnot other hnew
      · intro later other hlt hcall
        rcases getElem?_concat_eq_some.mp hcall with hold | ⟨_, rfl⟩
        · exact hkept later other hlt hold
        · exact hspared

end Histories

section Entries

variable {cache : SchemaCache} {id other : TypeId} {entry kept : CacheEntry}
  {entries : List (TypeId × CacheEntry)}

theorem mem_put_iff (hnodup : (entries.map Prod.fst).Nodup) :
    (other, kept) ∈ put id entry entries ↔
      other = id ∧ kept = entry ∨ (other, kept) ∈ entries ∧ other ≠ id := by
  induction entries with
  | nil => simp [put]
  | cons first rest ih =>
      obtain ⟨key, old⟩ := first
      simp only [List.map_cons, List.nodup_cons] at hnodup
      have hrest := ih hnodup.2
      unfold put
      split
      · rename_i hkey
        subst hkey
        have hgone : (other, kept) ∈ rest → other ≠ key := by
          rintro hmem rfl
          exact hnodup.1 (List.mem_map_of_mem hmem)
        grind
      · grind

theorem nodup_put (hnodup : (entries.map Prod.fst).Nodup) :
    ((put id entry entries).map Prod.fst).Nodup := by
  induction entries with
  | nil => simp [put]
  | cons first rest ih =>
      obtain ⟨key, old⟩ := first
      simp only [List.map_cons, List.nodup_cons] at hnodup
      unfold put
      split
      · rename_i hkey
        simpa [hkey] using hnodup
      · rename_i hkey
        simp only [List.map_cons, List.nodup_cons]
        refine ⟨?_, ih hnodup.2⟩
        intro hmem
        obtain ⟨⟨_, kept⟩, hkept, rfl⟩ := List.mem_map.mp hmem
        rcases (mem_put_iff hnodup.2).mp hkept with ⟨hsame, _⟩ | ⟨hold, _⟩
        · exact hkey hsame
        · exact hnodup.1 (List.mem_map_of_mem hold)

/-- An insert that is accepted replaces what there was for the type. -/
theorem mem_insert_iff (hnodup : (cache.entries.map Prod.fst).Nodup) {generation : Nat}
    {lineage : List TypeId} {schema : Schema} :
    (id, entry) ∈ (cache.insert generation lineage schema).2.entries ↔
      (generation = cache.generation ∧ lineage.head? = some id ∧ entry = {lineage, schema}) ∨
        (id, entry) ∈ cache.entries ∧
          ¬(generation = cache.generation ∧ lineage.head? = some id) := by
  unfold insert
  cases lineage with
  | nil => simp
  | cons first above =>
      simp only [List.head?_cons, Option.some.injEq]
      split
      · rename_i hcurrent
        rw [mem_put_iff hnodup]
        grind
      · grind

theorem insert_accepted_iff {generation : Nat} {lineage : List TypeId} {schema : Schema} :
    (cache.insert generation lineage schema).1 = true ↔
      lineage ≠ [] ∧ generation = cache.generation := by
  cases lineage with
  | nil => simp [insert]
  | cons first above =>
      by_cases hcurrent : cache.generation = generation
      · simp [insert, hcurrent]
      · simp [insert, hcurrent, Ne.symm hcurrent]

theorem insert_refused {generation : Nat} {lineage : List TypeId} {schema : Schema}
    (hrefused : (cache.insert generation lineage schema).1 = false) :
    (cache.insert generation lineage schema).2 = cache := by
  cases lineage with
  | nil => rfl
  | cons first above =>
      by_cases hcurrent : cache.generation = generation
      · simp [insert, hcurrent] at hrefused
      · simp [insert, hcurrent]

theorem get?_eq_some_iff (hnodup : (cache.entries.map Prod.fst).Nodup) {schema : Schema} :
    cache.get? id = some schema ↔ ∃ entry, (id, entry) ∈ cache.entries ∧ entry.schema = schema := by
  constructor
  · exact mem_of_get?
  · rintro ⟨entry, hmem, rfl⟩
    rw [get?, OrderedMap.lookup_of_mem hnodup hmem, Option.map_some]

/-- Where no type stands twice, there are as many entries as types that have one. -/
theorem length_eq_encard (hnodup : (entries.map Prod.fst).Nodup) :
    (entries.length : ℕ∞) = {id | ∃ entry, (id, entry) ∈ entries}.encard := by
  have hkeys : {id | ∃ entry, (id, entry) ∈ entries} =
      ((entries.map Prod.fst).toFinset : Set _) := by
    ext id
    simp
  rw [hkeys, Set.encard_coe_eq_coe_finsetCard, List.toFinset_card_of_nodup hnodup, List.length_map]

theorem size_eq_encard (hnodup : (cache.entries.map Prod.fst).Nodup) :
    (cache.size : ℕ∞) = {id | ∃ schema, cache.get? id = some schema}.encard := by
  rw [size, length_eq_encard hnodup]
  congr 1
  ext id
  simp only [Set.mem_ofPred_eq, get?_eq_some_iff hnodup]
  rw [exists_comm]
  simp only [exists_and_left, exists_eq', and_true]

/-- An invalidation counts the types whose entry it drops. -/
theorem invalidate_eq_encard (hnodup : (cache.entries.map Prod.fst).Nodup) (changed : TypeId) :
    ((cache.invalidate changed).1 : ℕ∞) =
      {id | ∃ entry, (id, entry) ∈ cache.entries ∧ changed ∈ entry.lineage}.encard := by
  let dropped := cache.entries.filter fun pair => pair.2.lineage.contains changed
  have hcount : (cache.invalidate changed).1 = dropped.length := by
    have hsplit := cache.entries.length_eq_length_filter_add
      fun pair => pair.2.lineage.contains changed
    simp only [invalidate, size, dropped]
    omega
  have hsublist : (dropped.map Prod.fst).Sublist (cache.entries.map Prod.fst) :=
    List.filter_sublist.map _
  rw [hcount, length_eq_encard (hnodup.sublist hsublist)]
  simp [dropped, List.mem_filter]

end Entries

/-- Whether a cache is the one that a history leads to: it counts the invalidations, and its
entries are those that the history retains, each of them once. -/
structure Follows (cache : SchemaCache) (history : List Call) : Prop where
  generation : cache.generation = invalidations history
  distinct : (cache.entries.map Prod.fst).Nodup
  entries : ∀ id entry, (id, entry) ∈ cache.entries ↔ Retains history id entry

namespace Follows

variable {cache : SchemaCache} {history : List Call}

theorem start : ({} : SchemaCache).Follows [] where
  generation := rfl
  distinct := List.nodup_nil
  entries id entry := by
    refine iff_of_false List.not_mem_nil ?_
    rintro ⟨_, hat, _⟩
    exact absurd hat.lt_length (Nat.not_lt_zero _)

theorem distinct_next (hfollows : cache.Follows history) (call : Call) :
    ((call.next cache).entries.map Prod.fst).Nodup := by
  cases call with
  | get id => exact hfollows.distinct
  | insert generation lineage schema =>
      cases lineage with
      | nil => exact hfollows.distinct
      | cons first above =>
          simp only [Call.next, SchemaCache.insert]
          split
          · exact nodup_put hfollows.distinct
          · exact hfollows.distinct
  | invalidate id => exact hfollows.distinct.sublist (List.filter_sublist.map _)
  | clear => exact List.nodup_nil

theorem generation_next (hfollows : cache.Follows history) (call : Call) :
    (call.next cache).generation = invalidations (history ++ [call]) := by
  rw [invalidations, List.countP_append, List.countP_singleton, ← invalidations,
    ← hfollows.generation]
  cases call with
  | get id => rfl
  | insert generation lineage schema =>
      cases lineage with
      | nil => rfl
      | cons first above =>
          simp only [Call.next, SchemaCache.insert]
          split <;> rfl
  | invalidate id => rfl
  | clear => rfl

/-- What a call leaves in the cache is what the history retains after it. -/
theorem next (hfollows : cache.Follows history) (call : Call) :
    (call.next cache).Follows (history ++ [call]) where
  generation := hfollows.generation_next call
  distinct := hfollows.distinct_next call
  entries id entry := by
    rw [retains_concat, ← hfollows.entries]
    cases call with
    | get other => simp [Call.next, Call.Inserts, Call.Drops]
    | insert generation lineage schema =>
        have hreplaces :
            (∀ other, ¬(Call.insert generation lineage schema).Inserts history id other) ↔
              ¬(generation = invalidations history ∧ lineage.head? = some id) := by
          constructor
          · exact fun hnot haccepted => hnot _ ⟨haccepted.1, haccepted.2, rfl⟩
          · exact fun hnot other hinserts => hnot ⟨hinserts.1, hinserts.2.1⟩
        rw [Call.next, mem_insert_iff hfollows.distinct, hfollows.generation, hreplaces]
        simp only [Call.Inserts, Call.Drops, not_false_eq_true, and_true]
    | invalidate changed => simp [Call.next, mem_invalidate_iff, Call.Inserts, Call.Drops]
    | clear => simp [Call.next, clear, Call.Inserts, Call.Drops]

theorem get?_eq_some_iff (hfollows : cache.Follows history) {id : TypeId} {schema : Schema} :
    cache.get? id = some schema ↔ ∃ lineage, Retains history id {lineage, schema} := by
  simp only [SchemaCache.get?_eq_some_iff hfollows.distinct, hfollows.entries]
  constructor
  · rintro ⟨entry, hretains, rfl⟩
    exact ⟨entry.lineage, hretains⟩
  · rintro ⟨lineage, hretains⟩
    exact ⟨_, hretains, rfl⟩

end Follows

theorem after_concat (history : List Call) (call : Call) :
    after (history ++ [call]) = call.next (after history) := by
  rw [after, List.foldl_append, List.foldl_cons, List.foldl_nil, ← after]

theorem follows_after (history : List Call) : (after history).Follows history := by
  induction history using List.reverseRecOn with
  | nil => exact Follows.start
  | append_singleton history call ih =>
      rw [after_concat]
      exact ih.next call

/-- A cache is what its history makes it. The generation is the number of invalidations and
clearings so far; an insert is accepted exactly if it is made in that generation with a
lineage, and otherwise changes nothing; a type finds the schema that the history retains for
it. An invalidation drops exactly the entries with the type in their lineage, and counts them;
the size is the number of types that find a schema. -/
theorem contents_of_history (history : List Call) :
    let cache := after history
    cache.generation = invalidations history ∧
    (∀ generation lineage schema,
      ((cache.insert generation lineage schema).1 = true ↔
        lineage ≠ [] ∧ generation = invalidations history) ∧
      ((cache.insert generation lineage schema).1 = false →
        (cache.insert generation lineage schema).2 = cache)) ∧
    (∀ id schema, cache.get? id = some schema ↔
      ∃ lineage, Retains history id {lineage, schema}) ∧
    (∀ changed,
      ((cache.invalidate changed).1 : ℕ∞) =
        {id | ∃ entry, Retains history id entry ∧ changed ∈ entry.lineage}.encard ∧
      ∀ id schema, (cache.invalidate changed).2.get? id = some schema ↔
        ∃ lineage, Retains history id {lineage, schema} ∧ changed ∉ lineage) ∧
    (cache.size : ℕ∞) = {id | ∃ schema, cache.get? id = some schema}.encard := by
  intro cache
  have hfollows : cache.Follows history := follows_after history
  refine ⟨hfollows.generation, ?_, fun _ _ => hfollows.get?_eq_some_iff, ?_, ?_⟩
  · intro generation lineage schema
    rw [← hfollows.generation]
    exact ⟨insert_accepted_iff, insert_refused⟩
  · intro changed
    constructor
    · simp only [invalidate_eq_encard hfollows.distinct, hfollows.entries]
    · intro id schema
      have hnext := hfollows.next (.invalidate changed)
      exact hnext.get?_eq_some_iff.trans (by simp [retains_concat, Call.Inserts, Call.Drops])
  · exact size_eq_encard hfollows.distinct

/-- A schema that was inserted again with another lineage stays when a type of the old lineage
is invalidated, and an insert with the old generation is refused. -/
theorem contents_of_history_reinserted :
    let base : TypeId := .ofNat 1
    let type : TypeId := .ofNat 2
    let history : List Call :=
      [.insert 0 [type, base] {}, .insert 0 [type] {}, .invalidate base]
    (after history).generation = invalidations history ∧
    (((after history).insert 0 [type] {}).1 = false ∧
      ((after history).insert 0 [type] {}).2 = after history) ∧
    ((after history).get? type = some {} ∧
      ∃ lineage, Retains history type {lineage, schema := {}}) := by
  intro base type history
  have hfound : (after history).get? type = some {} := rfl
  have hrefused : ((after history).insert 0 [type] {}).1 = false := by decide
  obtain ⟨hgeneration, hinsert, hget, _⟩ := contents_of_history history
  exact ⟨hgeneration, ⟨hrefused, (hinsert _ _ _).2 hrefused⟩, hfound, (hget _ _).mp hfound⟩

end WorkSchema.SchemaCache
