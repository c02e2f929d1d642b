import WorkSchema.Collection.OrderedMap

/-!
What is found in an ordered map after insertions. Lookups decide membership,
and entries whose names differ are kept as they are given.
-/

namespace WorkSchema.OrderedMap

variable {α β : Type}

@[simp] theorem get?_empty (name : String) : ({} : OrderedMap α).get? name = none := rfl

theorem contains_iff (map : OrderedMap α) (name : String) :
    map.contains name = true ↔ name ∈ map.keys := by
  simp [contains]

theorem contains_eq_isSome (map : OrderedMap α) (name : String) :
    map.contains name = (map.get? name).isSome := by
  rw [Bool.eq_iff_iff, contains_iff, get?, List.lookup_isSome_iff]
  simp [keys]

theorem get?_eq_none_iff (map : OrderedMap α) (name : String) :
    map.get? name = none ↔ name ∉ map.keys := by
  rw [← contains_iff, contains_eq_isSome]
  simp

theorem lookup_cons_if {κ : Type} [BEq κ] [LawfulBEq κ] [DecidableEq κ] (entry : κ × α)
    (rest : List (κ × α)) (query : κ) :
    (entry :: rest).lookup query =
      if query = entry.1 then some entry.2 else rest.lookup query := by
  rw [List.lookup_cons]
  by_cases h : query = entry.1
  · simp [h]
  · simp [h, beq_eq_false_iff_ne.mpr h]

/-- If no key stands twice, a lookup finds every entry. -/
theorem lookup_of_mem {κ : Type} [BEq κ] [LawfulBEq κ] [DecidableEq κ] {entries : List (κ × α)}
    (hnodup : (entries.map Prod.fst).Nodup) {key : κ} {value : α}
    (hmem : (key, value) ∈ entries) : entries.lookup key = some value := by
  induction entries with
  | nil => simp at hmem
  | cons entry rest ih =>
      obtain ⟨other, old⟩ := entry
      simp only [List.map_cons, List.nodup_cons] at hnodup
      rcases List.mem_cons.mp hmem with heq | hrest
      · cases heq
        simp
      · have hne : key ≠ other := by
          rintro rfl
          exact hnodup.1 (List.mem_map_of_mem (f := Prod.fst) hrest)
        rw [lookup_cons_if, if_neg hne]
        exact ih hnodup.2 hrest

/-- An entry of a map is what its name finds. -/
theorem mem_entries_iff (map : OrderedMap α) (name : String) (value : α) :
    (name, value) ∈ map.entries ↔ map.get? name = some value := by
  constructor
  · exact lookup_of_mem map.nodup
  · intro hfound
    obtain ⟨before, after, hsplit, _⟩ := List.lookup_eq_some_iff.mp hfound
    simp [hsplit]

/-- What a name finds does not depend on the order of the entries. -/
theorem get?_of_perm {a b : OrderedMap α} (hperm : a.entries.Perm b.entries) (name : String) :
    a.get? name = b.get? name := by
  apply Option.ext
  intro value
  rw [← mem_entries_iff, ← mem_entries_iff, hperm.mem_iff]

theorem lookup_put (name : String) (value : α) (entries : List (String × α)) (query : String) :
    (put name value entries).lookup query =
      if query = name then some value else entries.lookup query := by
  induction entries with
  | nil => simp [put, lookup_cons_if]
  | cons entry rest ih =>
      obtain ⟨other, old⟩ := entry
      by_cases hother : other = name
      · subst other
        simp only [put, if_true, lookup_cons_if]
        split <;> rfl
      · simp only [put, hother, if_false, lookup_cons_if, ih]
        by_cases h : query = other
        · subst query
          simp [hother]
        · simp [h]

theorem get?_insert (map : OrderedMap α) (name : String) (value : α) (query : String) :
    (map.insert name value).get? query =
      if query = name then some value else map.get? query :=
  lookup_put name value map.entries query

/-- Later entries win over earlier ones, and all of them over the map. -/
theorem get?_insertAll (map : OrderedMap α) (entries : List (String × α)) (query : String) :
    (map.insertAll entries).get? query = (entries.reverse.lookup query).or (map.get? query) := by
  induction entries generalizing map with
  | nil => simp [insertAll]
  | cons entry rest ih =>
      obtain ⟨name, value⟩ := entry
      have hstep := ih (map.insert name value)
      simp only [insertAll, List.foldl_cons] at hstep ⊢
      rw [hstep, get?_insert, List.reverse_cons, List.lookup_append, Option.or_assoc,
        lookup_cons_if]
      by_cases h : query = name <;> simp [h]

private theorem lookup_reverse {entries : List (String × α)}
    (hnodup : (entries.map Prod.fst).Nodup) (query : String) :
    entries.reverse.lookup query = entries.lookup query := by
  induction entries with
  | nil => rfl
  | cons entry rest ih =>
      obtain ⟨name, value⟩ := entry
      simp only [List.map_cons, List.nodup_cons] at hnodup
      rw [List.reverse_cons, List.lookup_append, ih hnodup.2, lookup_cons_if, lookup_cons_if]
      by_cases h : query = name
      · subst query
        have habsent : rest.lookup name = none := by
          rw [List.lookup_eq_none_iff]
          intro entry hmem
          rw [bne_iff_ne]
          rintro rfl
          exact hnodup.1 (List.mem_map_of_mem (f := Prod.fst) hmem)
        simp [habsent]
      · simp [h]

/-- The entries of one map over another: a name finds its value in the first
map that has it. -/
theorem get?_insertAll_entries (map other : OrderedMap α) (query : String) :
    (map.insertAll other.entries).get? query = (other.get? query).or (map.get? query) := by
  rw [get?_insertAll, lookup_reverse other.nodup]
  rfl

private theorem put_fresh {name : String} {value : α} {entries : List (String × α)}
    (hfresh : name ∉ entries.map Prod.fst) :
    put name value entries = entries ++ [(name, value)] := by
  induction entries with
  | nil => rfl
  | cons entry rest ih =>
      obtain ⟨other, old⟩ := entry
      simp only [List.map_cons, List.mem_cons, not_or] at hfresh
      simp only [put, Ne.symm hfresh.1, if_false, ih hfresh.2, List.cons_append]

private theorem entries_insertAll_fresh (map : OrderedMap α) (entries : List (String × α))
    (hnodup : (map.entries.map Prod.fst ++ entries.map Prod.fst).Nodup) :
    (map.insertAll entries).entries = map.entries ++ entries := by
  induction entries generalizing map with
  | nil => simp [insertAll]
  | cons entry rest ih =>
      obtain ⟨name, value⟩ := entry
      have hfresh : name ∉ map.entries.map Prod.fst := by
        intro hmem
        have hdisjoint := (List.nodup_append.mp hnodup).2.2 name hmem name (by simp)
        exact hdisjoint rfl
      have hinsert : (map.insert name value).entries = map.entries ++ [(name, value)] :=
        put_fresh hfresh
      have hrest := ih (map.insert name value) (by simpa [hinsert] using hnodup)
      simp only [insertAll, List.foldl_cons] at hrest ⊢
      rw [hrest, hinsert, List.append_assoc, List.singleton_append]

/-- A list of entries with different names is the map's list of entries. -/
theorem entries_ofList {entries : List (String × α)}
    (hnodup : (entries.map Prod.fst).Nodup) : (ofList entries).entries = entries := by
  exact entries_insertAll_fresh {} entries hnodup

theorem get?_ofList {entries : List (String × α)} (hnodup : (entries.map Prod.fst).Nodup)
    (query : String) : (ofList entries).get? query = entries.lookup query := by
  rw [get?, entries_ofList hnodup]

/-- The names of a map are in order, each in its one place. -/
theorem ordered_keys (map : OrderedMap α) :
    map.keys.Pairwise fun first second => map.keys.idxOf first < map.keys.idxOf second := by
  have hnodup : map.keys.Nodup := map.nodup
  rw [List.pairwise_iff_getElem]
  intro i j hi hj hless
  rw [hnodup.idxOf_getElem, hnodup.idxOf_getElem]
  exact hless

/-- A name that is there keeps its place, and a new one comes last. -/
theorem keys_insert (map : OrderedMap α) (name : String) (value : α) :
    (map.insert name value).keys =
      if name ∈ map.keys then map.keys else map.keys ++ [name] :=
  keys_put name value map.entries

theorem keys_insertAll (map : OrderedMap α) {entries : List (String × α)}
    (hnodup : (entries.map Prod.fst).Nodup) :
    (map.insertAll entries).keys =
      map.keys ++ (entries.map Prod.fst).filter fun name => !map.contains name := by
  induction entries generalizing map with
  | nil => simp [insertAll]
  | cons entry rest ih =>
      obtain ⟨name, value⟩ := entry
      rw [List.map_cons, List.nodup_cons] at hnodup
      have hstep : map.insertAll ((name, value) :: rest) = (map.insert name value).insertAll rest :=
        rfl
      -- A name that was just inserted does not come again in the rest.
      have hrest :
          (rest.map Prod.fst).filter (fun other => !(map.insert name value).contains other) =
            (rest.map Prod.fst).filter fun other => !map.contains other := by
        apply List.filter_congr
        intro other hother
        have hne : other ≠ name := fun hsame => hnodup.1 (hsame ▸ hother)
        rw [contains_eq_isSome, contains_eq_isSome, get?_insert, if_neg hne]
      rw [hstep, ih _ hnodup.2, hrest, keys_insert, List.map_cons, List.filter_cons]
      by_cases hknown : name ∈ map.keys
      · simp [hknown, (contains_iff map name).mpr hknown]
      · have hnew : map.contains name = false := by
          rw [Bool.eq_false_iff, ne_eq, contains_iff]
          exact hknown
        simp [hknown, hnew]

/-- Whether a map is another one with the entries of a third put over it. What is put over a
name takes its place, and names that are new come last, in their order. -/
structure Overlays (result base upper : OrderedMap α) : Prop where
  keys : result.keys = base.keys ++ upper.keys.filter fun name => !base.contains name
  get? (name : String) : result.get? name = (upper.get? name).or (base.get? name)

theorem overlays_insertAll (base upper : OrderedMap α) :
    (base.insertAll upper.entries).Overlays base upper where
  keys := keys_insertAll base upper.nodup
  get? := get?_insertAll_entries base upper

/-- A map that is put over another has the names of both. -/
theorem Overlays.contains {result base upper : OrderedMap α} (hresult : result.Overlays base upper)
    (name : String) : result.contains name = (upper.contains name || base.contains name) := by
  rw [contains_eq_isSome, contains_eq_isSome, contains_eq_isSome, hresult.get?, Option.isSome_or]

/-- Putting entries over the upper map is putting them over the whole. -/
theorem Overlays.over {base upper lower result lower' result' : OrderedMap α}
    (hresult : result.Overlays base lower) (hlower : lower'.Overlays lower upper)
    (hresult' : result'.Overlays base lower') : result'.Overlays result upper where
  keys := by
    rw [hresult'.keys, hresult.keys, hlower.keys, List.filter_append, List.filter_filter,
      List.append_assoc]
    simp only [hresult.contains, Bool.not_or, Bool.and_comm]
  get? name := by rw [hresult'.get?, hresult.get?, hlower.get?, Option.or_assoc]

@[simp] theorem get?_map (f : α → β) (map : OrderedMap α) (query : String) :
    (map.map f).get? query = (map.get? query).map f := by
  obtain ⟨entries, hnodup⟩ := map
  simp only [get?, OrderedMap.map]
  induction entries with
  | nil => rfl
  | cons entry rest ih =>
      rw [List.map_cons, lookup_cons_if, lookup_cons_if]
      split
      · rfl
      · exact ih (List.nodup_cons.mp hnodup).2

end WorkSchema.OrderedMap
