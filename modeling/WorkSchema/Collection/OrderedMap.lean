/-!
Maps from names that remember the order of insertion. Inserting a name again
replaces its value and leaves it where it first stood.
-/

namespace WorkSchema

/-- The entries in order of insertion; no name appears twice. -/
structure OrderedMap (α : Type) where
  entries : List (String × α)
  nodup : (entries.map Prod.fst).Nodup

namespace OrderedMap

variable {α β : Type}

def empty : OrderedMap α := ⟨[], List.nodup_nil⟩

instance : EmptyCollection (OrderedMap α) := ⟨empty⟩

instance : Inhabited (OrderedMap α) := ⟨empty⟩

def keys (map : OrderedMap α) : List String := map.entries.map Prod.fst

def isEmpty (map : OrderedMap α) : Bool := map.entries.isEmpty

def size (map : OrderedMap α) : Nat := map.entries.length

def get? (map : OrderedMap α) (name : String) : Option α := map.entries.lookup name

def contains (map : OrderedMap α) (name : String) : Bool := map.keys.contains name

/-- Insertion into a list of entries: in place of the entry of that name, or at
the end. -/
def put (name : String) (value : α) : List (String × α) → List (String × α)
  | [] => [(name, value)]
  | (other, old) :: rest =>
      if other = name then (name, value) :: rest else (other, old) :: put name value rest

theorem keys_put (name : String) (value : α) (entries : List (String × α)) :
    (put name value entries).map Prod.fst =
      if name ∈ entries.map Prod.fst then entries.map Prod.fst
      else entries.map Prod.fst ++ [name] := by
  induction entries with
  | nil => simp [put]
  | cons entry rest ih =>
      obtain ⟨other, old⟩ := entry
      by_cases h : other = name
      · simp [put, h]
      · by_cases m : name ∈ rest.map Prod.fst
        · have : name ∈ other :: rest.map Prod.fst := List.mem_cons_of_mem _ m
          simp only [put, h, if_false, List.map_cons, ih, m, this, if_true]
        · have : name ∉ other :: rest.map Prod.fst := by
            simp only [List.mem_cons, not_or]
            exact ⟨fun e => h e.symm, m⟩
          simp only [put, h, if_false, List.map_cons, ih, m, this, List.cons_append]

theorem nodup_put (name : String) (value : α) {entries : List (String × α)}
    (h : (entries.map Prod.fst).Nodup) : ((put name value entries).map Prod.fst).Nodup := by
  rw [keys_put]
  split
  · exact h
  · rename_i absent
    rw [List.nodup_append]
    refine ⟨h, by simp, ?_⟩
    intro a ha b hb
    simp only [List.mem_singleton] at hb
    subst hb
    intro e
    exact absent (e ▸ ha)

def insert (map : OrderedMap α) (name : String) (value : α) : OrderedMap α :=
  ⟨put name value map.entries, nodup_put name value map.nodup⟩

/-- Inserts entries from left to right. -/
def insertAll (map : OrderedMap α) (entries : List (String × α)) : OrderedMap α :=
  entries.foldl (fun map (name, value) => map.insert name value) map

def ofList (entries : List (String × α)) : OrderedMap α := insertAll {} entries

theorem keys_map (f : α → β) (entries : List (String × α)) :
    (entries.map fun (name, value) => (name, f value)).map Prod.fst = entries.map Prod.fst := by
  simp [List.map_map, Function.comp_def]

/-- Applies a function to every value; the names and their order stay. -/
def map (f : α → β) (map : OrderedMap α) : OrderedMap β :=
  ⟨map.entries.map fun (name, value) => (name, f value), keys_map f map.entries ▸ map.nodup⟩

/-- Whether both maps hold the same names with equal values, in any order. -/
def equalBy (same : α → α → Bool) (a b : OrderedMap α) : Bool :=
  a.size == b.size && a.entries.all fun (name, value) =>
    match b.get? name with
    | some other => same value other
    | none => false

end OrderedMap

end WorkSchema
