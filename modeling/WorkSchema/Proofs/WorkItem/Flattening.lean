import Mathlib.Data.List.Basic
import WorkSchema.Proofs.Collection.OrderedMap
import WorkSchema.WorkItem.Validation

/-!
Flattening a chain of types: a name means what the lowest type that has it says, and stands
where the highest type that has it puts it.
-/

namespace WorkSchema.Schema

theorem overlays_extend (schema fields : Schema) : (schema.extend fields).Overlays schema fields :=
  OrderedMap.overlays_insertAll schema fields

theorem get?_extend (schema fields : Schema) (name : String) :
    (schema.extend fields).get? name = (fields.get? name).or (schema.get? name) :=
  (overlays_extend schema fields).get? name

@[simp] theorem ofChain_nil : ofChain [] = {} := rfl

@[simp] theorem ofChain_cons (type : WorkItemType) (above : List WorkItemType) :
    ofChain (type :: above) = (ofChain above).extend type.fields := by
  simp [ofChain]

theorem get?_ofChain (chain : List WorkItemType) (name : String) :
    (ofChain chain).get? name = chain.findSome? (·.fields.get? name) := by
  induction chain with
  | nil => rfl
  | cons type above ih =>
      rw [ofChain_cons, get?_extend, ih, List.findSome?_cons]
      cases type.fields.get? name <;> rfl

/-- Every definition of a flattened schema is one of some type of the chain. -/
theorem mem_of_get?_ofChain {chain : List WorkItemType} {name : String}
    {definition : FieldDefinition} (hfound : (ofChain chain).get? name = some definition) :
    ∃ type ∈ chain, type.fields.get? name = some definition := by
  rw [get?_ofChain] at hfound
  exact List.exists_of_findSome?_eq_some hfound

/-- The names that the types of a chain define, as they are read from the furthest ancestor
down. A name comes once for each type that defines it. -/
def namesDown (chain : List WorkItemType) : List String :=
  chain.reverse.flatMap (·.fields.keys)

/-- Whether a schema is what a chain of types, from the type itself up, defines: the names of
all of them once each, in the order in which they are first defined from the furthest ancestor
down, and for each name the definition of the nearest type that has one. -/
structure Flattens (schema : Schema) (chain : List WorkItemType) : Prop where
  once : schema.keys.Nodup
  defined (name : String) : name ∈ schema.keys ↔ ∃ type ∈ chain, name ∈ type.fields.keys
  ordered : schema.keys.Pairwise fun first second =>
    (namesDown chain).idxOf first < (namesDown chain).idxOf second
  nearest (below above : List WorkItemType) (type : WorkItemType) (name : String)
    (definition : FieldDefinition) : chain = below ++ type :: above →
      type.fields.get? name = some definition →
      (∀ lower ∈ below, lower.fields.get? name = none) → schema.get? name = some definition

theorem mem_namesDown {chain : List WorkItemType} {name : String} :
    name ∈ namesDown chain ↔ ∃ type ∈ chain, name ∈ type.fields.keys := by
  simp [namesDown]

theorem namesDown_cons (type : WorkItemType) (above : List WorkItemType) :
    namesDown (type :: above) = namesDown above ++ type.fields.keys := by
  simp [namesDown]

theorem mem_keys_ofChain {chain : List WorkItemType} {name : String} :
    name ∈ (ofChain chain).keys ↔ name ∈ namesDown chain := by
  induction chain with
  | nil => simp [namesDown, OrderedMap.keys, EmptyCollection.emptyCollection, OrderedMap.empty]
  | cons type above ih =>
      rw [ofChain_cons, (overlays_extend _ _).keys, namesDown_cons, List.mem_append,
        List.mem_append, ih, List.mem_filter]
      have hcontains : (ofChain above).contains name = true ↔ name ∈ namesDown above :=
        ((ofChain above).contains_iff name).trans ih
      by_cases habove : name ∈ namesDown above
      · simp [habove]
      · simp [habove, Bool.eq_false_iff.mpr (mt hcontains.mp habove)]

/-- The names that a type adds come after all names of the types above it, and among
themselves they stand as in the type. -/
theorem ordered_ofChain (chain : List WorkItemType) :
    (ofChain chain).keys.Pairwise fun first second =>
      (namesDown chain).idxOf first < (namesDown chain).idxOf second := by
  induction chain with
  | nil => exact List.Pairwise.nil
  | cons type above ih =>
      have hold : ∀ name ∈ (ofChain above).keys,
          (namesDown above ++ type.fields.keys).idxOf name = (namesDown above).idxOf name :=
        fun name hname => List.idxOf_append_of_mem (mem_keys_ofChain.mp hname)
      have hnew : ∀ name ∈ type.fields.keys.filter (fun name => !(ofChain above).contains name),
          (namesDown above ++ type.fields.keys).idxOf name =
            (namesDown above).length + type.fields.keys.idxOf name := by
        intro name hname
        have hlacks : (ofChain above).contains name ≠ true := by
          simpa using (List.mem_filter.mp hname).2
        rw [ne_eq, OrderedMap.contains_iff, mem_keys_ofChain] at hlacks
        exact List.idxOf_append_of_notMem hlacks
      rw [ofChain_cons, (overlays_extend _ _).keys, namesDown_cons, List.pairwise_append]
      refine ⟨?_, ?_, ?_⟩
      · apply ih.imp_of_mem
        intro first second hfirst hsecond hless
        rw [hold first hfirst, hold second hsecond]
        exact hless
      · apply (type.fields.ordered_keys.sublist List.filter_sublist).imp_of_mem
        intro first second hfirst hsecond hless
        rw [hnew first hfirst, hnew second hsecond]
        omega
      · intro first hfirst second hsecond
        have hplace := List.idxOf_lt_length_iff.mpr (mem_keys_ofChain.mp hfirst)
        rw [hold first hfirst, hnew second hsecond]
        omega

theorem flattens_ofChain (chain : List WorkItemType) : (ofChain chain).Flattens chain where
  once := (ofChain chain).nodup
  defined _ := mem_keys_ofChain.trans mem_namesDown
  ordered := ordered_ofChain chain
  nearest below above type name definition hchain hdefinition hbelow := by
    have hnone : below.findSome? (·.fields.get? name) = none := by
      rw [List.findSome?_eq_none_iff]
      exact hbelow
    rw [get?_ofChain, hchain, List.findSome?_append, hnone, List.findSome?_cons, hdefinition]
    rfl

end WorkSchema.Schema
