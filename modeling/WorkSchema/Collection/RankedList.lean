/-!
Collections kept in ascending order of a rank. No two elements share a rank, so
the rank is also the key under which an element is found.
-/

namespace WorkSchema

/-- The key of an element as a number. -/
class Ranked (α : Type) where
  rank : α → Nat

export Ranked (rank)

structure RankedList (α : Type) [Ranked α] where
  elements : List α
  sorted : elements.Pairwise fun a b => rank a < rank b

namespace RankedList

variable {α : Type} [Ranked α]

def empty : RankedList α := ⟨[], .nil⟩

instance : EmptyCollection (RankedList α) := ⟨empty⟩

instance : Inhabited (RankedList α) := ⟨empty⟩

def size (list : RankedList α) : Nat := list.elements.length

def find? (list : RankedList α) (key : Nat) : Option α :=
  list.elements.find? fun a => rank a == key

def contains (list : RankedList α) (key : Nat) : Bool := (list.find? key).isSome

/-- Insertion in order of rank. An element of the same rank is replaced. -/
def place (a : α) : List α → List α
  | [] => [a]
  | b :: rest =>
      if rank a < rank b then a :: b :: rest
      else if rank b < rank a then b :: place a rest
      else a :: rest

theorem mem_place {a x : α} {list : List α} (h : x ∈ place a list) : x = a ∨ x ∈ list := by
  induction list with
  | nil => simpa [place] using h
  | cons b rest ih =>
      simp only [place] at h
      split at h
      · simpa using h
      · split at h
        · rcases List.mem_cons.1 h with rfl | h
          · simp
          · rcases ih h with rfl | h <;> simp_all
        · rcases List.mem_cons.1 h with rfl | h <;> simp_all

theorem sorted_place (a : α) {list : List α} (h : list.Pairwise fun a b => rank a < rank b) :
    (place a list).Pairwise fun a b => rank a < rank b := by
  induction list with
  | nil => simp [place]
  | cons b rest ih =>
      obtain ⟨hb, hrest⟩ := List.pairwise_cons.1 h
      simp only [place]
      split
      · rename_i lt
        refine List.pairwise_cons.2 ⟨fun x hx => ?_, h⟩
        rcases List.mem_cons.1 hx with rfl | hx
        · exact lt
        · exact Nat.lt_trans lt (hb x hx)
      · split
        · rename_i lt
          refine List.pairwise_cons.2 ⟨fun x hx => ?_, ih hrest⟩
          rcases mem_place hx with rfl | hx
          · exact lt
          · exact hb x hx
        · rename_i notLess notGreater
          have same : rank a = rank b := by omega
          exact List.pairwise_cons.2 ⟨fun x hx => same ▸ hb x hx, hrest⟩

def insert (list : RankedList α) (a : α) : RankedList α :=
  ⟨place a list.elements, sorted_place a list.sorted⟩

def insertAll (list : RankedList α) (elements : List α) : RankedList α :=
  elements.foldl insert list

def ofList (elements : List α) : RankedList α := insertAll {} elements

def filter (keep : α → Bool) (list : RankedList α) : RankedList α :=
  ⟨list.elements.filter keep, list.sorted.sublist List.filter_sublist⟩

end RankedList

end WorkSchema
