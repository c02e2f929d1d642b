import Mathlib.Data.List.Sort
import WorkSchema.Collection.RankedList

/-!
What is found in a ranked list after insertions. A ranked list is determined by what
is found in it, so the order in which its elements were inserted does not matter.
-/

namespace WorkSchema.RankedList

variable {α : Type} [Ranked α]

theorem rank_of_find? {list : RankedList α} {key : Nat} {a : α}
    (hfound : list.find? key = some a) : rank a = key := by
  have hkey := List.find?_some hfound
  simpa using hkey

theorem mem_of_find? {list : RankedList α} {key : Nat} {a : α}
    (hfound : list.find? key = some a) : a ∈ list.elements :=
  List.mem_of_find?_eq_some hfound

theorem find?_of_mem {list : RankedList α} {a : α} (hmem : a ∈ list.elements) :
    list.find? (rank a) = some a := by
  obtain ⟨before, after, hsplit⟩ := List.append_of_mem hmem
  have hsorted := list.sorted
  rw [hsplit, List.pairwise_append] at hsorted
  rw [find?, hsplit, List.find?_append, List.find?_eq_none.mpr ?_]
  · simp
  · intro b hb
    have hless := hsorted.2.2 b hb a List.mem_cons_self
    simp only [beq_iff_eq]
    omega

private theorem find?_place (a : α) {list : List α}
    (hsorted : list.Pairwise fun a b => rank a < rank b) (key : Nat) :
    (place a list).find? (fun b => rank b == key) =
      if key = rank a then some a else list.find? (fun b => rank b == key) := by
  induction list with
  | nil =>
      by_cases h : key = rank a
      · simp [place, h]
      · simp [place, h, Ne.symm h]
  | cons b rest ih =>
      obtain ⟨hb, hrest⟩ := List.pairwise_cons.mp hsorted
      simp only [place]
      split
      · by_cases h : key = rank a
        · simp [h]
        · simp [h, Ne.symm h]
      · split
        · rename_i hgreater
          rw [List.find?_cons, ih hrest]
          by_cases h : key = rank a
          · subst key
            have hne : (rank b == rank a) = false := by
              simp only [beq_eq_false_iff_ne]
              omega
            simp [hne]
          · simp [h, List.find?_cons]
        · have hsame : rank b = rank a := by omega
          by_cases h : key = rank a
          · simp [h]
          · simp [h, hsame, Ne.symm h]

theorem find?_insert (list : RankedList α) (a : α) (key : Nat) :
    (list.insert a).find? key = if key = rank a then some a else list.find? key :=
  find?_place a list.sorted key

/-- An element of the list after an insertion is the new one or an old one. -/
theorem mem_insert {list : RankedList α} {a b : α} (hmem : b ∈ (list.insert a).elements) :
    b = a ∨ b ∈ list.elements :=
  mem_place hmem

theorem mem_iff_find? {list : RankedList α} {a : α} :
    a ∈ list.elements ↔ list.find? (rank a) = some a :=
  ⟨find?_of_mem, mem_of_find?⟩

theorem ext_find? {a b : RankedList α} (hsame : ∀ key, a.find? key = b.find? key) : a = b := by
  have hnodup : ∀ list : RankedList α, list.elements.Nodup := by
    intro list
    apply list.sorted.imp
    rintro x _ hless rfl
    exact Nat.lt_irrefl _ hless
  have hperm : a.elements.Perm b.elements := by
    rw [List.perm_ext_iff_of_nodup (hnodup a) (hnodup b)]
    intro x
    rw [mem_iff_find?, mem_iff_find?, hsame]
  have helements : a.elements = b.elements := by
    apply hperm.eq_of_pairwise _ a.sorted b.sorted
    intro x y _ _ hless hgreater
    omega
  cases a
  cases b
  cases helements
  rfl

theorem mem_insert_iff {list : RankedList α} {a b : α} :
    b ∈ (list.insert a).elements ↔ b = a ∨ (rank b ≠ rank a ∧ b ∈ list.elements) := by
  rw [mem_iff_find?, mem_iff_find?, find?_insert]
  by_cases hsame : rank b = rank a
  · simp only [hsame, if_true, Option.some.injEq, ne_eq, not_true_eq_false, false_and, or_false]
    exact eq_comm
  · have hne : b ≠ a := fun heq => hsame (congrArg rank heq)
    simp [hsame, hne]

/-- Of the elements inserted under a key the last one counts. -/
theorem find?_insertAll (list : RankedList α) (items : List α) (key : Nat) :
    (list.insertAll items).find? key =
      (items.reverse.find? fun a => rank a == key).or (list.find? key) := by
  induction items generalizing list with
  | nil => simp [insertAll]
  | cons a rest ih =>
      have hstep : list.insertAll (a :: rest) = (list.insert a).insertAll rest := rfl
      rw [hstep, ih, find?_insert, List.reverse_cons, List.find?_append, List.find?_singleton]
      by_cases hkey : key = rank a
      · simp [hkey]
      · simp [hkey, Ne.symm hkey]

theorem find?_ofList (items : List α) (key : Nat) :
    (ofList items).find? key = items.reverse.find? fun a => rank a == key := by
  have hempty : (∅ : RankedList α).find? key = none := rfl
  rw [ofList, find?_insertAll, hempty, Option.or_none]

/-- An element that no other one shares its rank with is found, wherever it stands. -/
theorem find?_ofList_of_unique {items : List α} {a : α} (hmem : a ∈ items)
    (hone : ∀ b ∈ items, rank b = rank a → b = a) : (ofList items).find? (rank a) = some a := by
  rw [find?_ofList]
  cases hfound : items.reverse.find? (fun b => rank b == rank a) with
  | none =>
      have hnone := List.find?_eq_none.mp hfound a (List.mem_reverse.mpr hmem)
      simp at hnone
  | some b =>
      have hb : b ∈ items := List.mem_reverse.mp (List.mem_of_find?_eq_some hfound)
      have hrank : rank b = rank a := by simpa using List.find?_some hfound
      rw [hone b hb hrank]

/-- Inserting the elements of a list in any order, also repeatedly, gives the list. -/
theorem ofList_eq {list : RankedList α} {items : List α}
    (hsame : ∀ a, a ∈ items ↔ a ∈ list.elements) : ofList items = list := by
  apply ext_find?
  intro key
  rw [find?_ofList]
  cases hfound : items.reverse.find? (fun a => rank a == key) with
  | some a =>
      have hkey : rank a = key := by simpa using List.find?_some hfound
      have hmem : a ∈ items := List.mem_reverse.mp (List.mem_of_find?_eq_some hfound)
      rw [← hkey, find?_of_mem ((hsame a).mp hmem)]
  | none =>
      cases hlist : list.find? key with
      | none => rfl
      | some a =>
          have hmem := (hsame a).mpr (mem_of_find? hlist)
          have hnone := List.find?_eq_none.mp hfound a (List.mem_reverse.mpr hmem)
          simp [rank_of_find? hlist] at hnone

@[simp] theorem ofList_elements (list : RankedList α) : ofList list.elements = list :=
  ofList_eq fun _ => Iff.rfl

theorem mem_insertAll {list : RankedList α} {items : List α} {a : α}
    (hmem : a ∈ (list.insertAll items).elements) : a ∈ items ∨ a ∈ list.elements := by
  rw [mem_iff_find?, find?_insertAll, Option.or_eq_some_iff] at hmem
  rcases hmem with hnew | ⟨_, hold⟩
  · exact Or.inl (List.mem_reverse.mp (List.mem_of_find?_eq_some hnew))
  · exact Or.inr (mem_of_find? hold)

theorem insert_eq_self {list : RankedList α} {a : α} (hfound : list.find? (rank a) = some a) :
    list.insert a = list := by
  apply ext_find?
  intro key
  rw [find?_insert]
  by_cases hkey : key = rank a
  · rw [if_pos hkey, hkey, hfound]
  · rw [if_neg hkey]

private theorem length_place (a : α) {list : List α}
    (hsorted : list.Pairwise fun a b => rank a < rank b) :
    (place a list).length =
      if (list.find? fun b => rank b == rank a).isSome then list.length else list.length + 1 := by
  induction list with
  | nil => rfl
  | cons b rest ih =>
      obtain ⟨hb, hrest⟩ := List.pairwise_cons.mp hsorted
      rw [List.find?_cons, place]
      split
      · have hnone : rest.find? (fun c => rank c == rank a) = none := by
          rw [List.find?_eq_none]
          intro c hc
          have hless := hb c hc
          simp only [beq_iff_eq]
          omega
        have hne : (rank b == rank a) = false := by
          simp only [beq_eq_false_iff_ne]
          omega
        simp [hne, hnone]
      · split
        · have hne : (rank b == rank a) = false := by
            simp only [beq_eq_false_iff_ne]
            omega
          rw [List.length_cons, ih hrest, hne]
          split <;> simp
        · have hsame : (rank b == rank a) = true := by
            simp only [beq_iff_eq]
            omega
          simp [hsame]

theorem size_insert (list : RankedList α) (a : α) :
    (list.insert a).size = if (list.find? (rank a)).isSome then list.size else list.size + 1 :=
  length_place a list.sorted

theorem size_le_insertAll (list : RankedList α) (items : List α) :
    list.size ≤ (list.insertAll items).size := by
  induction items generalizing list with
  | nil => exact Nat.le_refl _
  | cons a rest ih =>
      have hrest := ih (list.insert a)
      rw [size_insert] at hrest
      exact Nat.le_trans (by split <;> omega) hrest

/-- Where elements are told apart by their ranks, insertions that do not make a list
longer leave it as it was. -/
theorem insertAll_eq_self (hinjective : ∀ a b : α, rank a = rank b → a = b)
    {list : RankedList α} {items : List α} (hsize : (list.insertAll items).size = list.size) :
    list.insertAll items = list := by
  induction items generalizing list with
  | nil => rfl
  | cons a rest ih =>
      have hstep : list.insertAll (a :: rest) = (list.insert a).insertAll rest := rfl
      have hrest := size_le_insertAll (list.insert a) rest
      rw [hstep] at hsize ⊢
      cases hfound : list.find? (rank a) with
      | none =>
          rw [size_insert, hfound] at hrest
          simp at hrest
          omega
      | some b =>
          have hsame := hinjective b a (rank_of_find? hfound)
          subst hsame
          rw [insert_eq_self hfound] at hsize ⊢
          exact ih hsize

theorem insertAll_of_mem {list : RankedList α} {items : List α}
    (hall : ∀ a ∈ items, a ∈ list.elements) : list.insertAll items = list := by
  induction items with
  | nil => rfl
  | cons a rest ih =>
      obtain ⟨hfirst, hrest⟩ := List.forall_mem_cons.mp hall
      have hstep : list.insertAll (a :: rest) = (list.insert a).insertAll rest := rfl
      rw [hstep, insert_eq_self (find?_of_mem hfirst), ih hrest]

/-- Where elements are told apart by their ranks, nothing is lost by insertions. -/
theorem mem_insertAll_iff (hinjective : ∀ a b : α, rank a = rank b → a = b)
    {list : RankedList α} {items : List α} {a : α} :
    a ∈ (list.insertAll items).elements ↔ a ∈ items ∨ a ∈ list.elements := by
  induction items generalizing list with
  | nil => simp [insertAll]
  | cons b rest ih =>
      have hstep : list.insertAll (b :: rest) = (list.insert b).insertAll rest := rfl
      have hinsert : a ∈ (list.insert b).elements ↔ a = b ∨ a ∈ list.elements := by
        rw [mem_insert_iff]
        by_cases hsame : a = b
        · simp [hsame]
        · have hrank : rank a ≠ rank b := fun hrank => hsame (hinjective a b hrank)
          simp [hsame, hrank]
      rw [hstep, ih, hinsert, List.mem_cons]
      tauto

end WorkSchema.RankedList
