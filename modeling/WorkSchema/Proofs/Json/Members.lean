import Mathlib.Data.String.Basic
import WorkSchema.Json.Basic

/-!
The members of a JSON object. Each is put in its place by name, so an object has the members
that it was made of in ascending order, whatever their order was.
-/

namespace WorkSchema.Json

variable {members : List (String × Json)} {name : String} {value : Json}

/-- Whether members are in ascending order of their names, none of which comes twice. -/
def Sorted (members : List (String × Json)) : Prop :=
  members.Pairwise fun first second => first.1 < second.1

theorem Sorted.nodup (hsorted : Sorted members) : (members.map Prod.fst).Nodup :=
  List.pairwise_map.mpr (hsorted.imp ne_of_lt)

theorem mem_putMember {member : String × Json} (hmem : member ∈ putMember name value members) :
    member = (name, value) ∨ member ∈ members := by
  induction members with
  | nil => simpa [putMember] using hmem
  | cons first rest ih =>
      rw [putMember] at hmem
      split at hmem
      · exact List.mem_cons.mp hmem
      · split at hmem
        · rcases List.mem_cons.mp hmem with rfl | hmem
          · exact .inr List.mem_cons_self
          · exact (ih hmem).imp_right (List.mem_cons_of_mem first)
        · exact (List.mem_cons.mp hmem).imp_right (List.mem_cons_of_mem first)

theorem sorted_putMember (hsorted : Sorted members) : Sorted (putMember name value members) := by
  induction members with
  | nil => exact List.pairwise_singleton _ _
  | cons first rest ih =>
      obtain ⟨hfirst, hrest⟩ := List.pairwise_cons.mp hsorted
      rw [putMember]
      split
      · rename_i hless
        refine List.pairwise_cons.mpr ⟨?_, hsorted⟩
        intro member hmem
        rcases List.mem_cons.mp hmem with rfl | hmem
        · exact hless
        · exact hless.trans (hfirst member hmem)
      · rename_i hnotless
        split
        · rename_i hgreater
          refine List.pairwise_cons.mpr ⟨?_, ih hrest⟩
          intro member hmem
          rcases mem_putMember hmem with rfl | hmem
          · exact hgreater
          · exact hfirst member hmem
        · rename_i hnotgreater
          -- Neither name is before the other, so the new member replaces the old one.
          have hsame : name = first.1 :=
            le_antisymm (le_of_not_gt hnotgreater) (le_of_not_gt hnotless)
          refine List.pairwise_cons.mpr ⟨?_, hrest⟩
          intro member hmem
          rw [hsame]
          exact hfirst member hmem

theorem putMember_perm (hfresh : name ∉ members.map Prod.fst) :
    (putMember name value members).Perm ((name, value) :: members) := by
  induction members with
  | nil => exact .refl _
  | cons first rest ih =>
      rw [List.map_cons, List.mem_cons, not_or] at hfresh
      rw [putMember]
      split
      · exact .refl _
      · rename_i hnotless
        split
        · exact ((ih hfresh.2).cons first).trans (.swap _ _ _)
        · rename_i hnotgreater
          exact absurd (le_antisymm (le_of_not_gt hnotgreater) (le_of_not_gt hnotless)) hfresh.1

/-- Members of new names that are put one after another join those that are there. -/
private theorem foldl_putMember {before rest : List (String × Json)} (hbefore : Sorted before)
    (hnodup : ((before ++ rest).map Prod.fst).Nodup) :
    let placed := rest.foldl (fun placed (name, value) => putMember name value placed) before
    Sorted placed ∧ placed.Perm (before ++ rest) := by
  induction rest generalizing before with
  | nil => simpa using hbefore
  | cons member rest ih =>
      obtain ⟨name, value⟩ := member
      have hmoved : (before ++ (name, value) :: rest).Perm ((name, value) :: before ++ rest) :=
        List.perm_middle
      have hnames := (hmoved.map Prod.fst).nodup_iff.mp hnodup
      have hfresh : name ∉ before.map Prod.fst := by
        rw [List.cons_append, List.map_cons, List.nodup_cons, List.map_append, List.mem_append,
          not_or] at hnames
        exact hnames.1.1
      have hput : (putMember name value before ++ rest).Perm ((name, value) :: before ++ rest) :=
        (putMember_perm hfresh).append_right rest
      obtain ⟨hsorted, hperm⟩ := ih (sorted_putMember hbefore)
        ((hput.map Prod.fst).nodup_iff.mpr hnames)
      exact ⟨hsorted, hperm.trans (hput.trans hmoved.symm)⟩

theorem objectOf_eq (hnodup : (members.map Prod.fst).Nodup) :
    ∃ placed, objectOf members = .object placed ∧ Sorted placed ∧ placed.Perm members :=
  ⟨_, rfl, foldl_putMember .nil hnodup⟩

end WorkSchema.Json
