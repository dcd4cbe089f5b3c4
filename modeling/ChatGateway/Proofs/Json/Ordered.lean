import ChatGateway.Json.Value
import Mathlib

/-!
# Members in order

`Value.ordered` sorts the members of an object by their names.  Where no name is there
twice, it keeps every member, and what comes out does not depend on the order in which
they went in (`ordered_congr`); members that are in order already stay as they are
(`ordered_eq_self`).
-/

namespace ChatGateway.Json.Value

/-- Members in strictly increasing order of their names. -/
def InOrder (members : List (String × Value)) : Prop := members.Pairwise fun a b => a.1 < b.1

theorem InOrder.nodup {members : List (String × Value)} (h : InOrder members) :
    (members.map Prod.fst).Nodup :=
  List.pairwise_map.mpr (h.imp fun hlt => ne_of_lt hlt)

/-! ## Putting one member in -/

theorem mem_insertNew {member m : String × Value} {members : List (String × Value)}
    (h : m ∈ insertNew member members) : m = member ∨ m ∈ members := by
  induction members with
  | nil => exact Or.inl (List.mem_singleton.mp h)
  | cons other members ih =>
      unfold insertNew at h
      split at h
      · exact List.mem_cons.mp h
      split at h
      · exact Or.inr h
      · rcases List.mem_cons.mp h with rfl | h
        · exact Or.inr List.mem_cons_self
        · exact (ih h).imp_right (List.mem_cons_of_mem _)

theorem insertNew_inOrder (member : String × Value) {members : List (String × Value)}
    (h : InOrder members) : InOrder (insertNew member members) := by
  induction members with
  | nil => exact List.pairwise_singleton _ _
  | cons other members ih =>
      obtain ⟨hother, hmembers⟩ := List.pairwise_cons.mp h
      unfold insertNew
      split
      next hlt =>
        refine List.pairwise_cons.mpr ⟨fun m hm => ?_, h⟩
        rcases List.mem_cons.mp hm with rfl | hm
        · exact hlt
        · exact lt_trans hlt (hother m hm)
      next hnlt =>
        split
        · exact h
        next hne =>
          have hlt : other.1 < member.1 := lt_of_le_of_ne (not_lt.mp hnlt) (Ne.symm hne)
          refine List.pairwise_cons.mpr ⟨fun m hm => ?_, ih hmembers⟩
          rcases mem_insertNew hm with rfl | hm
          · exact hlt
          · exact hother m hm

/-- A name that is new adds its member. -/
theorem insertNew_perm {member : String × Value} {members : List (String × Value)}
    (hnew : member.1 ∉ members.map Prod.fst) :
    (insertNew member members).Perm (member :: members) := by
  induction members with
  | nil => exact List.Perm.refl _
  | cons other members ih =>
      rw [List.map_cons, List.mem_cons, not_or] at hnew
      unfold insertNew
      split
      · exact List.Perm.refl _
      · rw [if_neg hnew.1]
        exact ((ih hnew.2).cons other).trans (List.Perm.swap member other members)

/-! ## Putting all members in -/

theorem ordered_inOrder (members : List (String × Value)) : InOrder (ordered members) := by
  induction members with
  | nil => exact List.Pairwise.nil
  | cons member members ih => exact insertNew_inOrder member ih

theorem ordered_perm {members : List (String × Value)} (hnames : (members.map Prod.fst).Nodup) :
    (ordered members).Perm members := by
  induction members with
  | nil => exact List.Perm.refl _
  | cons member members ih =>
      obtain ⟨hnew, hnames⟩ := List.nodup_cons.mp hnames
      have hperm := ih hnames
      have hnew' : member.1 ∉ (ordered members).map Prod.fst := by
        rwa [(hperm.map Prod.fst).mem_iff]
      exact (insertNew_perm hnew').trans (hperm.cons member)

theorem mem_of_mem_ordered {m : String × Value} {members : List (String × Value)}
    (h : m ∈ ordered members) : m ∈ members := by
  induction members with
  | nil => exact h
  | cons member members ih =>
      rcases mem_insertNew h with rfl | h
      · exact List.mem_cons_self
      · exact List.mem_cons_of_mem _ (ih h)

/-- Members have one arrangement only that is in order. -/
theorem eq_of_inOrder {members members' : List (String × Value)} (h : InOrder members)
    (h' : InOrder members') (hperm : members.Perm members') : members = members' := by
  refine hperm.eq_of_pairwise ?_ h h'
  intro a b _ _ hab hba
  exact absurd hba (lt_asymm hab)

/-- The order in which members are given does not matter. -/
theorem ordered_congr {members members' : List (String × Value)} (hperm : members.Perm members')
    (hnames : (members.map Prod.fst).Nodup) : ordered members = ordered members' := by
  have hnames' : (members'.map Prod.fst).Nodup := (hperm.map Prod.fst).nodup_iff.mp hnames
  refine eq_of_inOrder (ordered_inOrder members) (ordered_inOrder members') ?_
  exact ((ordered_perm hnames).trans hperm).trans (ordered_perm hnames').symm

theorem ordered_eq_self {members : List (String × Value)} (h : InOrder members) :
    ordered members = members :=
  eq_of_inOrder (ordered_inOrder members) h (ordered_perm h.nodup)

end ChatGateway.Json.Value
