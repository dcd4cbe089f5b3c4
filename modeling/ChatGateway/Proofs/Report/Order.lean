import ChatGateway.Report.FieldError
import ChatGateway.Proofs.Text.Order

/-!
# The order of reports

Segments and locations are linearly ordered: `Segment.compare` and
`Location.compare` are transitive comparisons under which only equal things
compare as equal.  So reports on distinct places have one sorted list only, and
`FieldError.sort` finds it: any list that holds the same reports in strictly
increasing order of their places is the sorted one
(`FieldError.sort_eq_of_strict`).

Reports on one place keep their order (`FieldError.filter_sort`).  So the sorted list is
settled by the reports on each place, in whatever order the places come
(`FieldError.sort_congr`).
-/

namespace ChatGateway

namespace Segment

theorem compare_swap (a b : Segment) : a.compare b = (b.compare a).swap := by
  cases a <;> cases b <;> simp only [compare, Ordering.swap]
  · exact Std.OrientedOrd.eq_swap
  · exact Std.OrientedOrd.eq_swap

instance : Std.OrientedCmp Segment.compare where
  eq_swap := compare_swap _ _

instance : Std.TransCmp Segment.compare where
  isLE_trans {a b c} hab hbc := by
    cases a <;> cases b <;> cases c <;> simp only [compare] at hab hbc ⊢
    all_goals first
      | exact Std.TransOrd.isLE_trans hab hbc
      | rfl
      | contradiction

instance : Std.LawfulEqCmp Segment.compare where
  compare_self {a} := by cases a <;> simp [compare]
  eq_of_compare {a b} h := by
    cases a <;> cases b <;> simp [compare] at h
    · rw [h]
    · rw [h]

theorem compare_self (a : Segment) : a.compare a = .eq :=
  Std.ReflCmp.compare_self

/-- The order of segments: names by their bytes, then indexes by number. -/
inductive Before : Segment → Segment → Prop where
  | names {s t : String} (h : Utf8.bytes s < Utf8.bytes t) : Before (.name s) (.name t)
  | nameIndex (s : String) (n : Nat) : Before (.name s) (.index n)
  | indexes {m n : Nat} (h : m < n) : Before (.index m) (.index n)

theorem before_of_compare_eq_lt {a b : Segment} (h : a.compare b = .lt) : a.Before b := by
  cases a with
  | name s =>
      cases b with
      | name t => exact .names (Utf8.bytes_lt_bytes (compare_lt_iff_lt.mp h))
      | index n => exact .nameIndex s n
  | index m =>
      cases b with
      | name t => contradiction
      | index n => exact .indexes (Nat.compare_eq_lt.mp h)

end Segment

namespace Location

/-- Locations are compared segment by segment. -/
theorem compare_eq_compareLex (a b : Location) :
    compare a b = List.compareLex Segment.compare a b := by
  induction a generalizing b with
  | nil => cases b <;> simp [compare, List.compareLex]
  | cons x a ih =>
      cases b with
      | nil => simp [compare, List.compareLex]
      | cons y b =>
          simp only [compare, List.compareLex]
          cases x.compare y with
          | eq => exact ih b
          | lt => rfl
          | gt => rfl

theorem compare_eq : compare = List.compareLex Segment.compare := by
  funext a b
  exact compare_eq_compareLex a b

instance : Std.TransCmp Location.compare := by
  rw [compare_eq]
  infer_instance

instance : Std.LawfulEqCmp Location.compare := by
  rw [compare_eq]
  infer_instance

theorem compare_swap (a b : Location) : compare a b = (compare b a).swap :=
  Std.OrientedCmp.eq_swap

theorem compare_self (a : Location) : compare a a = .eq :=
  Std.ReflCmp.compare_self

theorem le_eq_isLE (a b : Location) : a.le b = (compare a b).isLE := by
  unfold le
  cases compare a b <;> rfl

theorem le_trans {a b c : Location} (hab : a.le b) (hbc : b.le c) : a.le c := by
  rw [le_eq_isLE] at hab hbc ⊢
  exact Std.TransCmp.isLE_trans hab hbc

theorem le_total (a b : Location) : a.le b || b.le a := by
  rw [le_eq_isLE, le_eq_isLE, compare_swap b a]
  cases compare a b <;> rfl

theorem le_antisymm {a b : Location} (hab : a.le b) (hba : b.le a) : a = b := by
  rw [le_eq_isLE] at hab hba
  exact Std.LawfulEqCmp.eq_of_compare (Std.OrientedCmp.isLE_antisymm hab hba)

theorem le_of_compare_lt {a b : Location} (h : compare a b = .lt) : a.le b := by
  rw [le_eq_isLE, h]
  rfl

theorem ne_of_compare_lt {a b : Location} (h : compare a b = .lt) : a ≠ b := by
  rintro rfl
  rw [compare_self] at h
  contradiction

/-- Places are compared by the first segments in which they differ, and a place comes
before those that continue it. -/
theorem lex_of_compare_eq_lt {a b : Location} (h : compare a b = .lt) :
    List.Lex Segment.Before a b := by
  induction a generalizing b with
  | nil =>
      cases b with
      | nil => contradiction
      | cons y b => exact .nil
  | cons x a ih =>
      cases b with
      | nil => contradiction
      | cons y b =>
          simp only [compare] at h
          cases hxy : x.compare y with
          | lt => exact .rel (Segment.before_of_compare_eq_lt hxy)
          | eq =>
              obtain rfl := Std.LawfulEqCmp.eq_of_compare hxy
              rw [hxy] at h
              exact .cons (ih h)
          | gt =>
              rw [hxy] at h
              contradiction

theorem eq_or_lex_of_le {a b : Location} (h : a.le b) : a = b ∨ List.Lex Segment.Before a b := by
  rw [le_eq_isLE] at h
  cases hab : compare a b with
  | lt => exact Or.inr (lex_of_compare_eq_lt hab)
  | eq => exact Or.inl (Std.LawfulEqCmp.eq_of_compare hab)
  | gt =>
      rw [hab] at h
      contradiction

theorem le_refl (a : Location) : a.le a := by
  rw [le_eq_isLE, compare_self]
  rfl

/-- Places are compared by what follows a way that they share. -/
theorem compare_append (way a b : Location) : compare (way ++ a) (way ++ b) = compare a b := by
  induction way with
  | nil => rfl
  | cons x way ih =>
      simp only [List.cons_append, compare, Segment.compare_self]
      exact ih

end Location

namespace FieldError

/-- Whether a report stands at an earlier place than another. -/
def Before (a b : FieldError) : Prop := a.loc.compare b.loc = .lt

theorem sort_perm (errors : List FieldError) : (sort errors).Perm errors :=
  List.mergeSort_perm _ _

theorem sort_pairwise (errors : List FieldError) :
    (sort errors).Pairwise fun a b => a.loc.le b.loc := by
  apply List.pairwise_mergeSort
  · intro a b c hab hbc
    exact Location.le_trans hab hbc
  · intro a b
    exact Location.le_total a.loc b.loc

theorem eq_of_loc_eq {errors : List FieldError} (strict : errors.Pairwise Before)
    {a b : FieldError} (ha : a ∈ errors) (hb : b ∈ errors) (hloc : a.loc = b.loc) : a = b := by
  have hnodup : (errors.map FieldError.loc).Nodup :=
    List.pairwise_map.mpr (strict.imp fun h => Location.ne_of_compare_lt h)
  exact List.inj_on_of_nodup_map hnodup ha hb hloc

/-- Reports in strictly increasing order of their places are what sorting any
arrangement of them yields. -/
theorem sort_eq_of_strict {errors sorted : List FieldError} (hperm : errors.Perm sorted)
    (strict : sorted.Pairwise Before) : sort errors = sorted := by
  have hsorted : sorted.Pairwise fun a b => a.loc.le b.loc :=
    strict.imp fun h => Location.le_of_compare_lt h
  have hsame : (sort errors).Perm sorted := (sort_perm errors).trans hperm
  -- sorting could only swap reports on the same place, and there are no two of them
  refine hsame.eq_of_pairwise ?_ (sort_pairwise errors) hsorted
  intro a b ha hb hab hba
  exact eq_of_loc_eq strict (hsame.subset ha) hb (Location.le_antisymm hab hba)

/-! ## Reports on one place -/

/-- Whether a report is on a place. -/
def isAt (loc : Location) (e : FieldError) : Bool := e.loc = loc

/-- Sorting keeps the order of the reports on one place. -/
theorem filter_sort (errors : List FieldError) (loc : Location) :
    (sort errors).filter (isAt loc) = errors.filter (isAt loc) := by
  have hsame : ((sort errors).filter (isAt loc)).Perm (errors.filter (isAt loc)) :=
    (sort_perm errors).filter _
  have hordered : (errors.filter (isAt loc)).Pairwise fun a b => a.loc.le b.loc := by
    refine List.pairwise_of_forall_mem_list fun a ha b hb => ?_
    have hloc (e) (he : e ∈ errors.filter (isAt loc)) : e.loc = loc := by
      simpa [isAt] using (List.mem_filter.mp he).2
    rw [hloc a ha, hloc b hb]
    exact Location.le_refl loc
  -- reports that are in order already are found in their order in the sorted list
  have hkept : (errors.filter (isAt loc)).Sublist (sort errors) := by
    refine List.sublist_mergeSort ?_ ?_ hordered List.filter_sublist
    · intro a b c hab hbc
      exact Location.le_trans hab hbc
    · intro a b
      exact Location.le_total a.loc b.loc
  have hsub := hkept.filter (isAt loc)
  rw [List.filter_filter] at hsub
  simp only [Bool.and_self] at hsub
  exact (hsub.eq_of_length hsame.length_eq.symm).symm

theorem mem_of_filter_eq {as bs : List FieldError}
    (h : ∀ loc, as.filter (isAt loc) = bs.filter (isAt loc)) {e : FieldError} (he : e ∈ as) :
    e ∈ bs := by
  have hat : e ∈ as.filter (isAt e.loc) := List.mem_filter.mpr ⟨he, by simp [isAt]⟩
  rw [h] at hat
  exact (List.mem_filter.mp hat).1

theorem head_le {a : FieldError} {as : List FieldError}
    (h : (a :: as).Pairwise fun a b => a.loc.le b.loc) {e : FieldError} (he : e ∈ a :: as) :
    a.loc.le e.loc := by
  rcases List.mem_cons.mp he with rfl | hmore
  · exact Location.le_refl e.loc
  · exact List.rel_of_pairwise_cons h hmore

/-- Reports in the order of their places are settled by the reports on each place. -/
theorem eq_of_filter_eq {as bs : List FieldError} (ha : as.Pairwise fun a b => a.loc.le b.loc)
    (hb : bs.Pairwise fun a b => a.loc.le b.loc)
    (h : ∀ loc, as.filter (isAt loc) = bs.filter (isAt loc)) : as = bs := by
  induction as generalizing bs with
  | nil =>
      cases bs with
      | nil => rfl
      | cons b bs => simpa using mem_of_filter_eq (fun loc => (h loc).symm) List.mem_cons_self
  | cons a as ih =>
      cases bs with
      | nil => simpa using mem_of_filter_eq h List.mem_cons_self
      | cons b bs =>
          -- both begin with the first report on the least place
          have hloc : a.loc = b.loc := Location.le_antisymm
            (head_le ha (mem_of_filter_eq (fun loc => (h loc).symm) List.mem_cons_self))
            (head_le hb (mem_of_filter_eq h List.mem_cons_self))
          have hfirst := h a.loc
          simp only [List.filter_cons, isAt, hloc, decide_true, if_true] at hfirst
          obtain rfl := (List.cons.inj hfirst).1
          refine congrArg _ (ih ha.of_cons hb.of_cons fun loc => ?_)
          have hmore := h loc
          rw [List.filter_cons, List.filter_cons] at hmore
          split at hmore
          · exact (List.cons.inj hmore).2
          · exact hmore

theorem sort_congr {errors errors' : List FieldError}
    (h : ∀ loc, errors.filter (isAt loc) = errors'.filter (isAt loc)) :
    sort errors = sort errors' := by
  refine eq_of_filter_eq (sort_pairwise errors) (sort_pairwise errors') fun loc => ?_
  rw [filter_sort, filter_sort, h loc]

end FieldError

end ChatGateway
