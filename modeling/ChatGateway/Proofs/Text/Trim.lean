import ChatGateway.Text.Blank
import Mathlib

/-!
# What trimming leaves

Trimming takes the white space off both ends of a text.  `Trims s t` says so without
computing anything: `s` is `t` with white space around it, and `t` neither begins nor ends
with white space.  Each text has exactly one such `t`, and `Text.trim` finds it
(`trim_eq_iff`), so white space that is added at the ends makes no difference
(`IsPadding.trim_eq`).
-/

namespace ChatGateway.Text

section

variable {p : Char → Bool} {before after cs : List Char}

/-! ## Lists of characters -/

theorem dropWhile_eq_self (h : ∀ c ∈ cs.head?, p c = false) : cs.dropWhile p = cs := by
  cases cs with
  | nil => rfl
  | cons c cs =>
      have hc : p c = false := h c rfl
      rw [List.dropWhile_cons_of_neg (by simp [hc])]

/-- Where dropping stops, there is nothing left to drop. -/
theorem head?_dropWhile (p : Char → Bool) (cs : List Char) :
    ∀ c ∈ (cs.dropWhile p).head?, p c = false := by
  intro c hc
  have hstop := List.head?_dropWhile_not p cs
  rw [Option.mem_def.mp hc] at hstop
  simpa using hstop

theorem trimBoth_padded (hbefore : ∀ c ∈ before, p c = true) (hafter : ∀ c ∈ after, p c = true)
    (cs : List Char) : trimBoth p (before ++ (cs ++ after)) = trimBoth p cs := by
  have hafter' : ∀ c ∈ after.reverse, p c = true := fun c hc => hafter c (List.mem_reverse.mp hc)
  unfold trimBoth
  rw [List.dropWhile_append_of_pos hbefore, List.dropWhile_append]
  split
  next hnone =>
    -- nothing but what is trimmed: all of it goes with what stands before it
    rw [List.isEmpty_iff.mp hnone, List.dropWhile_eq_nil_iff.mpr hafter]
  · rw [List.reverse_append, List.dropWhile_append_of_pos hafter']

theorem trimBoth_eq_self (hhead : ∀ c ∈ cs.head?, p c = false)
    (hlast : ∀ c ∈ cs.getLast?, p c = false) : trimBoth p cs = cs := by
  have hlast' : ∀ c ∈ cs.reverse.head?, p c = false := by
    rw [List.head?_reverse]
    exact hlast
  rw [trimBoth, dropWhile_eq_self hhead, dropWhile_eq_self hlast', List.reverse_reverse]

theorem getLast?_trimBoth (p : Char → Bool) (cs : List Char) :
    ∀ c ∈ (trimBoth p cs).getLast?, p c = false := by
  rw [trimBoth, List.getLast?_reverse]
  exact head?_dropWhile p _

theorem exists_after_trimBoth (p : Char → Bool) (cs : List Char) :
    ∃ after, (∀ c ∈ after, p c = true) ∧ cs.dropWhile p = trimBoth p cs ++ after :=
  ⟨(cs.dropWhile p).rtakeWhile p, fun _ hc => List.mem_rtakeWhile_imp hc,
    List.rdropWhile_append_rtakeWhile.symm⟩

theorem head?_trimBoth (p : Char → Bool) (cs : List Char) :
    ∀ c ∈ (trimBoth p cs).head?, p c = false := by
  intro c hc
  obtain ⟨after, -, hsplit⟩ := exists_after_trimBoth p cs
  -- what is left at the end begins like what is left at the front
  apply head?_dropWhile p cs c
  rw [hsplit, List.head?_append, Option.mem_def.mp hc]
  rfl

end

/-! ## Texts -/

/-- `padded` is the text `s` with white space around it. -/
def IsPadding (s padded : String) : Prop :=
  ∃ before after : List Char, (∀ c ∈ before, isBlank c = true) ∧ (∀ c ∈ after, isBlank c = true) ∧
    padded.toList = before ++ (s.toList ++ after)

/-- The text `t` is what is left of `s` without the white space at its ends. -/
structure Trims (s t : String) : Prop where
  padding : IsPadding t s
  head : ∀ c ∈ t.toList.head?, isBlank c = false
  last : ∀ c ∈ t.toList.getLast?, isBlank c = false

theorem IsPadding.trim_eq {s padded : String} (h : IsPadding s padded) :
    trim padded = trim s := by
  obtain ⟨before, after, hbefore, hafter, hpadded⟩ := h
  rw [trim, trim, hpadded, trimBoth_padded hbefore hafter]

theorem trims_trim (s : String) : Trims s (trim s) := by
  have hlist : (trim s).toList = trimBoth isBlank s.toList := String.toList_ofList
  refine ⟨?_, ?_, ?_⟩
  · obtain ⟨after, hafter, hsplit⟩ := exists_after_trimBoth isBlank s.toList
    refine ⟨s.toList.takeWhile isBlank, after, fun c hc => List.mem_takeWhile_imp hc, hafter, ?_⟩
    rw [hlist, ← hsplit, List.takeWhile_append_dropWhile]
  · rw [hlist]
    exact head?_trimBoth isBlank s.toList
  · rw [hlist]
    exact getLast?_trimBoth isBlank s.toList

/-- **Trimming finds the one text that is left.** -/
theorem trim_eq_iff {s t : String} : trim s = t ↔ Trims s t := by
  constructor
  · rintro rfl
    exact trims_trim s
  · rintro ⟨hpadding, hhead, hlast⟩
    rw [hpadding.trim_eq, trim, trimBoth_eq_self hhead hlast, String.ofList_toList]

end ChatGateway.Text
