import ChatGateway.Proofs.Json.Located
import ChatGateway.Proofs.Json.Taken.Number

/-!
# Numbers are read inside their bytes

The form of a number is settled from the front, so each part of it keeps to its bytes.  Its
range is settled only when all of it has been taken, and then an exponent that is too great
is refused at the digit that makes it so: the digits behind that one are put back in front
of the rest.  They are the last digits of the number (`suffix_of_literal`), so this place
lies in the text as well (`keeps_number`).
-/

namespace ChatGateway.Json.Reader

open Ascii (isDigit)

variable {text rest : List UInt8}

/-! ## The parts of a number -/

theorem digits_suffix (text : List UInt8) : (digits text).2 <:+ text :=
  ⟨(digits text).1, (eq_of_digits text).2.symm⟩

theorem keeps_whole (atEnd : Cause) : Keeps (whole atEnd) := by
  intro text
  unfold whole
  split
  · exact List.suffix_rfl
  next b text =>
    refine KeepsTo.cons ?_ b
    split
    · split
      · exact List.suffix_rfl
      next c rest =>
        split
        · exact List.suffix_cons c rest
        · exact List.suffix_rfl
    split
    · exact digits_suffix text
    · exact List.suffix_rfl

theorem keeps_fraction (atEnd : Cause) : Keeps (fraction atEnd) := by
  intro text
  unfold fraction
  split
  · exact List.suffix_rfl
  next b text =>
    split
    · refine KeepsTo.cons ?_ b
      have hrest := digits_suffix text
      split
      · exact List.nil_suffix
      next unread _ hdigits =>
        have hunread : unread <:+ text := by simpa only [hdigits] using hrest
        exact (List.drop_suffix 1 unread).trans hunread
      next places rest _ _ hdigits =>
        rw [hdigits] at hrest
        exact hrest
    · exact List.suffix_rfl

theorem keeps_unsignedDigits (atEnd : Cause) (negative : Bool) :
    Keeps (unsignedDigits atEnd negative) := by
  intro text
  unfold unsignedDigits
  split
  · exact List.nil_suffix
  next b text =>
    refine KeepsTo.cons ?_ b
    split
    · exact digits_suffix text
    · exact List.suffix_rfl

theorem keeps_exponentDigits (atEnd : Cause) : Keeps (exponentDigits atEnd) := by
  intro text
  cases text with
  | nil => exact List.nil_suffix
  | cons b text =>
      rw [exponentDigits_cons]
      split
      · exact (keeps_unsignedDigits atEnd false text).cons b
      split
      · exact (keeps_unsignedDigits atEnd true text).cons b
      · exact keeps_unsignedDigits atEnd false (b :: text)

theorem keeps_exponent? (atEnd : Cause) : Keeps (exponent? atEnd) := by
  intro text
  unfold exponent?
  split
  · exact List.suffix_rfl
  next b text =>
    split
    · refine KeepsTo.cons ?_ b
      split
      next fault hdigits => exact (keeps_exponentDigits atEnd text).suffix_of_error hdigits
      next exponent rest hdigits => exact (keeps_exponentDigits atEnd text).suffix_of_ok hdigits
    · exact List.suffix_rfl

theorem keeps_literal (atEnd : Cause) (negative : Bool) : Keeps (literal atEnd negative) := by
  intro text
  unfold literal
  split
  next fault hwhole => exact (keeps_whole atEnd text).suffix_of_error hwhole
  next ds text₁ hwhole =>
    refine KeepsTo.mono ?_ ((keeps_whole atEnd text).suffix_of_ok hwhole)
    split
    next fault hfraction => exact (keeps_fraction atEnd text₁).suffix_of_error hfraction
    next places text₂ hfraction =>
      refine KeepsTo.mono ?_ ((keeps_fraction atEnd text₁).suffix_of_ok hfraction)
      split
      next fault hexponent => exact (keeps_exponent? atEnd text₂).suffix_of_error hexponent
      next exponent text₃ hexponent => exact (keeps_exponent? atEnd text₂).suffix_of_ok hexponent

/-! ## The digits of an exponent -/

theorem eq_of_unsignedDigits {atEnd : Cause} {negative : Bool} {exponent : Bool × List UInt8}
    (h : unsignedDigits atEnd negative text = .ok (exponent, rest)) :
    exponent.2 ++ rest = text := by
  unfold unsignedDigits at h
  split at h
  · contradiction
  next b text =>
    split at h
    · simp only [Except.ok.injEq, Prod.mk.injEq] at h
      obtain ⟨rfl, rfl⟩ := h
      rw [List.cons_append, ← (eq_of_digits text).2]
    · contradiction

theorem suffix_of_exponentDigits {atEnd : Cause} {exponent : Bool × List UInt8}
    (h : exponentDigits atEnd text = .ok (exponent, rest)) : exponent.2 ++ rest <:+ text := by
  cases text with
  | nil => contradiction
  | cons b text =>
      rw [exponentDigits_cons] at h
      split at h
      · exact eq_of_unsignedDigits h ▸ List.suffix_cons b text
      split at h
      · exact eq_of_unsignedDigits h ▸ List.suffix_cons b text
      · exact eq_of_unsignedDigits h ▸ List.suffix_rfl

theorem suffix_of_exponent? {atEnd : Cause} {exponent : Bool × List UInt8}
    (h : exponent? atEnd text = .ok (some exponent, rest)) : exponent.2 ++ rest <:+ text := by
  unfold exponent? at h
  split at h
  · simp at h
  next b text =>
    split at h
    · split at h
      · contradiction
      next hdigits =>
        simp only [Except.ok.injEq, Prod.mk.injEq, Option.some.injEq] at h
        obtain ⟨rfl, rfl⟩ := h
        exact (suffix_of_exponentDigits hdigits).trans (List.suffix_cons b text)
    · simp at h

/-- The digits of an exponent are the last ones of its number. -/
theorem suffix_of_literal {atEnd : Cause} {negative : Bool} {number : Literal}
    (h : literal atEnd negative text = .ok (number, rest)) :
    ∀ exponent ∈ number.exponent, exponent.2 ++ rest <:+ text := by
  intro exponent hexponent
  unfold literal at h
  split at h
  · contradiction
  next ds text₁ hwhole =>
    have htext₁ := (keeps_whole atEnd text).suffix_of_ok hwhole
    split at h
    · contradiction
    next places text₂ hfraction =>
      have htext₂ := (keeps_fraction atEnd text₁).suffix_of_ok hfraction
      split at h
      · contradiction
      next exponent' text₃ hread =>
        simp only [Except.ok.injEq, Prod.mk.injEq] at h
        obtain ⟨rfl, rfl⟩ := h
        obtain rfl : exponent' = some exponent := hexponent
        exact (suffix_of_exponent? hread).trans (htext₂.trans htext₁)

/-- The digits behind the one at which an exponent grows too great. -/
theorem suffix_of_exponentValue {value : Nat} {ds more : List UInt8}
    (h : exponentValue value ds = .error more) : more <:+ ds := by
  induction ds generalizing value with
  | nil => contradiction
  | cons b ds ih =>
      unfold exponentValue at h
      dsimp only at h
      split at h
      · exact (ih h).trans (List.suffix_cons b ds)
      · exact Except.error.inj h ▸ List.suffix_cons b ds

/-! ## Values -/

theorem unread_of_floatOf {negative : Bool} {significand : UInt64} {power : Int} {fault : Fault}
    (h : floatOf negative significand power rest = .error fault) : fault.unread = rest := by
  unfold floatOf at h
  split at h
  · contradiction
  · exact (congrArg Fault.unread (Except.error.inj h)).symm

/-- A number that is out of range is refused behind it, or in its exponent. -/
theorem suffix_of_value {number : Literal} {fault : Fault} (h : number.value rest = .error fault)
    (hrest : rest <:+ text)
    (hexponent : ∀ exponent ∈ number.exponent, exponent.2 ++ rest <:+ text) :
    fault.unread <:+ text := by
  unfold Literal.value at h
  dsimp only at h
  split at h
  · contradiction
  split at h
  · exact unread_of_floatOf h ▸ hrest
  next negativeExponent ds hds =>
    split at h
    · exact unread_of_floatOf h ▸ hrest
    next more hmore =>
      split at h
      · contradiction
      · obtain rfl := Except.error.inj h
        obtain ⟨before, rfl⟩ := suffix_of_exponentValue hmore
        have hunread : more ++ rest <:+ before ++ more ++ rest := by
          rw [List.append_assoc]
          exact List.suffix_append before _
        exact hunread.trans (hexponent _ hds)

theorem keeps_magnitude (negative : Bool) : Keeps (magnitude negative) := by
  intro text
  unfold magnitude
  split
  next fault hliteral => exact (keeps_literal _ negative text).suffix_of_error hliteral
  next number rest hliteral =>
    have hrest := (keeps_literal _ negative text).suffix_of_ok hliteral
    split
    next fault hvalue => exact suffix_of_value hvalue hrest (suffix_of_literal hliteral)
    next n hvalue => exact hrest

/-- A number keeps to the text that its first byte begins. -/
theorem keepsTo_number (first : UInt8) (text : List UInt8) :
    KeepsTo (first :: text) (number first text) := by
  unfold number
  split
  · exact (keeps_magnitude true text).cons first
  · exact keeps_magnitude false (first :: text)

theorem keepsTo_skipNumber (first : UInt8) (text : List UInt8) :
    KeepsTo (first :: text) (skipNumber first text) := by
  have htext : (if first = minus then text else first :: text) <:+ first :: text := by
    split
    · exact List.suffix_cons first text
    · exact List.suffix_rfl
  unfold skipNumber
  generalize (if first = minus then text else first :: text) = tail at htext ⊢
  refine KeepsTo.mono ?_ htext
  split
  next fault hliteral => exact (keeps_literal _ _ tail).suffix_of_error hliteral
  next number rest hliteral => exact (keeps_literal _ _ tail).suffix_of_ok hliteral

end ChatGateway.Json.Reader
