import ChatGateway.Json.Reader.Value
import Mathlib

/-!
# Readings that stay inside their text

A refusal has a place only if what it leaves unread is really the end of the text that was
read.  A reading `KeepsTo` a text if that is so, be it done or refused, and a reader `Keeps`
if all its readings keep to their texts.

Readers are put together in few ways: one reading goes on where another has ended
(`KeepsTo.mono`), the first byte behind the blanks decides (`keepsTo_blanks`), or a step is
repeated (`repeatWithin_induct`).  A reader made in these ways keeps because its parts do.
-/

namespace ChatGateway.Json.Reader

variable {α β σ : Type} {text text' : List UInt8}

/-- What a reading leaves unread is the end of the text. -/
def KeepsTo (text : List UInt8) : Except Fault (α × List UInt8) → Prop
  | .ok read => read.2 <:+ text
  | .error fault => fault.unread <:+ text

/-- Every reading keeps to its text. -/
def Keeps (reader : Reader α) : Prop := ∀ text, KeepsTo text (reader text)

/-! ## One reading after another -/

theorem KeepsTo.mono {outcome : Except Fault (α × List UInt8)} (h : KeepsTo text outcome)
    (htext : text <:+ text') : KeepsTo text' outcome := by
  cases outcome with
  | error fault => exact List.IsSuffix.trans h htext
  | ok read => exact List.IsSuffix.trans h htext

/-- A reading of the text behind a byte keeps to the text with that byte. -/
theorem KeepsTo.cons {outcome : Except Fault (α × List UInt8)} (h : KeepsTo text outcome)
    (b : UInt8) : KeepsTo (b :: text) outcome :=
  h.mono (List.suffix_cons b text)

theorem KeepsTo.suffix_of_ok {outcome : Except Fault (α × List UInt8)} (h : KeepsTo text outcome)
    {a : α} {rest : List UInt8} (heq : outcome = .ok (a, rest)) : rest <:+ text := by
  rw [heq] at h
  exact h

theorem KeepsTo.suffix_of_error {outcome : Except Fault (α × List UInt8)} (h : KeepsTo text outcome)
    {fault : Fault} (heq : outcome = .error fault) : fault.unread <:+ text := by
  rw [heq] at h
  exact h

theorem KeepsTo.map {reader : Reader α} {rest : List UInt8} (h : KeepsTo text (reader rest))
    (f : α → β) : KeepsTo text (map f reader rest) := by
  unfold Reader.map
  split
  next fault hread => exact h.suffix_of_error hread
  next a rest' hread => exact h.suffix_of_ok hread

theorem keeps_map {reader : Reader α} (h : Keeps reader) (f : α → β) : Keeps (map f reader) :=
  fun text => (h text).map f

/-! ## Blanks and words -/

/-- A text that ends in its blanks is refused at its end, and any other is read from its
first byte that is no blank. -/
theorem keepsTo_blanks (text : List UInt8) {cause : Cause} {reader : UInt8 → Reader α}
    (h : ∀ b rest, KeepsTo (b :: rest) (reader b rest)) :
    KeepsTo text (match skipBlanks text with
      | [] => refuse cause []
      | b :: rest => reader b rest) := by
  cases hblanks : skipBlanks text with
  | nil => exact List.nil_suffix
  | cons b rest =>
      have hrest : b :: rest <:+ text := hblanks ▸ List.dropWhile_suffix isBlank
      exact (h b rest).mono hrest

theorem keeps_expectWord (word : List UInt8) : Keeps (expectWord word) := by
  induction word with
  | nil =>
      intro text
      cases text with
      | nil => exact List.suffix_rfl
      | cons b text => exact List.suffix_rfl
  | cons expected word ih =>
      intro text
      cases text with
      | nil => exact List.suffix_rfl
      | cons b text =>
          rw [expectWord]
          split
          · exact (ih text).cons b
          · exact List.suffix_cons b text

/-! ## Repetition -/

section

variable {step : σ → Reader (Turn σ β)} {I : σ → List UInt8 → Prop}
  {Q : Except Fault (β × List UInt8) → Prop}

/-- What every step that goes on preserves, and what follows from it where the steps end:
where one is done, where one refuses, and where no more rounds are left. -/
theorem repeatWithin_induct
    (hagain : ∀ {state state' text rest}, I state text →
      step state text = .ok (.again state', rest) → I state' rest)
    (hdone : ∀ {state text result rest}, I state text →
      step state text = .ok (.done result, rest) → Q (.ok (result, rest)))
    (hrefused : ∀ {state text fault}, I state text →
      step state text = .error fault → Q (.error fault))
    (hspent : ∀ {state text}, I state text → Q (refuse .endInValue text))
    (fuel : List UInt8) :
    ∀ {state : σ} {text : List UInt8}, I state text → Q (repeatWithin step fuel state text) := by
  induction fuel with
  | nil =>
      intro state text hI
      rw [repeatWithin]
      cases hstep : step state text with
      | error fault => exact hrefused hI hstep
      | ok read =>
          obtain ⟨turn, rest⟩ := read
          cases turn with
          | done result => exact hdone hI hstep
          | again state' => exact hspent (hagain hI hstep)
  | cons b fuel ih =>
      intro state text hI
      rw [repeatWithin]
      cases hstep : step state text with
      | error fault => exact hrefused hI hstep
      | ok read =>
          obtain ⟨turn, rest⟩ := read
          cases turn with
          | done result => exact hdone hI hstep
          | again state' => exact ih (hagain hI hstep)

/-- Steps that keep are repeated by a reader that keeps. -/
theorem keeps_repeatedly (h : ∀ state, Keeps (step state)) (state : σ) :
    Keeps (repeatedly step state) := by
  intro text
  let I (_ : σ) (rest : List UInt8) : Prop := rest <:+ text
  refine repeatWithin_induct (I := I) ?_ ?_ ?_ ?_ text (List.suffix_refl text)
  · intro state state' rest rest' hrest hstep
    exact ((h state rest).suffix_of_ok hstep).trans hrest
  · intro state rest result rest' hrest hstep
    exact ((h state rest).suffix_of_ok hstep).trans hrest
  · intro state rest fault hrest hstep
    exact ((h state rest).suffix_of_error hstep).trans hrest
  · intro state rest hrest
    exact hrest

end

end ChatGateway.Json.Reader
