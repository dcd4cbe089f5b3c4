import ChatGateway.Json.Reader.Record
import ChatGateway.Json.Writer
import ChatGateway.Proofs.Json.Repeat
import ChatGateway.Proofs.Text.Utf8

/-!
# Numbers that are read back

A number has no closing mark: where it ends is settled by what follows.  So a number
that a text ends with is still read when the text goes on, as long as it goes on with
what cannot belong to a number (`number_extends`).  An integer is written with the
digits of its magnitude, and these are gathered back one by one (`spellsNumber_toInt`).
-/

namespace ChatGateway.Json

open Reader Ascii

/-- A text that does not go on with what a number goes on with. -/
def EndsNumber (rest : List UInt8) : Prop :=
  ∀ b ∈ rest.head?, isDigit b = false ∧ b ≠ point ∧ isExponentMark b = false

theorem endsNumber_nil : EndsNumber [] := by simp [EndsNumber]

theorem endsNumber_cons {b : UInt8} {rest : List UInt8} :
    EndsNumber (b :: rest) ↔ isDigit b = false ∧ b ≠ point ∧ isExponentMark b = false := by
  simp [EndsNumber]

/-- What a reader gives stands when its text goes on; a text that is used up may go on
only with what ends a number. -/
def Extends {α : Type} (reader : Reader α) : Prop :=
  ∀ {text a left rest}, (left = [] → EndsNumber rest) → reader text = .ok (a, left) →
    reader (text ++ rest) = .ok (a, left ++ rest)

/-! ## Numbers in longer texts -/

theorem digits_append {rest : List UInt8} :
    ∀ text : List UInt8, ((digits text).2 = [] → EndsNumber rest) →
      digits (text ++ rest) = ((digits text).1, (digits text).2 ++ rest) := by
  intro text
  induction text with
  | nil =>
      intro hrest
      cases rest with
      | nil => rfl
      | cons b rest =>
          have hb := (endsNumber_cons.mp (hrest rfl)).1
          simp [digits, List.span_eq_takeWhile_dropWhile, hb]
  | cons b text ih =>
      intro hrest
      simp only [digits, List.span_eq_takeWhile_dropWhile] at ih hrest ⊢
      cases hb : isDigit b with
      | false => simp [hb]
      | true =>
          have hmore := ih (by simpa [hb] using hrest)
          simp only [Prod.mk.injEq] at hmore
          simp [hb, hmore]

theorem whole_extends (atEnd : Cause) : Extends (whole atEnd) := by
  intro text ds left rest hrest h
  cases text with
  | nil => simp [whole, refuse] at h
  | cons b text =>
      rw [List.cons_append]
      by_cases hzero : b = 0x30
      -- a zero stands alone, so the byte after it is looked at
      · subst hzero
        cases text with
        | nil =>
            simp only [whole, if_true, Except.ok.injEq, Prod.mk.injEq] at h
            obtain ⟨rfl, rfl⟩ := h
            cases rest with
            | nil => rfl
            | cons c rest =>
                have hc := (endsNumber_cons.mp (hrest rfl)).1
                simp [whole, hc]
        | cons c text =>
            simp only [whole, if_true] at h
            by_cases hc : isDigit c
            · simp [hc, refuse] at h
            · simp only [hc, Bool.false_eq_true, if_false, Except.ok.injEq, Prod.mk.injEq] at h
              obtain ⟨rfl, rfl⟩ := h
              simp [whole, hc]
      by_cases hb : isDigit b
      · simp only [whole, hzero, if_false, hb, if_true, Except.ok.injEq, Prod.mk.injEq] at h ⊢
        obtain ⟨rfl, rfl⟩ := h
        rw [digits_append text hrest]
        exact ⟨rfl, rfl⟩
      · simp [whole, hzero, hb, refuse] at h

theorem fraction_extends (atEnd : Cause) : Extends (fraction atEnd) := by
  intro text ds left rest hrest h
  cases text with
  | nil =>
      simp only [fraction, Except.ok.injEq, Prod.mk.injEq] at h
      obtain ⟨rfl, rfl⟩ := h
      cases rest with
      | nil => rfl
      | cons c rest =>
          have hc := (endsNumber_cons.mp (hrest rfl)).2.1
          simp [fraction, hc]
  | cons b text =>
      rw [List.cons_append]
      by_cases hb : b = point
      · simp only [fraction, hb, if_true] at h ⊢
        cases hdigits : digits text with
        | mk places unread =>
            rw [hdigits] at h
            cases places with
            | nil => cases unread <;> simp [refuse, refuseNext] at h
            | cons d places =>
                simp only [Except.ok.injEq, Prod.mk.injEq] at h
                obtain ⟨rfl, rfl⟩ := h
                rw [digits_append text (by rwa [hdigits]), hdigits]
      · simp only [fraction, hb, if_false, Except.ok.injEq, Prod.mk.injEq] at h ⊢
        obtain ⟨rfl, rfl⟩ := h
        exact ⟨rfl, rfl⟩

/-- Reads the digits of an exponent after its sign. -/
def unsignedDigits (atEnd : Cause) (negative : Bool) : Reader (Bool × List UInt8)
  | [] => refuse atEnd []
  | b :: rest =>
    if isDigit b then .ok ((negative, b :: (digits rest).1), (digits rest).2)
    else refuse .invalidNumber rest

/-- An exponent may have a sign. -/
theorem exponentDigits_cons (atEnd : Cause) (b : UInt8) (text : List UInt8) :
    exponentDigits atEnd (b :: text) =
      if b = 0x2B then unsignedDigits atEnd false text
      else if b = 0x2D then unsignedDigits atEnd true text
      else unsignedDigits atEnd false (b :: text) := by
  split
  next hplus => subst hplus; cases text <;> rfl
  split
  next hminus => subst hminus; cases text <;> rfl
  next hplus hminus =>
    unfold exponentDigits
    split
    next hsign =>
      split at hsign
      · simp_all
      · simp_all
      · obtain ⟨rfl, rfl⟩ := Prod.mk.injEq _ _ _ _ ▸ hsign
        rfl

theorem unsignedDigits_extends (atEnd : Cause) (negative : Bool) :
    Extends (unsignedDigits atEnd negative) := by
  intro text a left rest hrest h
  cases text with
  | nil => simp [unsignedDigits, refuse] at h
  | cons b text =>
      by_cases hb : isDigit b
      · simp only [List.cons_append, unsignedDigits, hb, if_true, Except.ok.injEq,
          Prod.mk.injEq] at h ⊢
        obtain ⟨rfl, rfl⟩ := h
        rw [digits_append text hrest]
        exact ⟨rfl, rfl⟩
      · simp [unsignedDigits, hb, refuse] at h

theorem exponentDigits_extends (atEnd : Cause) : Extends (exponentDigits atEnd) := by
  intro text a left rest hrest h
  cases text with
  | nil => simp [exponentDigits, refuse] at h
  | cons b text =>
      rw [List.cons_append, exponentDigits_cons]
      rw [exponentDigits_cons] at h
      by_cases hplus : b = 0x2B
      · rw [if_pos hplus] at h ⊢
        exact unsignedDigits_extends atEnd false hrest h
      rw [if_neg hplus] at h ⊢
      by_cases hminus : b = 0x2D
      · rw [if_pos hminus] at h ⊢
        exact unsignedDigits_extends atEnd true hrest h
      · rw [if_neg hminus] at h ⊢
        exact unsignedDigits_extends atEnd false hrest h

theorem exponent?_extends (atEnd : Cause) : Extends (exponent? atEnd) := by
  intro text a left rest hrest h
  cases text with
  | nil =>
      simp only [exponent?, Except.ok.injEq, Prod.mk.injEq] at h
      obtain ⟨rfl, rfl⟩ := h
      cases rest with
      | nil => rfl
      | cons c rest =>
          have hc := (endsNumber_cons.mp (hrest rfl)).2.2
          simp [exponent?, hc]
  | cons b text =>
      rw [List.cons_append]
      by_cases hb : isExponentMark b
      · simp only [exponent?, hb, if_true] at h ⊢
        cases hdigits : exponentDigits atEnd text with
        | error fault => simp [hdigits] at h
        | ok read =>
            simp only [hdigits, Except.ok.injEq, Prod.mk.injEq] at h
            obtain ⟨rfl, rfl⟩ := h
            rw [exponentDigits_extends atEnd hrest hdigits]
      · simp only [exponent?, hb, Bool.false_eq_true, if_false, Except.ok.injEq,
          Prod.mk.injEq] at h ⊢
        obtain ⟨rfl, rfl⟩ := h
        exact ⟨rfl, rfl⟩

theorem literal_extends (atEnd : Cause) (negative : Bool) : Extends (literal atEnd negative) := by
  intro text a left rest hrest h
  unfold literal at h ⊢
  cases hwhole : whole atEnd text with
  | error fault => simp [hwhole] at h
  | ok read =>
      obtain ⟨ds, text₁⟩ := read
      simp only [hwhole] at h
      cases hfraction : fraction atEnd text₁ with
      | error fault => simp [hfraction] at h
      | ok read =>
          obtain ⟨places, text₂⟩ := read
          simp only [hfraction] at h
          cases hexponent : exponent? atEnd text₂ with
          | error fault => simp [hexponent] at h
          | ok read =>
              simp only [hexponent, Except.ok.injEq, Prod.mk.injEq] at h
              obtain ⟨rfl, rfl⟩ := h
              -- a part that uses up the text leaves nothing to those after it
              have hends₂ : text₂ = [] → EndsNumber rest := by
                rintro rfl
                exact hrest (by simp [exponent?] at hexponent; simp [← hexponent])
              have hends₁ : text₁ = [] → EndsNumber rest := by
                rintro rfl
                exact hends₂ (by simp [fraction] at hfraction; simp [hfraction])
              simp only [whole_extends atEnd hends₁ hwhole,
                fraction_extends atEnd hends₂ hfraction, exponent?_extends atEnd hrest hexponent]

theorem floatOf_unread {negative : Bool} {significand : UInt64} {power : Int}
    {unread : List UInt8} {n : Number} (h : floatOf negative significand power unread = .ok n)
    (unread' : List UInt8) : floatOf negative significand power unread' = .ok n := by
  unfold floatOf at h ⊢
  cases hscale : Decimal.scale? significand power with
  | none => simp [hscale, refuse] at h
  | some x => simpa [hscale] using h

/-- The value of a number does not depend on what follows it. -/
theorem value_unread {number : Literal} {unread : List UInt8} {n : Number}
    (h : number.value unread = .ok n) (unread' : List UInt8) : number.value unread' = .ok n := by
  unfold Literal.value at h ⊢
  dsimp only at h ⊢
  split at h
  next hwhole => rwa [if_pos hwhole]
  next hwhole =>
    rw [if_neg hwhole]
    cases hexponent : number.exponent with
    | none =>
        simp only [hexponent] at h ⊢
        exact floatOf_unread h unread'
    | some exponent =>
        simp only [hexponent] at h ⊢
        cases hvalue : exponentValue 0 exponent.2 with
        | ok e =>
            simp only [hvalue] at h ⊢
            exact floatOf_unread h unread'
        | error moreDigits =>
            simp only [hvalue] at h ⊢
            split at h
            next hzero => rwa [if_pos hzero]
            · simp [refuse] at h

theorem magnitude_extends (negative : Bool) : Extends (magnitude negative) := by
  intro text n left rest hrest h
  unfold magnitude at h ⊢
  cases hliteral : literal .endInValue negative text with
  | error fault => simp [hliteral] at h
  | ok read =>
      simp only [hliteral] at h
      cases hvalue : read.1.value read.2 with
      | error fault => simp [hvalue] at h
      | ok m =>
          simp only [hvalue, Except.ok.injEq, Prod.mk.injEq] at h
          obtain ⟨rfl, rfl⟩ := h
          simp only [literal_extends .endInValue negative hrest hliteral, value_unread hvalue]

theorem number_extends (b : UInt8) : Extends (number b) := by
  intro text n left rest hrest h
  unfold number at h ⊢
  split at h
  next hminus =>
    rw [if_pos hminus]
    exact magnitude_extends true hrest h
  next hminus =>
    rw [if_neg hminus]
    exact magnitude_extends false hrest h

/-! ## Texts of numbers -/

/-- A text that a number is read off, blanks before it aside, whatever ends it. -/
def SpellsNumber (text : List UInt8) (n : Number) : Prop :=
  ∃ b more, skipBlanks text = b :: more ∧ (b = minus ∨ isDigit b) ∧
    ∀ rest, EndsNumber rest → number b (more ++ rest) = .ok (n, rest)

/-- A text that is a number to its end spells that number. -/
theorem spellsNumber_of_number {text more : List UInt8} {b : UInt8} {n : Number}
    (hfirst : skipBlanks text = b :: more) (hb : b = minus ∨ isDigit b)
    (hread : number b more = .ok (n, [])) : SpellsNumber text n :=
  ⟨b, more, hfirst, hb, fun _ hrest => number_extends b (fun _ => hrest) hread⟩

/-- A number does not begin with a byte that is no minus sign and no digit. -/
theorem ne_of_begins {b c : UInt8} (hb : b = minus ∨ isDigit b) (hminus : c ≠ minus)
    (hdigit : isDigit c = false) : b ≠ c := by
  rintro rfl
  rcases hb with hb | hb
  · exact hminus hb
  · rw [hdigit] at hb
    contradiction

end ChatGateway.Json
