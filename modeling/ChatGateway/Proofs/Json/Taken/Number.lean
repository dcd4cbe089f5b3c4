import ChatGateway.Proofs.Json.Literal

/-!
# What is taken as a number

Only a literal of the grammar is taken as a number, be it read or skipped
(`isLiteral_of_number`, `isLiteral_of_skipNumber`).  Each part of the reader takes one part
of the literal.
-/

namespace ChatGateway.Json

open Reader Ascii

/-! ## The parts of a literal -/

theorem eq_of_digits (text : List UInt8) :
    (∀ b ∈ (digits text).1, isDigit b = true) ∧ text = (digits text).1 ++ (digits text).2 := by
  rw [digits, List.span_eq_takeWhile_dropWhile]
  exact ⟨fun b hb => List.mem_takeWhile_imp hb, (List.takeWhile_append_dropWhile).symm⟩

theorem isDigits_cons_digits {b : UInt8} (hb : isDigit b = true) (text : List UInt8) :
    IsDigits (b :: (digits text).1) :=
  ⟨List.cons_ne_nil _ _, List.forall_mem_cons.mpr ⟨hb, (eq_of_digits text).1⟩⟩

theorem isWholePart_of_whole {atEnd : Cause} {text rest : List UInt8} {ds : List Nat}
    (h : whole atEnd text = .ok (ds, rest)) : ∃ part, IsWholePart part ∧ text = part ++ rest := by
  unfold whole at h
  split at h
  · contradiction
  next b text' =>
    split at h
    next hzero =>
      subst hzero
      have hpart : IsWholePart [0x30] :=
        ⟨⟨List.cons_ne_nil _ _, by simpa using (by decide : isDigit 0x30 = true)⟩, fun _ => rfl⟩
      split at h
      · simp only [Except.ok.injEq, Prod.mk.injEq] at h
        obtain ⟨-, rfl⟩ := h
        exact ⟨[0x30], hpart, rfl⟩
      · split at h
        · contradiction
        · simp only [Except.ok.injEq, Prod.mk.injEq] at h
          obtain ⟨-, rfl⟩ := h
          exact ⟨[0x30], hpart, rfl⟩
    next hzero =>
      split at h
      next hdigit =>
        simp only [Except.ok.injEq, Prod.mk.injEq] at h
        obtain ⟨-, rfl⟩ := h
        refine ⟨b :: (digits text').1, ⟨isDigits_cons_digits hdigit text', fun hhead => ?_⟩, ?_⟩
        · exact absurd (Option.some.inj hhead) hzero
        · rw [List.cons_append, ← (eq_of_digits text').2]
      · contradiction

theorem isFraction_of_fraction {atEnd : Cause} {text rest : List UInt8} {ds : List Nat}
    (h : fraction atEnd text = .ok (ds, rest)) : ∃ part, IsFraction part ∧ text = part ++ rest := by
  unfold fraction at h
  split at h
  · simp only [Except.ok.injEq, Prod.mk.injEq] at h
    obtain ⟨-, rfl⟩ := h
    exact ⟨[], Or.inl rfl, rfl⟩
  next b text' =>
    split at h
    next hpoint =>
      subst hpoint
      have hdigits := eq_of_digits text'
      split at h
      · contradiction
      · contradiction
      next places rest' _ hne heq =>
        simp only [Except.ok.injEq, Prod.mk.injEq] at h
        obtain ⟨-, rfl⟩ := h
        rw [heq] at hdigits
        exact ⟨point :: places, Or.inr ⟨places, ⟨hne, hdigits.1⟩, rfl⟩,
          congrArg _ hdigits.2⟩
    · simp only [Except.ok.injEq, Prod.mk.injEq] at h
      obtain ⟨-, rfl⟩ := h
      exact ⟨[], Or.inl rfl, rfl⟩

theorem exists_of_unsignedDigits {atEnd : Cause} {negative : Bool} {text rest : List UInt8}
    {exponent : Bool × List UInt8} (h : unsignedDigits atEnd negative text = .ok (exponent, rest)) :
    ∃ ds, IsDigits ds ∧ text = ds ++ rest := by
  unfold unsignedDigits at h
  split at h
  · contradiction
  next b text' =>
    split at h
    next hdigit =>
      simp only [Except.ok.injEq, Prod.mk.injEq] at h
      obtain ⟨-, rfl⟩ := h
      refine ⟨b :: (digits text').1, isDigits_cons_digits hdigit text', ?_⟩
      rw [List.cons_append, ← (eq_of_digits text').2]
    · contradiction

theorem exists_of_exponentDigits {atEnd : Cause} {text rest : List UInt8}
    {exponent : Bool × List UInt8} (h : exponentDigits atEnd text = .ok (exponent, rest)) :
    ∃ sign ds, (sign = [] ∨ sign = [0x2B] ∨ sign = [0x2D]) ∧ IsDigits ds ∧
      text = sign ++ (ds ++ rest) := by
  cases text with
  | nil => simp [exponentDigits, refuse] at h
  | cons b text =>
      rw [exponentDigits_cons] at h
      split at h
      next hplus =>
        obtain ⟨ds, hds, rfl⟩ := exists_of_unsignedDigits h
        exact ⟨[b], ds, by simp [hplus], hds, rfl⟩
      split at h
      next hminus =>
        obtain ⟨ds, hds, rfl⟩ := exists_of_unsignedDigits h
        exact ⟨[b], ds, by simp [hminus], hds, rfl⟩
      · obtain ⟨ds, hds, htext⟩ := exists_of_unsignedDigits h
        exact ⟨[], ds, Or.inl rfl, hds, htext⟩

theorem isExponent_of_exponent? {atEnd : Cause} {text rest : List UInt8}
    {exponent : Option (Bool × List UInt8)} (h : exponent? atEnd text = .ok (exponent, rest)) :
    ∃ part, IsExponent part ∧ text = part ++ rest := by
  unfold exponent? at h
  split at h
  · simp only [Except.ok.injEq, Prod.mk.injEq] at h
    obtain ⟨-, rfl⟩ := h
    exact ⟨[], Or.inl rfl, rfl⟩
  next b text' =>
    split at h
    next hmark =>
      split at h
      · contradiction
      next hdigits =>
        simp only [Except.ok.injEq, Prod.mk.injEq] at h
        obtain ⟨-, rfl⟩ := h
        obtain ⟨sign, ds, hsign, hds, rfl⟩ := exists_of_exponentDigits hdigits
        exact ⟨b :: (sign ++ ds), Or.inr ⟨b, sign, ds, hmark, hsign, hds, rfl⟩, by simp⟩
    · simp only [Except.ok.injEq, Prod.mk.injEq] at h
      obtain ⟨-, rfl⟩ := h
      exact ⟨[], Or.inl rfl, rfl⟩

/-! ## Literals -/

theorem isMagnitude_of_literal {atEnd : Cause} {negative : Bool} {text rest : List UInt8}
    {number : Literal} (h : literal atEnd negative text = .ok (number, rest)) :
    ∃ part, IsMagnitude part ∧ text = part ++ rest := by
  unfold literal at h
  split at h
  · contradiction
  next hwhole =>
    split at h
    · contradiction
    next hfraction =>
      split at h
      · contradiction
      next hexponent =>
        simp only [Except.ok.injEq, Prod.mk.injEq] at h
        obtain ⟨-, rfl⟩ := h
        obtain ⟨ws, hws, rfl⟩ := isWholePart_of_whole hwhole
        obtain ⟨fs, hfs, rfl⟩ := isFraction_of_fraction hfraction
        obtain ⟨es, hes, rfl⟩ := isExponent_of_exponent? hexponent
        exact ⟨ws ++ (fs ++ es), .parts hws hfs hes, by simp⟩

/-- The literal of a number, from its first byte on. -/
theorem isLiteral_of_literal {atEnd : Cause} {negative : Bool} {b : UInt8}
    {text rest : List UInt8} {number : Literal}
    (h : literal atEnd negative (if b = minus then text else b :: text) = .ok (number, rest)) :
    ∃ more, IsLiteral (b :: more) ∧ text = more ++ rest := by
  obtain ⟨part, hpart, htext⟩ := isMagnitude_of_literal h
  split at htext
  next hminus => exact ⟨part, hminus ▸ .negative hpart, htext⟩
  · obtain ⟨c, more, rfl, -⟩ := hpart.exists_cons
    obtain ⟨rfl, rfl⟩ := List.cons.inj htext
    exact ⟨more, .positive hpart, rfl⟩

theorem isLiteral_of_number {b : UInt8} {text rest : List UInt8} {n : Number}
    (h : number b text = .ok (n, rest)) : ∃ more, IsLiteral (b :: more) ∧ text = more ++ rest := by
  have hmagnitude : magnitude (b = minus) (if b = minus then text else b :: text) =
      .ok (n, rest) := by
    unfold number at h
    split_ifs at h ⊢ with hminus <;> simpa [hminus] using h
  unfold magnitude at hmagnitude
  split at hmagnitude
  · contradiction
  next hliteral =>
    split at hmagnitude
    · contradiction
    · simp only [Except.ok.injEq, Prod.mk.injEq] at hmagnitude
      obtain ⟨-, rfl⟩ := hmagnitude
      exact isLiteral_of_literal hliteral

theorem isLiteral_of_skipNumber {b : UInt8} {text rest : List UInt8}
    (h : skipNumber b text = .ok ((), rest)) :
    ∃ more, IsLiteral (b :: more) ∧ text = more ++ rest := by
  unfold skipNumber at h
  split at h
  · contradiction
  next hliteral =>
    simp only [Except.ok.injEq, Prod.mk.injEq, true_and] at h
    subst h
    exact isLiteral_of_literal hliteral

end ChatGateway.Json
