import ChatGateway.Proofs.Json.Literal

/-!
# Which literals are integers

A literal is read as an integer only if it has no fraction and no exponent, and only if none
of its digits is left over when they are gathered into 64 bits; then it is the integer that
its digits stand for (`numberOf?_parts`).  So the digits of an integer are never read as
another one, however many there are (`toInt_of_numberOf?`), and what is written as a float
is one (`numberOf?_ne_whole`).
-/

namespace ChatGateway.Json

open Reader Ascii

/-! ## Gathering digits -/

/-- Digits that are all gathered are gathered without a wrap. -/
theorem toNat_of_gather {ds : List Nat} {s s' : UInt64} (h : gather s ds = (s', [])) :
    s'.toNat = ofDecimal s.toNat ds := by
  induction ds generalizing s with
  | nil =>
      obtain ⟨rfl, -⟩ := Prod.mk.inj h
      rfl
  | cons d ds ih =>
      rw [gather] at h
      split at h
      next hfits =>
        rw [ih h, toNat_putDigit hfits]
        rfl
      · have hleft := (Prod.mk.inj h).2
        contradiction

/-- The integer that a magnitude stands for, with its sign. -/
def signed (negative : Bool) (n : Nat) : Int := if negative then -n else n

theorem toInt_of_wholeValue {negative : Bool} {magnitude : UInt64} {w : Whole}
    (h : wholeValue negative magnitude = .whole w) : w.toInt = signed negative magnitude.toNat := by
  unfold wholeValue at h
  split at h
  next hnegative =>
    split at h
    · contradiction
    split at h
    next n hn =>
      obtain rfl := Number.whole.inj h
      rw [signed, if_pos hnegative]
      exact Whole.toInt_of_ofInt? hn
    · contradiction
  next hnegative =>
    obtain rfl := Number.whole.inj h
    rw [signed, if_neg hnegative]

/-! ## The value of a literal -/

theorem floatOf_ne_whole {negative : Bool} {significand : UInt64} {power : Int}
    {unread : List UInt8} {w : Whole} :
    floatOf negative significand power unread ≠ .ok (.whole w) := by
  unfold floatOf
  split <;> simp [refuse]

/-- A literal that comes to an integer is written as one, and all of its digits are gathered. -/
theorem value_eq_whole {number : Literal} {unread : List UInt8} {w : Whole}
    (h : number.value unread = .ok (.whole w)) :
    number.isWhole = true ∧ w.toInt = signed number.negative (ofDecimal 0 number.whole) := by
  unfold Literal.value at h
  cases hgather : gather 0 number.whole with
  | mk significand left =>
      simp only [hgather] at h
      split at h
      next hwhole =>
        simp only [Bool.and_eq_true, List.isEmpty_iff] at hwhole
        obtain ⟨hform, rfl⟩ := hwhole
        refine ⟨hform, ?_⟩
        rw [toInt_of_wholeValue (Except.ok.inj h), toNat_of_gather hgather]
        rfl
      · split at h
        · exact absurd h floatOf_ne_whole
        · split at h
          · exact absurd h floatOf_ne_whole
          · split at h
            · cases Except.ok.inj h
            · contradiction

/-- What a literal is read as, with its sign. -/
theorem numberOf?_eq_some {text : List UInt8} {negative : Bool} {n : Number} (h : IsMagnitude text)
    (hread : Tree.numberOf? (if negative then minus :: text else text) = some n) :
    ∃ rest, magnitude negative text = .ok (n, rest) := by
  have hmagnitude : (magnitude negative text).toOption.map Prod.fst = some n := by
    cases negative with
    | true => simpa [Tree.numberOf?, number] using hread
    | false =>
        obtain ⟨b, more, rfl, hb⟩ := h.exists_cons
        have hne : b ≠ minus := by
          rintro rfl
          contradiction
        simpa [Tree.numberOf?, number, hne] using hread
  obtain ⟨read, hsome, rfl⟩ := Option.map_eq_some_iff.mp hmagnitude
  exact ⟨read.2, toOption_eq_some_iff.mp hsome⟩

/-- **A literal is an integer only if it is written as one**, and then it is the integer of
its digits. -/
theorem numberOf?_parts {negative : Bool} {ws fs es : List UInt8} (hwhole : IsWholePart ws)
    (hfraction : IsFraction fs) (hexponent : IsExponent es) {w : Whole}
    (h : Tree.numberOf? (if negative then minus :: (ws ++ (fs ++ es)) else ws ++ (fs ++ es)) =
      some (.whole w)) :
    fs = [] ∧ es = [] ∧ w.toInt = signed negative (ofDecimal 0 (digitValues ws)) := by
  obtain ⟨rest, hmagnitude⟩ := numberOf?_eq_some (.parts hwhole hfraction hexponent) h
  obtain ⟨ds, exponent, hliteral, hnil, hnone⟩ :=
    literal_parts .endInValue negative hwhole hfraction hexponent endsNumber_nil
  rw [List.append_nil] at hliteral
  unfold magnitude at hmagnitude
  simp only [hliteral] at hmagnitude
  split at hmagnitude
  · contradiction
  next n hvalue =>
    obtain ⟨rfl, -⟩ := Prod.mk.inj (Except.ok.inj hmagnitude)
    obtain ⟨hform, hint⟩ := value_eq_whole hvalue
    simp only [Literal.isWhole, Bool.and_eq_true, List.isEmpty_iff, Option.isNone_iff_eq_none]
      at hform
    exact ⟨hnil hform.1, hnone hform.2, hint⟩

/-! ## Integers and floats -/

theorem ofDecimal_digitValues (n : Nat) :
    ofDecimal 0 (digitValues ((decimal n).map Utf8.digitByte)) = n := by
  rw [digitValues_digitByte fun d hd => lt_of_mem_decimal hd, ofDecimal_decimal]

/-- **The digits of an integer are not read as another one.** -/
theorem toInt_of_numberOf? {n : Int} {w : Whole}
    (h : Tree.numberOf? (Utf8.bytes (toString n)) = some (.whole w)) : w.toInt = n := by
  have hparts {negative : Bool} {m : Nat}
      (hbytes : Utf8.bytes (toString n) = if negative then
        minus :: (decimal m).map Utf8.digitByte else (decimal m).map Utf8.digitByte) :
      w.toInt = signed negative m := by
    have hread := @numberOf?_parts negative _ [] [] (isWholePart_decimal m) (.inl rfl) (.inl rfl) w
    rw [List.append_nil, List.append_nil, ← hbytes, ofDecimal_digitValues] at hread
    exact (hread h).2.2
  cases n with
  | ofNat m =>
      have hbytes : Utf8.bytes (toString (Int.ofNat m)) = (decimal m).map Utf8.digitByte :=
        bytes_toString m
      exact @hparts false m hbytes
  | negSucc m =>
      have hsign : toString (Int.negSucc m) = "-" ++ toString (m + 1) := rfl
      have hbytes : Utf8.bytes (toString (Int.negSucc m)) =
          minus :: (decimal (m + 1)).map Utf8.digitByte := by
        rw [hsign, Utf8.bytes_append, bytes_toString]
        rfl
      exact @hparts true (m + 1) hbytes

/-- The literals with a fraction or an exponent. -/
inductive IsFloatLiteral : List UInt8 → Prop where
  | parts (negative : Bool) {ws fs es : List UInt8} (hwhole : IsWholePart ws)
      (hfraction : IsFraction fs) (hexponent : IsExponent es) (hfloat : fs ≠ [] ∨ es ≠ []) :
      IsFloatLiteral (if negative then minus :: (ws ++ (fs ++ es)) else ws ++ (fs ++ es))

theorem IsFloatLiteral.isLiteral {literal : List UInt8} (h : IsFloatLiteral literal) :
    IsLiteral literal := by
  obtain ⟨negative, hwhole, hfraction, hexponent, -⟩ := h
  cases negative with
  | true => exact .negative (.parts hwhole hfraction hexponent)
  | false => exact .positive (.parts hwhole hfraction hexponent)

/-- What is written as a float is not read as an integer, even if its value is one. -/
theorem IsFloatLiteral.numberOf?_ne_whole {literal : List UInt8} (h : IsFloatLiteral literal)
    (w : Whole) : Tree.numberOf? literal ≠ some (.whole w) := by
  obtain ⟨negative, hwhole, hfraction, hexponent, hfloat⟩ := h
  intro hread
  obtain ⟨rfl, rfl, -⟩ := numberOf?_parts hwhole hfraction hexponent hread
  simp at hfloat

end ChatGateway.Json
