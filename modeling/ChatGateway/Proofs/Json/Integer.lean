import ChatGateway.Proofs.Json.Number

/-!
# Written integers are read back

An integer is written with the decimal digits of its magnitude (`decimal`), without
zeros in front.  The reader takes the digits apart and gathers them into a significand
one by one; as long as the magnitude fits 64 bits, none is left over
(`gather_decimal`).  So every integer that a JSON number can hold is read back as
itself (`spellsNumber_whole`).
-/

namespace ChatGateway.Json

open Reader Ascii

/-! ## Decimal digits -/

/-- The decimal digits of a number, the greatest first. -/
def decimal (n : Nat) : List Nat :=
  if n < 10 then [n] else decimal (n / 10) ++ [n % 10]
termination_by n
decreasing_by omega

theorem decimal_of_lt {n : Nat} (h : n < 10) : decimal n = [n] := by
  rw [decimal, if_pos h]

theorem decimal_of_le {n : Nat} (h : 10 ≤ n) : decimal n = decimal (n / 10) ++ [n % 10] := by
  rw [decimal, if_neg (Nat.not_lt.mpr h)]

theorem lt_of_mem_decimal {n d : Nat} (h : d ∈ decimal n) : d < 10 := by
  induction n using decimal.induct with
  | case1 n hlt =>
      rw [decimal_of_lt hlt, List.mem_singleton] at h
      omega
  | case2 n hge ih =>
      rw [decimal_of_le (Nat.not_lt.mp hge), List.mem_append, List.mem_singleton] at h
      rcases h with h | h
      · exact ih h
      · omega

theorem toDigits_eq_decimal (n : Nat) : Nat.toDigits 10 n = (decimal n).map Nat.digitChar := by
  induction n using decimal.induct with
  | case1 n hlt => rw [decimal_of_lt hlt, Nat.toDigits_of_lt_base hlt]; rfl
  | case2 n hge ih =>
      have hle := Nat.not_lt.mp hge
      rw [decimal_of_le hle, Nat.toDigits_of_base_le (by decide) hle, ih, List.map_append]
      rfl

theorem bytes_ofList_digits {ds : List Nat} (h : ∀ d ∈ ds, d < 10) :
    Utf8.bytes (String.ofList (ds.map Nat.digitChar)) = ds.map Utf8.digitByte := by
  have hdigit : ∀ d ∈ ds, String.utf8EncodeChar d.digitChar = [Utf8.digitByte d] := by
    intro d hd
    exact Utf8.encode_digitChar d (by have := h d hd; omega)
  rw [Utf8.bytes_ofList, List.flatMap_map, List.flatMap_congr hdigit, ← List.map_eq_flatMap]

theorem bytes_toString (n : Nat) :
    Utf8.bytes (toString n) = (decimal n).map Utf8.digitByte := by
  rw [Nat.toString_eq_ofList_toDigits, toDigits_eq_decimal,
    bytes_ofList_digits fun d hd => lt_of_mem_decimal hd]

/-- The number that digits stand for, after those that stand for `value`. -/
def ofDecimal (value : Nat) (ds : List Nat) : Nat := ds.foldl (fun value d => value * 10 + d) value

theorem ofDecimal_decimal (n : Nat) : ofDecimal 0 (decimal n) = n := by
  induction n using decimal.induct with
  | case1 n hlt => simp [decimal_of_lt hlt, ofDecimal]
  | case2 n hge ih =>
      rw [decimal_of_le (Nat.not_lt.mp hge), ofDecimal, List.foldl_append]
      unfold ofDecimal at ih
      rw [ih, List.foldl_cons, List.foldl_nil]
      omega

theorem le_ofDecimal (ds : List Nat) : ∀ value, value ≤ ofDecimal value ds := by
  induction ds with
  | nil => exact fun value => Nat.le_refl value
  | cons d ds ih =>
      intro value
      have hmore := ih (value * 10 + d)
      have hcons : ofDecimal value (d :: ds) = ofDecimal (value * 10 + d) ds := rfl
      omega

/-- Only zero is written with a zero in front. -/
theorem decimal_eq_cons (n : Nat) :
    ∃ d ds, decimal n = d :: ds ∧ (d = 0 → ds = []) := by
  induction n using decimal.induct with
  | case1 n hlt => exact ⟨n, [], decimal_of_lt hlt, fun _ => rfl⟩
  | case2 n hge ih =>
      obtain ⟨d, ds, hcons, hzero⟩ := ih
      refine ⟨d, ds ++ [n % 10], ?_, ?_⟩
      · rw [decimal_of_le (Nat.not_lt.mp hge), hcons, List.cons_append]
      · rintro rfl
        have hvalue := ofDecimal_decimal (n / 10)
        rw [hcons, hzero rfl] at hvalue
        simp only [ofDecimal, List.foldl_cons, List.foldl_nil] at hvalue
        omega

/-! ## Reading digits -/

theorem digit?_digitByte : ∀ d < 10, digit? (Utf8.digitByte d) = some d := by decide

theorem isBlank_digitByte : ∀ d < 10, isBlank (Utf8.digitByte d) = false := by decide

theorem digitByte_eq_zero : ∀ d < 10, Utf8.digitByte d = 0x30 → d = 0 := by decide

theorem isDigit_digitByte {d : Nat} (h : d < 10) : isDigit (Utf8.digitByte d) = true := by
  rw [isDigit, digit?_digitByte d h]
  rfl

/-- A digit that still fits is put behind the others without a wrap. -/
theorem toNat_putDigit {s : UInt64} {d : Nat} (h : s.toNat * 10 + d < UInt64.size) :
    (s * 10 + d.toUInt64).toNat = s.toNat * 10 + d := by
  have hsize : UInt64.size = 18446744073709551616 := rfl
  simp only [UInt64.toNat_add, UInt64.toNat_mul, Nat.toUInt64, UInt64.toNat_ofNat',
    UInt64.reduceToNat]
  omega

theorem gather_ofDecimal (ds : List Nat) :
    ∀ s : UInt64, ofDecimal s.toNat ds < UInt64.size →
      gather s ds = (UInt64.ofNat (ofDecimal s.toNat ds), []) := by
  induction ds with
  | nil =>
      intro s _
      simp [gather, ofDecimal]
  | cons d ds ih =>
      intro s hlt
      have hcons : ofDecimal s.toNat (d :: ds) = ofDecimal (s.toNat * 10 + d) ds := rfl
      -- later digits only make the value greater, so this one fits already
      have hfits : s.toNat * 10 + d < UInt64.size :=
        Nat.lt_of_le_of_lt (le_ofDecimal ds _) (hcons ▸ hlt)
      have hnext := toNat_putDigit hfits
      rw [gather, if_pos hfits, ih _ (by rw [hnext]; exact hcons ▸ hlt), hnext, hcons]

theorem gather_decimal {n : Nat} (h : n < UInt64.size) :
    gather 0 (decimal n) = (UInt64.ofNat n, []) := by
  have hgather := gather_ofDecimal (decimal n) 0
  rw [UInt64.toNat_zero, ofDecimal_decimal] at hgather
  exact hgather h

theorem digits_digitByte {ds : List Nat} (h : ∀ d ∈ ds, d < 10) :
    digits (ds.map Utf8.digitByte) = (ds.map Utf8.digitByte, []) := by
  have hall : ∀ b ∈ ds.map Utf8.digitByte, isDigit b = true := by
    simp only [List.forall_mem_map]
    exact fun d hd => isDigit_digitByte (h d hd)
  rw [digits, List.span_eq_takeWhile_dropWhile, List.takeWhile_eq_self_iff.mpr hall,
    List.dropWhile_eq_nil_iff.mpr hall]

theorem digitValues_digitByte {ds : List Nat} (h : ∀ d ∈ ds, d < 10) :
    digitValues (ds.map Utf8.digitByte) = ds := by
  induction ds with
  | nil => rfl
  | cons d ds ih =>
      obtain ⟨hd, hds⟩ := List.forall_mem_cons.mp h
      have hmore := ih hds
      rw [digitValues] at hmore ⊢
      rw [List.map_cons, List.filterMap_cons_some (digit?_digitByte d hd), hmore]

theorem whole_decimal (atEnd : Cause) (n : Nat) :
    whole atEnd ((decimal n).map Utf8.digitByte) = .ok (decimal n, []) := by
  have hlt : ∀ d ∈ decimal n, d < 10 := fun d hd => lt_of_mem_decimal hd
  obtain ⟨d, ds, hcons, hzero⟩ := decimal_eq_cons n
  rw [hcons] at hlt ⊢
  by_cases hd : d = 0
  · rw [hzero hd, hd]
    rfl
  have hdigit := isDigit_digitByte (hlt d List.mem_cons_self)
  have hne : Utf8.digitByte d ≠ 0x30 := fun h =>
    hd (digitByte_eq_zero d (hlt d List.mem_cons_self) h)
  have hmore := digits_digitByte (List.forall_mem_cons.mp hlt).2
  have hvalues := digitValues_digitByte hlt
  rw [List.map_cons] at hvalues ⊢
  simp only [whole, hne, if_false, hdigit, if_true, hmore, hvalues]

/-- A magnitude that fits 64 bits is read back from its digits. -/
theorem magnitude_decimal (negative : Bool) {n : Nat} (h : n < UInt64.size) :
    magnitude negative ((decimal n).map Utf8.digitByte) =
      .ok (wholeValue negative (UInt64.ofNat n), []) := by
  have hliteral : literal .endInValue negative ((decimal n).map Utf8.digitByte) =
      .ok (⟨negative, decimal n, [], none⟩, []) := by
    rw [literal, whole_decimal]
    rfl
  rw [magnitude, hliteral]
  simp [Literal.value, gather_decimal h, Literal.isWhole]

/-! ## Integers -/

theorem wholeValue_ofNat {n : Nat} {w : Whole} (h : w.toInt = Int.ofNat n) :
    wholeValue false (UInt64.ofNat n) = .whole w := by
  have hlt : n < UInt64.size := by
    have hupper := w.upper
    have hsize : UInt64.size = 18446744073709551616 := rfl
    rw [h, Int.ofNat_eq_natCast] at hupper
    omega
  have htoInt : (((UInt64.ofNat n).toNat : Nat) : Int) = w.toInt := by
    rw [UInt64.toNat_ofNat_of_lt' hlt, h]
    rfl
  simp only [wholeValue, Bool.false_eq_true, if_false, Number.whole.injEq]
  cases w
  simp only [Whole.mk.injEq]
  exact htoInt

theorem wholeValue_negSucc {n : Nat} {w : Whole} (h : w.toInt = Int.negSucc n) :
    wholeValue true (UInt64.ofNat (n + 1)) = .whole w := by
  have hlt : n + 1 < UInt64.size := by
    have hlower := w.lower
    have hsize : UInt64.size = 18446744073709551616 := rfl
    omega
  have htoNat : (UInt64.ofNat (n + 1)).toNat = n + 1 := UInt64.toNat_ofNat_of_lt' hlt
  have hne : UInt64.ofNat (n + 1) ≠ 0 := by
    intro h0
    rw [h0] at htoNat
    simp at htoNat
  have hof : Whole.ofInt? (-((n + 1 : Nat) : Int)) = some w := by
    have hself := Whole.ofInt?_toInt w
    rwa [h] at hself
  simp only [wholeValue, if_true, hne, if_false, htoNat, hof]

/-- **A written integer is read back.** -/
theorem spellsNumber_whole (w : Whole) :
    SpellsNumber (Utf8.bytes (toString w.toInt)) (.whole w) := by
  have hlower := w.lower
  have hupper := w.upper
  have hsize : UInt64.size = 18446744073709551616 := rfl
  cases hw : w.toInt with
  | ofNat n =>
      rw [hw, Int.ofNat_eq_natCast] at hupper
      have hread := magnitude_decimal false (show n < UInt64.size by omega)
      obtain ⟨d, ds, hcons, -⟩ := decimal_eq_cons n
      have hlt : d < 10 := lt_of_mem_decimal (hcons ▸ List.mem_cons_self)
      have hbytes : Utf8.bytes (toString (Int.ofNat n)) =
          Utf8.digitByte d :: ds.map Utf8.digitByte := by
        rw [← List.map_cons, ← hcons, ← bytes_toString]
        rfl
      have hdigit := isDigit_digitByte hlt
      have hne : Utf8.digitByte d ≠ minus := by
        intro h
        rw [h] at hdigit
        exact absurd hdigit (by decide)
      rw [hbytes]
      refine spellsNumber_of_number (skipBlanks_cons (isBlank_digitByte d hlt) _)
        (Or.inr hdigit) ?_
      rw [number, if_neg hne, ← List.map_cons, ← hcons, hread, wholeValue_ofNat hw]
  | negSucc n =>
      rw [hw] at hlower
      have hread := magnitude_decimal true (show n + 1 < UInt64.size by omega)
      have hbytes : Utf8.bytes (toString (Int.negSucc n)) =
          minus :: (decimal (n + 1)).map Utf8.digitByte := by
        have hsign : toString (Int.negSucc n) = "-" ++ toString (n + 1) := rfl
        rw [hsign, Utf8.bytes_append, bytes_toString]
        rfl
      rw [hbytes]
      refine spellsNumber_of_number (skipBlanks_cons (by decide) _) (Or.inl rfl) ?_
      rw [number, if_pos rfl, hread, wholeValue_negSucc hw]

end ChatGateway.Json
