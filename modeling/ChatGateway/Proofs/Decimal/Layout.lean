import ChatGateway.Decimal.Layout
import ChatGateway.Proofs.Json.Literal

/-!
# Written floats are literals

A float is written as a literal of JSON (`isLiteral_format`).  Every layout puts
digits on both sides of its point, so all that could go wrong is a zero in front of other
digits.  It would take a decimal that is zero at a power of ten that is not negative, and
no such decimal is the shortest one of a float (`shortest_pos`).
-/

namespace ChatGateway.Decimal

open Json Json.Reader

/-! ## The shortest decimal is no zero -/

namespace Binary

variable {x : Binary} {d : Nat} {p : Int}

/-- Zero rounds to no double but zero. -/
theorem pos_of_holds (hm : 0 < x.m) (h : x.holds d p = true) : 0 < d := by
  refine Nat.pos_of_ne_zero ?_
  rintro rfl
  have hlow : 0 < 4 * x.m - (if x.narrowBelow then 1 else 2) := by split <;> omega
  simp only [holds] at h
  -- the lower bound is positive, so that zero is below it
  by_cases heven : x.m % 2 = 0
  · rw [if_pos heven, Bool.and_eq_true_iff, scaledLe, decide_eq_true_eq, Nat.zero_mul,
      Nat.zero_mul] at h
    exact Nat.not_lt.mpr h.1 (Nat.mul_pos (Nat.mul_pos hlow (Nat.pow_pos two_pos))
      (Nat.pow_pos (by decide)))
  · simp [heven, scaledLe] at h

theorem holds_of_onGrid? {decimal : Scaled} (h : x.onGrid? p = some decimal) :
    x.holds decimal.digits decimal.p = true := by
  simp only [onGrid?] at h
  split at h
  next hbelow habove =>
    obtain rfl := Option.some.inj h
    split
    · exact hbelow
    · exact habove
  next hbelow _ =>
    obtain rfl := Option.some.inj h
    exact hbelow
  next _ habove =>
    obtain rfl := Option.some.inj h
    exact habove
  · contradiction

/-- What is found on a grid rounds to the double, unless the grids have run out. -/
theorem firstGrid_cases (steps : Nat) :
    x.holds (x.firstGrid p steps).digits (x.firstGrid p steps).p = true ∨
      (x.firstGrid p steps).p = p - steps := by
  induction steps generalizing p with
  | zero =>
      refine Or.inr ?_
      simp [firstGrid]
  | succ steps ih =>
      unfold firstGrid
      cases hgrid : x.onGrid? p with
      | some decimal => exact Or.inl (holds_of_onGrid? hgrid)
      | none =>
          refine (ih (p := p - 1)).imp_right fun hp => ?_
          rw [hp]
          omega

/-- The shortest decimal has a digit that is no zero, or places behind the point. -/
theorem shortest_pos (hm : 0 < x.m) : 0 < x.shortest.digits ∨ x.shortest.p < 0 := by
  rcases x.firstGrid_cases (p := x.ceiling) (x.ceiling + 1076) with hholds | hp
  · exact Or.inl (pos_of_holds hm hholds)
  · refine Or.inr ?_
    rw [shortest, hp]
    omega

/-- Bits that are not all zero are those of a double that is no zero. -/
theorem ofBits_pos {bits : UInt64} (hne : bits.toNat ≠ 0) (hlt : bits.toNat < signBit) :
    0 < (ofBits bits).m := by
  have hfractions : fractions = 4503599627370496 := rfl
  have hexponents : exponents = 2048 := rfl
  have hsign : signBit = 9223372036854775808 := rfl
  unfold ofBits
  simp only [hfractions, hexponents]
  split
  next hzero => dsimp only; omega
  · exact Nat.lt_of_lt_of_le (by decide) (Nat.le_add_right _ _)

end Binary

/-! ## Digits around a point -/

theorem lt_of_mem_zeros {count d : Nat} (h : d ∈ List.replicate count 0) : d < 10 := by
  rw [List.eq_of_mem_replicate h]
  decide

theorem bytes_zeros (count : Nat) :
    Utf8.bytes (zeros count) = (List.replicate count 0).map Utf8.digitByte := by
  have hzeros : zeros count = String.ofList ((List.replicate count 0).map Nat.digitChar) := by
    rw [List.map_replicate]
    rfl
  rw [hzeros, bytes_ofList_digits fun d hd => lt_of_mem_zeros hd]

theorem isFraction_map {ds : List Nat} (hne : ds ≠ []) (hds : ∀ d ∈ ds, d < 10) :
    IsFraction (point :: ds.map Utf8.digitByte) :=
  Or.inr ⟨_, isDigits_map hne hds, rfl⟩

theorem isWholePart_digit {d : Nat} (h : d < 10) : IsWholePart ([d].map Utf8.digitByte) :=
  isWholePart_map (by simpa using h) fun _ => rfl

theorem isExponent_power {mark : String} (hmark : mark = "e+" ∨ mark = "e-") (n : Nat) :
    IsExponent (Utf8.bytes (mark ++ toString n)) := by
  have hdigits := (isWholePart_decimal n).1
  rw [Utf8.bytes_append, bytes_toString]
  rcases hmark with rfl | rfl
  · exact Or.inr ⟨0x65, [0x2B], _, rfl, Or.inr (Or.inl rfl), hdigits, rfl⟩
  · exact Or.inr ⟨0x65, [0x2D], _, rfl, Or.inr (Or.inr rfl), hdigits, rfl⟩

variable {ds : List Nat}

/-- Digits below one, behind their zeros. -/
theorem isMagnitude_below (hne : ds ≠ []) (hds : ∀ d ∈ ds, d < 10) (count : Nat) :
    IsMagnitude (Utf8.bytes ("0." ++ zeros count ++ String.ofList (ds.map Nat.digitChar))) := by
  have hfraction : IsFraction (point :: (List.replicate count 0 ++ ds).map Utf8.digitByte) :=
    isFraction_map (by simp [hne]) fun d hd =>
      (List.mem_append.mp hd).elim lt_of_mem_zeros (hds d)
  have hzero : Utf8.bytes "0." = [0].map Utf8.digitByte ++ [point] := by decide
  have hparts := IsMagnitude.parts (isWholePart_digit (show 0 < 10 by decide)) hfraction
    (Or.inl rfl)
  rw [Utf8.bytes_append, Utf8.bytes_append, bytes_zeros, bytes_ofList_digits hds, hzero]
  simpa using hparts

/-- Digits on both sides of a point. -/
theorem isMagnitude_between {d : Nat} {places : List Nat} (hds : ∀ d' ∈ d :: ds, d' < 10)
    (hzero : d = 0 → ds = []) (hne : places ≠ []) (hplaces : ∀ d' ∈ places, d' < 10) :
    IsMagnitude (Utf8.bytes (String.ofList ((d :: ds).map Nat.digitChar) ++ "." ++
      String.ofList (places.map Nat.digitChar))) := by
  have hpoint : Utf8.bytes "." = [point] := by decide
  have hparts := IsMagnitude.parts (isWholePart_map hds hzero) (isFraction_map hne hplaces)
    (Or.inl rfl)
  rw [Utf8.bytes_append, Utf8.bytes_append, bytes_ofList_digits hds, bytes_ofList_digits hplaces,
    hpoint]
  simpa using hparts

/-- Digits of a whole number, with zeros behind them. -/
theorem isMagnitude_above {d : Nat} (hds : ∀ d' ∈ d :: ds, d' < 10) (hpos : d ≠ 0) (count : Nat) :
    IsMagnitude (Utf8.bytes (String.ofList ((d :: ds).map Nat.digitChar) ++ zeros count ++
      standard.wholeEnd)) := by
  have hall : ∀ d' ∈ d :: (ds ++ List.replicate count 0), d' < 10 := by
    intro d' hd'
    rw [← List.cons_append] at hd'
    exact (List.mem_append.mp hd').elim (hds d') lt_of_mem_zeros
  have hend : Utf8.bytes standard.wholeEnd = point :: [0].map Utf8.digitByte := by decide
  have hparts := IsMagnitude.parts (isWholePart_map hall fun hd => absurd hd hpos)
    (isFraction_map (List.cons_ne_nil 0 []) (by decide)) (Or.inl rfl)
  rw [Utf8.bytes_append, Utf8.bytes_append, bytes_ofList_digits hds, bytes_zeros, hend]
  simpa using hparts

/-- A first digit, the places behind it and an exponent. -/
theorem isMagnitude_exponent {d : Nat} (hds : ∀ d' ∈ d :: ds, d' < 10) {power : List UInt8}
    (hpower : IsExponent power) :
    IsMagnitude (Utf8.bytes (match (d :: ds).map Nat.digitChar with
      | [] => ""
      | [c] => String.singleton c
      | c :: cs => String.singleton c ++ "." ++ String.ofList cs) ++ power) := by
  obtain ⟨hd, hds⟩ := List.forall_mem_cons.mp hds
  have hfirst : Utf8.bytes (String.singleton d.digitChar) = [d].map Utf8.digitByte := by
    rw [Utf8.bytes_singleton]
    exact Utf8.encode_digitChar d (by omega)
  cases ds with
  | nil =>
      have hparts := IsMagnitude.parts (isWholePart_digit hd) (Or.inl rfl) hpower
      simp only [List.map_cons, List.map_nil, hfirst]
      exact hparts
  | cons d' ds =>
      have hparts := IsMagnitude.parts (isWholePart_digit hd)
        (isFraction_map (List.cons_ne_nil d' ds) hds) hpower
      have hpoint : Utf8.bytes "." = [point] := by decide
      have hplaces := bytes_ofList_digits hds
      rw [List.map_cons] at hplaces
      simp only [List.map_cons, Utf8.bytes_append, hfirst, hplaces, hpoint]
      simpa using hparts

/-! ## Layouts -/

/-- A decimal that is not zero at a power of ten that is not negative is written as a
literal. -/
theorem isMagnitude_write {decimal : Scaled} (hpos : 0 < decimal.digits ∨ decimal.p < 0) :
    IsMagnitude (Utf8.bytes (standard.write decimal)) := by
  obtain ⟨d, ds, hcons, hzero⟩ := decimal_eq_cons decimal.digits
  have hds : ∀ d' ∈ d :: ds, d' < 10 := fun d' hd' => lt_of_mem_decimal (hcons ▸ hd')
  have hdigits : Nat.toDigits 10 decimal.digits = (d :: ds).map Nat.digitChar := by
    rw [toDigits_eq_decimal, hcons]
  simp only [Layout.write, hdigits, List.length_map]
  split
  · split
    · exact isMagnitude_below (List.cons_ne_nil d ds) hds _
    next hwhole =>
      split
      next hp =>
        -- so many digits stand before the point, and the others behind it
        obtain ⟨k, hk⟩ : ∃ k : Nat, (((d :: ds).length : Int) + decimal.p).toNat = k + 1 :=
          Nat.exists_eq_succ_of_ne_zero (by omega)
        have hplaces : ds.drop k ≠ [] := by
          rw [Ne, List.drop_eq_nil_iff]
          simp only [List.length_cons] at hk
          omega
        have hparts := @isMagnitude_between (ds.take k) d (ds.drop k)
          (fun d' hd' => hds d' (by
            rw [← List.take_succ_cons] at hd'
            exact List.mem_of_mem_take hd'))
          (fun hd => by rw [hzero hd, List.take_nil]) hplaces
          fun d' hd' => hds d' (List.mem_cons_of_mem d (List.mem_of_mem_drop hd'))
        rw [hk, ← List.map_take, ← List.map_drop, List.take_succ_cons, List.drop_succ_cons]
        exact hparts
      next hp =>
        refine isMagnitude_above hds ?_ _
        rintro rfl
        have hvalue := ofDecimal_decimal decimal.digits
        rw [hcons, hzero rfl] at hvalue
        have : decimal.digits = 0 := hvalue.symm
        omega
  · rw [String.append_assoc, Utf8.bytes_append]
    refine isMagnitude_exponent hds (isExponent_power ?_ _)
    split
    · exact Or.inr rfl
    · exact Or.inl rfl

/-- **A float that is written with digits is written as a literal.** -/
theorem isLiteral_format (x : Float) : IsLiteral (Utf8.bytes (format x)) := by
  have hmod := Nat.mod_lt x.toBits.toNat (show signBit > 0 by decide)
  have hsign : signBit = 9223372036854775808 := rfl
  generalize hmagnitude : x.toBits.toNat % signBit = magnitude at hmod
  have hwritten : ∃ text, IsMagnitude (Utf8.bytes text) ∧
      format x = (if x.toBits.toNat < signBit then "" else "-") ++ text := by
    simp only [format, hmagnitude]
    split
    next hzero =>
      refine ⟨"0" ++ standard.wholeEnd, ?_, String.append_assoc⟩
      exact .parts (isWholePart_digit (show 0 < 10 by decide))
        (isFraction_map (List.cons_ne_nil 0 []) (by decide)) (Or.inl rfl)
    next hzero =>
      refine ⟨_, isMagnitude_write (Binary.shortest_pos ?_), rfl⟩
      have htoNat : magnitude.toUInt64.toNat = magnitude :=
        UInt64.toNat_ofNat_of_lt' (by rw [hsign] at hmod; exact lt_trans hmod (by decide))
      exact Binary.ofBits_pos (by rwa [htoNat]) (by rwa [htoNat])
  obtain ⟨text, htext, hformat⟩ := hwritten
  rw [hformat, Utf8.bytes_append]
  split
  · exact .positive htext
  · exact .negative htext

end ChatGateway.Decimal
