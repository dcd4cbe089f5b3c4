import ChatGateway.Proofs.Json.Gives
import ChatGateway.Proofs.Json.Integer

/-!
# Literals of numbers

The grammar of a number has three parts, and the reader takes them one after the other:
each part ends where the next byte cannot go on with it (`literal_isMagnitude`).  So a
literal is taken apart to its end whatever its value; only then is it settled whether
the number is in range.  A reader of numbers refuses a literal that is out of range
(`outcome_number`), a skipping one does not mind (`skipNumber_literal`).
-/

namespace ChatGateway.Json

open Reader Ascii

/-! ## Taking a literal apart -/

/-- The text does not go on with a digit. -/
def EndsDigits (rest : List UInt8) : Prop := ∀ b ∈ rest.head?, isDigit b = false

theorem EndsNumber.endsDigits {rest : List UInt8} (h : EndsNumber rest) : EndsDigits rest :=
  fun b hb => (h b hb).1

theorem digits_eq {ds rest : List UInt8} (hds : ∀ b ∈ ds, isDigit b = true)
    (hrest : EndsDigits rest) : digits (ds ++ rest) = (ds, rest) := by
  have htake : rest.takeWhile isDigit = [] ∧ rest.dropWhile isDigit = rest := by
    cases rest with
    | nil => exact ⟨rfl, rfl⟩
    | cons b rest =>
        have hb := hrest b rfl
        simp [hb]
  rw [digits, List.span_eq_takeWhile_dropWhile, List.takeWhile_append_of_pos hds,
    List.dropWhile_append_of_pos hds, htake.1, htake.2, List.append_nil]

theorem IsDigits.exists_cons {ds : List UInt8} (h : IsDigits ds) :
    ∃ b more, ds = b :: more ∧ isDigit b = true ∧ ∀ b ∈ more, isDigit b = true := by
  cases ds with
  | nil => exact absurd rfl h.1
  | cons b more =>
      obtain ⟨hb, hmore⟩ := List.forall_mem_cons.mp h.2
      exact ⟨b, more, rfl, hb, hmore⟩

theorem whole_isWholePart (atEnd : Cause) {ds rest : List UInt8} (h : IsWholePart ds)
    (hrest : EndsDigits rest) : whole atEnd (ds ++ rest) = .ok (digitValues ds, rest) := by
  obtain ⟨hdigits, hzero⟩ := h
  obtain ⟨b, more, rfl, hb, hmore⟩ := hdigits.exists_cons
  by_cases hb0 : b = 0x30
  -- a zero stands alone
  · subst hb0
    obtain rfl : more = [] := by simpa using hzero rfl
    cases rest with
    | nil => rfl
    | cons c rest =>
        have hc := hrest c rfl
        simp [whole, hc, digitValues, digit?]
  · rw [List.cons_append]
    simp only [whole, if_neg hb0, hb, if_true, digits_eq hmore hrest]

theorem digitValues_ne_nil {ds : List UInt8} (h : IsDigits ds) : digitValues ds ≠ [] := by
  obtain ⟨b, more, rfl, hb, -⟩ := h.exists_cons
  obtain ⟨d, hd⟩ := Option.isSome_iff_exists.mp hb
  rw [digitValues, List.filterMap_cons_some hd]
  exact List.cons_ne_nil _ _

/-- A fraction has digits, unless there is none. -/
theorem fraction_isFraction (atEnd : Cause) {text rest : List UInt8} (h : IsFraction text)
    (hrest : EndsDigits rest) (hpoint : rest.head? ≠ some point) :
    ∃ ds, fraction atEnd (text ++ rest) = .ok (ds, rest) ∧ (ds = [] → text = []) := by
  rcases h with rfl | ⟨ds, hds, rfl⟩
  · refine ⟨[], ?_, fun _ => rfl⟩
    cases rest with
    | nil => rfl
    | cons b rest =>
        have hb : b ≠ point := by simpa using hpoint
        simp [fraction, hb]
  · have hvalues := digitValues_ne_nil hds
    obtain ⟨b, more, rfl, -⟩ := hds.exists_cons
    refine ⟨digitValues (b :: more), ?_, fun hnil => absurd hnil hvalues⟩
    simp only [List.cons_append, fraction, if_true]
    rw [← List.cons_append, digits_eq hds.2 hrest]

/-- An exponent is found, unless there is none. -/
theorem exponent?_isExponent (atEnd : Cause) {text rest : List UInt8} (h : IsExponent text)
    (hrest : EndsNumber rest) :
    ∃ exponent, exponent? atEnd (text ++ rest) = .ok (exponent, rest) ∧
      (exponent = none → text = []) := by
  rcases h with rfl | ⟨mark, sign, ds, hmark, hsign, hds, rfl⟩
  · refine ⟨none, ?_, fun _ => rfl⟩
    cases rest with
    | nil => rfl
    | cons b rest =>
        have hb := (hrest b rfl).2.2
        simp [exponent?, hb]
  · obtain ⟨b, more, rfl, hb, hmore⟩ := hds.exists_cons
    have hunsigned : ∀ negative, unsignedDigits atEnd negative (b :: (more ++ rest)) =
        .ok ((negative, b :: more), rest) := by
      intro negative
      simp only [unsignedDigits, hb, if_true, digits_eq hmore hrest.endsDigits]
    have hne : ∀ {c : UInt8}, isDigit c = false → b ≠ c := by
      rintro c hc rfl
      rw [hb] at hc
      contradiction
    have hexponent : ∃ negative, exponentDigits atEnd (sign ++ (b :: (more ++ rest))) =
        .ok ((negative, b :: more), rest) := by
      rcases hsign with rfl | rfl | rfl
      · refine ⟨false, ?_⟩
        rw [List.nil_append, exponentDigits_cons, if_neg (hne (by decide)),
          if_neg (hne (by decide))]
        exact hunsigned false
      · exact ⟨false, by
          rw [List.singleton_append, exponentDigits_cons, if_pos rfl]
          exact hunsigned false⟩
      · refine ⟨true, ?_⟩
        rw [List.singleton_append, exponentDigits_cons, if_neg (by decide), if_pos rfl]
        exact hunsigned true
    obtain ⟨negative, hexponent⟩ := hexponent
    refine ⟨some (negative, b :: more), ?_, fun hnone => absurd hnone (Option.some_ne_none _)⟩
    simp only [List.cons_append, List.append_assoc, exponent?, hmark, if_true, hexponent]

/-- A part of a number ends where the next part, or what follows the number, begins. -/
theorem IsExponent.endsDigits {text rest : List UInt8} (h : IsExponent text)
    (hrest : EndsNumber rest) :
    EndsDigits (text ++ rest) ∧ (text ++ rest).head? ≠ some point := by
  rcases h with rfl | ⟨mark, sign, ds, hmark, -, -, rfl⟩
  · rw [List.nil_append]
    refine ⟨hrest.endsDigits, fun hpoint => ?_⟩
    exact (hrest point hpoint).2.1 rfl
  · have hcases : mark = 0x65 ∨ mark = 0x45 := by simpa [isExponentMark] using hmark
    rcases hcases with rfl | rfl <;> simp [EndsDigits, isDigit, digit?, point]

theorem IsFraction.endsDigits {text rest : List UInt8} (h : IsFraction text)
    (hrest : EndsDigits rest) : EndsDigits (text ++ rest) := by
  rcases h with rfl | ⟨ds, -, rfl⟩
  · exact hrest
  · simp [EndsDigits, isDigit, digit?, point]

/-- A number without its minus sign is taken apart into its parts. -/
theorem literal_parts (atEnd : Cause) (negative : Bool) {ws fs es : List UInt8}
    (hwhole : IsWholePart ws) (hfraction : IsFraction fs) (hexponent : IsExponent es)
    {rest : List UInt8} (hrest : EndsNumber rest) :
    ∃ ds exponent, literal atEnd negative (ws ++ (fs ++ es) ++ rest) =
        .ok (⟨negative, digitValues ws, ds, exponent⟩, rest) ∧
      (ds = [] → fs = []) ∧ (exponent = none → es = []) := by
  obtain ⟨hends, hpoint⟩ := hexponent.endsDigits hrest
  obtain ⟨ds, hds, hnil⟩ := fraction_isFraction atEnd hfraction hends hpoint
  obtain ⟨exponent, hexponent, hnone⟩ := exponent?_isExponent atEnd hexponent hrest
  refine ⟨ds, exponent, ?_, hnil, hnone⟩
  rw [List.append_assoc, List.append_assoc, literal,
    whole_isWholePart atEnd hwhole (hfraction.endsDigits hends)]
  simp only [hds, hexponent]

/-- A number without its minus sign is taken apart to its end. -/
theorem literal_isMagnitude (atEnd : Cause) (negative : Bool) {text : List UInt8}
    (h : IsMagnitude text) {rest : List UInt8} (hrest : EndsNumber rest) :
    ∃ number, literal atEnd negative (text ++ rest) = .ok (number, rest) := by
  obtain ⟨hwhole, hfraction, hexponent⟩ := h
  obtain ⟨ds, exponent, hliteral, -⟩ :=
    literal_parts atEnd negative hwhole hfraction hexponent hrest
  exact ⟨_, hliteral⟩

/-! ## What a literal comes to -/

/-- Whether a number is in range does not depend on what follows it. -/
theorem toOption_value (number : Literal) (unread unread' : List UInt8) :
    (number.value unread).toOption = (number.value unread').toOption := by
  cases h : number.value unread with
  | ok n => rw [value_unread h unread']
  | error fault =>
      cases h' : number.value unread' with
      | ok n =>
          rw [value_unread h' unread] at h
          contradiction
      | error fault' => rfl

theorem toOption_magnitude (negative : Bool) {text : List UInt8} (h : IsMagnitude text)
    {rest : List UInt8} (hrest : EndsNumber rest) :
    (magnitude negative (text ++ rest)).toOption =
      ((magnitude negative text).toOption.map Prod.fst).map fun n => (n, rest) := by
  obtain ⟨number, hliteral⟩ := literal_isMagnitude .endInValue negative h endsNumber_nil
  rw [List.append_nil] at hliteral
  have hextended := literal_extends .endInValue negative (fun _ => hrest) hliteral
  have hvalue := toOption_value number [] rest
  unfold magnitude
  simp only [hliteral, hextended, List.nil_append]
  cases hshort : number.value [] <;> cases hlong : number.value rest <;>
    simp_all [Except.toOption]

theorem IsMagnitude.exists_cons {text : List UInt8} (h : IsMagnitude text) :
    ∃ b more, text = b :: more ∧ isDigit b = true := by
  cases h with
  | parts hwhole hfraction hexponent =>
      obtain ⟨b, more, rfl, hb, -⟩ := hwhole.1.exists_cons
      exact ⟨b, _, rfl, hb⟩

theorem isBlank_of_begins {b : UInt8} (hb : b = minus ∨ isDigit b = true) :
    isBlank b = false := by
  cases hblank : isBlank b with
  | false => rfl
  | true =>
      simp only [isBlank, Bool.or_eq_true, beq_iff_eq] at hblank
      rcases hblank with ((rfl | rfl) | rfl) | rfl <;> revert hb <;> decide

/-- A literal begins with a minus sign or a digit.  A reader of numbers makes of it what
it would make of it on its own, and it can always be skipped. -/
theorem IsLiteral.exists_cons {literal : List UInt8} (h : IsLiteral literal) :
    ∃ b more, literal = b :: more ∧ (b = minus ∨ isDigit b = true) ∧
      Outcome (number b) more (Tree.numberOf? literal) ∧ Outcome (skipNumber b) more (some ()) := by
  cases h with
  | positive h =>
      obtain ⟨b, more, rfl, hb⟩ := h.exists_cons
      have hne : b ≠ minus := by
        rintro rfl
        contradiction
      refine ⟨b, more, rfl, Or.inr hb, fun rest hrest => ?_, fun rest hrest => ?_⟩
      · have hread := toOption_magnitude false h hrest
        simp only [Tree.numberOf?, number, if_neg hne]
        exact hread
      · obtain ⟨number, hliteral⟩ :=
          literal_isMagnitude .invalidNumber false h hrest
        rw [List.cons_append] at hliteral
        simp only [skipNumber, hne, decide_false, if_false, hliteral]
        rfl
  | @negative text h =>
      refine ⟨minus, text, rfl, Or.inl rfl, fun rest hrest => ?_, fun rest hrest => ?_⟩
      · have hread := toOption_magnitude true h hrest
        simp only [Tree.numberOf?, number, if_true]
        exact hread
      · obtain ⟨number, hliteral⟩ :=
          literal_isMagnitude .invalidNumber true h hrest
        simp only [skipNumber, decide_true, if_true, hliteral]
        rfl

/-! ## Integers -/

theorem isDigits_map {ds : List Nat} (hne : ds ≠ []) (hds : ∀ d ∈ ds, d < 10) :
    IsDigits (ds.map Utf8.digitByte) := by
  refine ⟨by simpa using hne, ?_⟩
  simp only [List.forall_mem_map]
  exact fun d hd => isDigit_digitByte (hds d hd)

/-- A zero does not stand in front of other digits. -/
theorem isWholePart_map {d : Nat} {ds : List Nat} (hds : ∀ d' ∈ d :: ds, d' < 10)
    (hzero : d = 0 → ds = []) : IsWholePart ((d :: ds).map Utf8.digitByte) := by
  refine ⟨isDigits_map (List.cons_ne_nil _ _) hds, fun hhead => ?_⟩
  rw [List.map_cons, List.head?_cons, Option.some.injEq] at hhead
  have hd := digitByte_eq_zero d (hds d List.mem_cons_self) hhead
  rw [hzero hd, hd]
  rfl

theorem isWholePart_decimal (n : Nat) : IsWholePart ((decimal n).map Utf8.digitByte) := by
  obtain ⟨d, ds, hcons, hzero⟩ := decimal_eq_cons n
  rw [hcons]
  exact isWholePart_map (fun d' hd' => lt_of_mem_decimal (hcons ▸ hd')) hzero

/-- A written integer is a literal, whatever its size. -/
theorem isMagnitude_decimal (n : Nat) : IsMagnitude (Utf8.bytes (toString n)) := by
  rw [bytes_toString, ← List.append_nil ((decimal n).map _), ← List.append_nil ([] : List UInt8)]
  exact .parts (isWholePart_decimal n) (Or.inl rfl) (Or.inl rfl)

theorem isLiteral_nat (n : Nat) : IsLiteral (Utf8.bytes (toString n)) :=
  .positive (isMagnitude_decimal n)

theorem isLiteral_int (i : Int) : IsLiteral (Utf8.bytes (toString i)) := by
  cases i with
  | ofNat n => exact isLiteral_nat n
  | negSucc n =>
      have hsign : toString (Int.negSucc n) = "-" ++ toString (n + 1) := rfl
      rw [hsign, Utf8.bytes_append]
      exact .negative (isMagnitude_decimal (n + 1))

/-- A written integer in range is that integer. -/
theorem numberOf?_whole (w : Whole) :
    Tree.numberOf? (Utf8.bytes (toString w.toInt)) = some (.whole w) := by
  obtain ⟨b, more, hfirst, -, hread⟩ := spellsNumber_whole w
  obtain ⟨c, more', hcons, hc, -⟩ := (isLiteral_int w.toInt).exists_cons
  rw [hcons, skipBlanks_cons (isBlank_of_begins hc), List.cons.injEq] at hfirst
  obtain ⟨rfl, rfl⟩ := hfirst
  have hnumber := hread [] endsNumber_nil
  rw [List.append_nil] at hnumber
  rw [hcons, Tree.numberOf?, hnumber]
  rfl

end ChatGateway.Json
