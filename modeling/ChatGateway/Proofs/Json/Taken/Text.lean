import ChatGateway.Proofs.Json.Loose

/-!
# What is taken as a text

Only a text of the grammar is read as a text (`spelledText_of_text`).  The draft of a text
that is being read never loses its flaw, so one that comes to its closing mark has had
none, and each of its characters was spelled.  A text that is skipped has at least the
form of one (`isLooseText_of_skipText`).
-/

namespace ChatGateway.Json

open Reader Ascii

/-! ## Units in hexadecimal -/

theorem isHexDigit_ofNat : ∀ n < 256, ∀ d ∈ hexDigit? (UInt8.ofNat n),
    d < 16 ∧ (UInt8.ofNat n = byte d.digitChar ∨ UInt8.ofNat n = byte d.digitChar.toUpper) := by
  decide +kernel

theorem isHexDigit_of_hexDigit? {b : UInt8} {d : Nat} (h : hexDigit? b = some d) :
    IsHexDigit b d := by
  have hbyte := isHexDigit_ofNat b.toNat b.toNat_lt d
  rw [UInt8.ofNat_toNat] at hbyte
  exact hbyte h

theorem isHexUnit_of_hexUnit? {a b c d : UInt8} {unit : Nat} (h : hexUnit? a b c d = some unit) :
    IsHexUnit [a, b, c, d] unit := by
  simp only [hexUnit?, Option.bind_eq_bind, Option.bind_eq_some_iff, Option.pure_def,
    Option.some.injEq] at h
  obtain ⟨w, hw, x, hx, y, hy, z, hz, rfl⟩ := h
  exact .digits (isHexDigit_of_hexDigit? hw) (isHexDigit_of_hexDigit? hx)
    (isHexDigit_of_hexDigit? hy) (isHexDigit_of_hexDigit? hz)

theorem isHexUnit_of_hexUnit {text rest : List UInt8} {unit : Nat}
    (h : hexUnit text = .ok (unit, rest)) :
    ∃ digits, IsHexUnit digits unit ∧ text = digits ++ rest := by
  unfold hexUnit at h
  split at h
  next a b c d rest' =>
    split at h
    next hunit =>
      simp only [Except.ok.injEq, Prod.mk.injEq] at h
      obtain ⟨rfl, rfl⟩ := h
      exact ⟨[a, b, c, d], isHexUnit_of_hexUnit? hunit, rfl⟩
    · contradiction
  · contradiction

theorem IsHexUnit.lt {digits : List UInt8} {unit : Nat} (h : IsHexUnit digits unit) :
    unit < 0x10000 := by
  cases h with
  | digits ha hb hc hd =>
      have hw := ha.1
      have hx := hb.1
      have hy := hc.1
      have hz := hd.1
      omega

/-! ## Escapes -/

theorem mem_shortEscapes {b : UInt8} {c : Char} (h : shortEscape? b = some c) :
    ∃ letter, (letter, c) ∈ shortEscapes ∧ b = byte letter := by
  unfold shortEscape? at h
  split_ifs at h with h1 h2 h3 h4 h5 h6 h7 h8 <;> obtain rfl := Option.some.inj h
  · exact ⟨'"', by decide, h1⟩
  · exact ⟨'\\', by decide, h2⟩
  · exact ⟨'/', by decide, h3⟩
  · exact ⟨'b', by decide, h4⟩
  · exact ⟨'f', by decide, h5⟩
  · exact ⟨'n', by decide, h6⟩
  · exact ⟨'r', by decide, h7⟩
  · exact ⟨'t', by decide, h8⟩

/-- A unit that is no surrogate is a character. -/
theorem toNat_ofNat_unit {unit : Nat} (hlt : unit < 0x10000) (hleading : isLeading unit = false)
    (htrailing : isTrailing unit = false) : (Char.ofNat unit).toNat = unit := by
  simp only [isLeading, isTrailing, Bool.and_eq_false_iff, decide_eq_false_iff_not] at *
  have hvalid : unit.isValidChar := by
    unfold Nat.isValidChar
    omega
  rw [Char.toNat_ofNat, if_pos hvalid]

/-- Two surrogates are the halves of a character. -/
theorem toNat_pairedChar {leading trailing : Nat} (hleading : isLeading leading = true)
    (htrailing : isTrailing trailing = true) :
    (pairedChar leading trailing).toNat =
      (leading - 0xD800) * 0x400 + (trailing - 0xDC00) + 0x10000 := by
  simp only [isLeading, isTrailing, Bool.and_eq_true, decide_eq_true_eq] at *
  have hvalid : ((leading - 0xD800) * 0x400 + (trailing - 0xDC00) + 0x10000).isValidChar := by
    unfold Nat.isValidChar
    omega
  rw [pairedChar, Char.toNat_ofNat, if_pos hvalid]

theorem exists_of_trailingUnit {leading : Nat} {text rest : List UInt8} {c : Char}
    (h : trailingUnit leading text = .ok (c, rest)) :
    ∃ digits trailing, IsHexUnit digits trailing ∧ isTrailing trailing = true ∧
      c = pairedChar leading trailing ∧ text = backslash :: hexMark :: (digits ++ rest) := by
  unfold trailingUnit at h
  split at h
  · contradiction
  split at h
  swap
  · contradiction
  next hb =>
    subst hb
    split at h
    · contradiction
    split at h
    swap
    · contradiction
    next hmark =>
      subst hmark
      split at h
      · contradiction
      next trailing rest' hunit =>
        obtain ⟨digits, hdigits, rfl⟩ := isHexUnit_of_hexUnit hunit
        split at h
        next htrailing =>
          simp only [Except.ok.injEq, Prod.mk.injEq] at h
          obtain ⟨rfl, rfl⟩ := h
          exact ⟨digits, trailing, hdigits, htrailing, rfl, rfl⟩
        · contradiction

/-- An escape in hexadecimal spells its character, by one unit or by two. -/
theorem exists_of_hexEscape {text rest : List UInt8} {c : Char}
    (h : hexEscape text = .ok (c, rest)) :
    ∃ piece, SpelledChar (backslash :: hexMark :: piece) c ∧ text = piece ++ rest := by
  unfold hexEscape at h
  split at h
  · contradiction
  next unit rest' hunit =>
    obtain ⟨digits, hdigits, rfl⟩ := isHexUnit_of_hexUnit hunit
    split at h
    · contradiction
    next htrailing =>
      split at h
      next hleading =>
        obtain ⟨digits', trailing, hdigits', htrailing', hc, rfl⟩ := exists_of_trailingUnit h
        have hcode := toNat_pairedChar hleading htrailing'
        rw [← hc] at hcode
        simp only [isLeading, isTrailing, Bool.and_eq_true, decide_eq_true_eq] at hleading htrailing'
        refine ⟨digits ++ backslash :: hexMark :: digits', .pair (by omega) ?_ ?_, by simp⟩
        · rw [hcode]
          convert hdigits using 1
          omega
        · rw [hcode]
          convert hdigits' using 1
          omega
      next hleading =>
        simp only [Except.ok.injEq, Prod.mk.injEq] at h
        obtain ⟨rfl, rfl⟩ := h
        have hcode := toNat_ofNat_unit hdigits.lt (by simpa using hleading)
          (by simpa using htrailing)
        exact ⟨digits, .unit (by rwa [hcode]), rfl⟩

theorem exists_of_escape {text rest : List UInt8} {c : Char} (h : escape text = .ok (c, rest)) :
    ∃ piece, SpelledChar (backslash :: piece) c ∧ text = piece ++ rest := by
  unfold escape at h
  split at h
  · contradiction
  next b text' =>
    split at h
    next hshort =>
      simp only [Except.ok.injEq, Prod.mk.injEq] at h
      obtain ⟨rfl, rfl⟩ := h
      obtain ⟨letter, hletter, rfl⟩ := mem_shortEscapes hshort
      exact ⟨[byte letter], .short hletter, rfl⟩
    · split at h
      next hmark =>
        subst hmark
        obtain ⟨piece, hpiece, rfl⟩ := exists_of_hexEscape h
        exact ⟨hexMark :: piece, hpiece, rfl⟩
      · contradiction

/-! ## Texts that are read -/

/-- A character that is read raw is one that may stand raw. -/
theorem spelledChar_of_decodeChar? {c : Char} {b : UInt8} {more rest : List UInt8}
    (hdecode : Utf8.decodeChar? (b :: more) = some (c, rest)) (hquote : b ≠ quote)
    (hbackslash : b ≠ backslash) (hcontrol : isControl b = false) :
    ∃ piece, SpelledChar piece c ∧ b :: more = piece ++ rest := by
  have hbytes := Utf8.eq_encode_of_decodeChar? hdecode
  have hascii (hlt : c.toNat < 0x80) : b = UInt8.ofNat c.toNat := by
    rw [Utf8.encode_of_lt hlt] at hbytes
    exact (List.cons.inj hbytes).1
  refine ⟨_, .raw ?_ ?_ ?_, hbytes⟩
  · rintro rfl
    exact hquote (hascii (by decide))
  · rintro rfl
    exact hbackslash (hascii (by decide))
  · by_contra hlow
    obtain rfl := hascii (by omega)
    simp only [isControl, decide_eq_false_iff_not, UInt8.lt_iff_toNat_lt, UInt8.toNat_ofNat',
      UInt8.reduceToNat] at hcontrol
    omega

/-- A step of a text takes the closing mark, or a character, or a byte that is no UTF-8. -/
theorem textStep_cases {draft : TextDraft} {text rest : List UInt8} {turn : Turn TextDraft String}
    (h : textStep draft text = .ok (turn, rest)) :
    (draft.flaw = none ∧ text = quote :: rest ∧
      turn = .done (String.ofList draft.chars.reverse)) ∨
    (∃ piece c, SpelledChar piece c ∧ text = piece ++ rest ∧ turn = .again (draft.push c)) ∨
    ∃ b, text = b :: rest ∧ Utf8.decodeChar? text = none ∧ turn = .again (draft.skip text) := by
  unfold textStep at h
  split at h
  · contradiction
  next b more =>
    split at h
    next hquote =>
      subst hquote
      split at h
      next hflaw =>
        simp only [Except.ok.injEq, Prod.mk.injEq] at h
        obtain ⟨rfl, rfl⟩ := h
        exact Or.inl ⟨hflaw, rfl, rfl⟩
      · contradiction
    next hquote =>
      split at h
      next hbackslash =>
        subst hbackslash
        split at h
        · contradiction
        next c rest' hescape =>
          simp only [Except.ok.injEq, Prod.mk.injEq] at h
          obtain ⟨rfl, rfl⟩ := h
          obtain ⟨piece, hpiece, rfl⟩ := exists_of_escape hescape
          exact Or.inr (Or.inl ⟨_, c, hpiece, rfl, rfl⟩)
      next hbackslash =>
        split at h
        · contradiction
        next hcontrol =>
          split at h <;> simp only [Except.ok.injEq, Prod.mk.injEq] at h <;>
            obtain ⟨rfl, rfl⟩ := h
          next c rest' hdecode =>
            obtain ⟨piece, hpiece, htext⟩ :=
              spelledChar_of_decodeChar? hdecode hquote hbackslash (by simpa using hcontrol)
            exact Or.inr (Or.inl ⟨piece, c, hpiece, htext, rfl⟩)
          next hdecode => exact Or.inr (Or.inr ⟨b, rfl, hdecode, rfl⟩)

/-- **Only a text of the grammar is read as a text.** -/
theorem spelledText_of_text {text rest : List UInt8} {s : String}
    (h : Reader.text text = .ok (s, rest)) :
    ∃ content, SpelledText content s ∧ text = content ++ quote :: rest := by
  let P (draft : TextDraft) (text : List UInt8) (s : String) (rest : List UInt8) : Prop :=
    draft.flaw = none ∧ ∃ pieces : List (List UInt8 × Char), (∀ p ∈ pieces, SpelledChar p.1 p.2) ∧
      text = pieces.flatMap Prod.fst ++ quote :: rest ∧
      s = String.ofList (draft.chars.reverse ++ pieces.map Prod.snd)
  have hread : P {} text s rest := by
    refine of_repeatedly (fun hstep => ?_) (fun hstep hrest => ?_) h
    · obtain ⟨hflaw, rfl, hs⟩ | ⟨piece, c, -, -, hturn⟩ | ⟨b, -, -, hturn⟩ := textStep_cases hstep
      · obtain rfl := Turn.done.inj hs
        exact ⟨hflaw, [], by simp, rfl, by simp⟩
      · contradiction
      · contradiction
    · obtain ⟨hflaw, pieces, hpieces, rfl, rfl⟩ := hrest
      obtain ⟨-, -, hturn⟩ | ⟨piece, c, hpiece, rfl, hturn⟩ | ⟨b, -, -, hturn⟩ :=
        textStep_cases hstep
      · contradiction
      · obtain rfl := Turn.again.inj hturn
        refine ⟨by simpa [TextDraft.push] using hflaw, (piece, c) :: pieces, ?_, by simp,
          by simp [TextDraft.push]⟩
        exact List.forall_mem_cons.mpr ⟨hpiece, hpieces⟩
      · obtain rfl := Turn.again.inj hturn
        simp [TextDraft.skip] at hflaw
  obtain ⟨-, pieces, hpieces, rfl, rfl⟩ := hread
  exact ⟨_, ⟨pieces, hpieces, rfl, by simp⟩, rfl⟩

/-! ## Texts that are skipped -/

theorem exists_of_skipEscape {text rest : List UInt8} (h : skipEscape text = .ok ((), rest)) :
    ∃ piece, LoosePiece (backslash :: piece) ∧ text = piece ++ rest := by
  unfold skipEscape at h
  split at h
  · contradiction
  next b text' =>
    split at h
    next hshort =>
      obtain ⟨c, hc⟩ := Option.isSome_iff_exists.mp hshort
      obtain ⟨letter, hletter, rfl⟩ := mem_shortEscapes hc
      simp only [Except.ok.injEq, Prod.mk.injEq, true_and] at h
      subst h
      exact ⟨[byte letter], .short hletter, rfl⟩
    · split at h
      next hmark =>
        subst hmark
        split at h
        · contradiction
        next unit rest' hunit =>
          simp only [Except.ok.injEq, Prod.mk.injEq, true_and] at h
          subst h
          obtain ⟨digits, hdigits, rfl⟩ := isHexUnit_of_hexUnit hunit
          exact ⟨hexMark :: digits, .unit hdigits, rfl⟩
      · contradiction

theorem skipTextStep_cases {text rest : List UInt8} {turn : Turn Unit Unit}
    (h : skipTextStep () text = .ok (turn, rest)) :
    (text = quote :: rest ∧ turn = .done ()) ∨
    ∃ piece, LoosePiece piece ∧ text = piece ++ rest ∧ turn = .again () := by
  unfold skipTextStep at h
  split at h
  · contradiction
  next b more =>
    split at h
    next hquote =>
      subst hquote
      simp only [Except.ok.injEq, Prod.mk.injEq] at h
      obtain ⟨rfl, rfl⟩ := h
      exact Or.inl ⟨rfl, rfl⟩
    next hquote =>
      split at h
      next hbackslash =>
        subst hbackslash
        split at h
        · contradiction
        next rest' hescape =>
          simp only [Except.ok.injEq, Prod.mk.injEq] at h
          obtain ⟨rfl, rfl⟩ := h
          obtain ⟨piece, hpiece, rfl⟩ := exists_of_skipEscape hescape
          exact Or.inr ⟨_, hpiece, rfl, rfl⟩
      next hbackslash =>
        split at h
        · contradiction
        next hcontrol =>
          simp only [Except.ok.injEq, Prod.mk.injEq] at h
          obtain ⟨rfl, rfl⟩ := h
          exact Or.inr ⟨[b], .byte hquote hbackslash (by simpa using hcontrol), rfl, rfl⟩

theorem isLooseText_of_skipText {text rest : List UInt8} (h : skipText text = .ok ((), rest)) :
    ∃ content, IsLooseText content ∧ text = content ++ quote :: rest := by
  let P (_ : Unit) (text : List UInt8) (_ : Unit) (rest : List UInt8) : Prop :=
    ∃ content, IsLooseText content ∧ text = content ++ quote :: rest
  have hread : P () text () rest := by
    refine of_repeatedly (fun hstep => ?_) (fun hstep hrest => ?_) h
    · obtain ⟨rfl, -⟩ | ⟨piece, -, -, hturn⟩ := skipTextStep_cases hstep
      · exact ⟨[], isLooseText_nil, rfl⟩
      · contradiction
    · obtain ⟨content, hcontent, rfl⟩ := hrest
      obtain ⟨-, hturn⟩ | ⟨piece, hpiece, rfl, -⟩ := skipTextStep_cases hstep
      · contradiction
      · exact ⟨piece ++ content, hpiece.isLooseText.append hcontent, by simp⟩
  exact hread

end ChatGateway.Json
