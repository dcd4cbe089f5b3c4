import ChatGateway.Json.Reader.Text
import ChatGateway.Json.Writer
import ChatGateway.Proofs.Json.Spelling
import ChatGateway.Proofs.Text.Utf8

/-!
# Written texts are read back

A text is read one character at a time.  `Spells` says that a piece of a text is read as
one character whatever stands around it, and `text_of_spells` puts pieces together, so
that a text is read as soon as each of its pieces is.  Every way to write a character is
such a piece (`SpelledChar.spells`), and the writer uses one of them for each character
(`spelledChar_char`).
-/

namespace ChatGateway.Json

open Reader

/-- A piece of a text that one step reads as the character `c`. -/
def Spells (piece : List UInt8) (c : Char) : Prop :=
  ∀ draft rest, textStep draft (piece ++ rest) = .ok (.again (draft.push c), rest)

theorem Spells.ne_nil {piece : List UInt8} {c : Char} (h : Spells piece c) : piece ≠ [] := by
  rintro rfl
  have hempty := h {} []
  simp [textStep, refuse] at hempty

/-! ## Reading pieces -/

/-- A draft without a flaw is read up to the closing mark: each piece adds the character
that it spells. -/
theorem runs_textStep {γ : Type} {piece : γ → List UInt8} {char : γ → Char} {items : List γ}
    (hitems : ∀ i ∈ items, Spells (piece i) (char i)) (rest : List UInt8) :
    ∀ chars : List Char, Runs textStep { chars } (items.flatMap piece ++ quote :: rest)
      (String.ofList (chars.reverse ++ items.map char)) rest := by
  induction items with
  | nil =>
      intro chars
      refine .done ?_
      simp [textStep]
  -- the draft holds what has been read in reverse, and a piece adds one character
  | cons i items ih =>
      intro chars
      obtain ⟨hi, hitems⟩ := List.forall_mem_cons.mp hitems
      have hlength := List.length_pos_iff.mpr hi.ne_nil
      rw [List.flatMap_cons, List.append_assoc]
      refine .again (hi _ _) (by simp; omega) ?_
      have hrun := ih hitems (char i :: chars)
      rw [List.reverse_cons, List.append_assoc] at hrun
      exact hrun

/-- A text of pieces that spell characters is read as the text of these characters. -/
theorem text_of_spells {γ : Type} {piece : γ → List UInt8} {char : γ → Char} {items : List γ}
    (hitems : ∀ i ∈ items, Spells (piece i) (char i)) (rest : List UInt8) :
    Reader.text (items.flatMap piece ++ quote :: rest) = .ok (String.ofList (items.map char), rest) :=
  (runs_textStep hitems rest []).repeatedly

/-! ## How characters are spelled -/

theorem spells_short {b : UInt8} {c : Char} (h : shortEscape? b = some c) :
    Spells [backslash, b] c := by
  intro draft rest
  have hquote : backslash ≠ quote := by decide
  simp only [List.cons_append, List.nil_append, textStep, if_neg hquote, if_true, escape, h]

/-- The encoding of a character that may stand raw in a text has no byte that has a
meaning there. -/
theorem plain_of_mem_encode {c : Char} (hquote : c ≠ '"') (hbackslash : c ≠ '\\')
    (hcontrol : 0x20 ≤ c.toNat) :
    ∀ b ∈ String.utf8EncodeChar c, b ≠ quote ∧ b ≠ backslash ∧ isControl b = false := by
  intro b hb
  have hcode := Utf8.of_mem_encode hb
  have hne : ∀ {d : Char}, c ≠ d → d.toNat < 0x80 → b.toNat ≠ d.toNat := by
    intro d hd hascii heq
    rcases hcode with hcode | hcode
    · exact hd (Char.toNat_inj.mp (hcode.symm.trans heq))
    · omega
  refine ⟨?_, ?_, ?_⟩
  · rintro rfl
    exact hne hquote (by decide) rfl
  · rintro rfl
    exact hne hbackslash (by decide) rfl
  · have hle : 0x20 ≤ b.toNat := by omega
    simp [isControl, UInt8.lt_iff_toNat_lt, hle]

theorem spells_raw {c : Char} (hquote : c ≠ '"') (hbackslash : c ≠ '\\')
    (hcontrol : 0x20 ≤ c.toNat) : Spells (String.utf8EncodeChar c) c := by
  intro draft rest
  have hdecode := Utf8.decodeChar?_encode c rest
  have hplain := plain_of_mem_encode hquote hbackslash hcontrol
  obtain ⟨b, more, hbytes⟩ := List.exists_cons_of_ne_nil (Utf8.encode_ne_nil c)
  rw [hbytes] at hplain
  have hb := hplain b List.mem_cons_self
  rw [hbytes, List.cons_append] at hdecode ⊢
  simp [textStep, hb, hdecode]

theorem hexDigit?_digitChar : ∀ d < 16, Ascii.hexDigit? (Ascii.byte d.digitChar) = some d ∧
    Ascii.hexDigit? (Ascii.byte d.digitChar.toUpper) = some d := by decide

theorem IsHexDigit.hexDigit? {b : UInt8} {d : Nat} (h : IsHexDigit b d) :
    Ascii.hexDigit? b = some d := by
  obtain ⟨hd, rfl | rfl⟩ := h
  · exact (hexDigit?_digitChar d hd).1
  · exact (hexDigit?_digitChar d hd).2

theorem IsHexUnit.hexUnit {digits : List UInt8} {unit : Nat} (h : IsHexUnit digits unit)
    (rest : List UInt8) : hexUnit (digits ++ rest) = .ok (unit, rest) := by
  cases h with
  | digits ha hb hc hd =>
      simp [Reader.hexUnit, hexUnit?, ha.hexDigit?, hb.hexDigit?, hc.hexDigit?, hd.hexDigit?]

/-- A character is no surrogate. -/
theorem not_isSurrogate (c : Char) : isTrailing c.toNat = false ∧ isLeading c.toNat = false := by
  have hvalid : c.toNat < 0xD800 ∨ 0xDFFF < c.toNat ∧ c.toNat < 0x110000 := c.valid
  simp only [isTrailing, isLeading, Bool.and_eq_false_iff, decide_eq_false_iff_not]
  omega

theorem spells_unit {digits : List UInt8} {c : Char} (h : IsHexUnit digits c.toNat) :
    Spells (backslash :: hexMark :: digits) c := by
  intro draft rest
  have hquote : backslash ≠ quote := by decide
  have hmark : shortEscape? hexMark = none := by decide
  obtain ⟨htrailing, hleading⟩ := not_isSurrogate c
  simp only [List.cons_append, textStep, if_neg hquote, if_true, escape, hmark, hexEscape,
    h.hexUnit, htrailing, hleading, Bool.false_eq_true, if_false, Char.ofNat_toNat]

/-- The two halves of a character past the first plane give it back. -/
theorem pairedChar_halves {c : Char} (hpast : 0x10000 ≤ c.toNat) :
    pairedChar (0xD800 + (c.toNat - 0x10000) / 0x400) (0xDC00 + (c.toNat - 0x10000) % 0x400) =
      c := by
  have hcode : (0xD800 + (c.toNat - 0x10000) / 0x400 - 0xD800) * 0x400 +
      (0xDC00 + (c.toNat - 0x10000) % 0x400 - 0xDC00) + 0x10000 = c.toNat := by omega
  rw [pairedChar, hcode, Char.ofNat_toNat]

theorem spells_pair {leading trailing : List UInt8} {c : Char} (hpast : 0x10000 ≤ c.toNat)
    (hleading : IsHexUnit leading (0xD800 + (c.toNat - 0x10000) / 0x400))
    (htrailing : IsHexUnit trailing (0xDC00 + (c.toNat - 0x10000) % 0x400)) :
    Spells (backslash :: hexMark :: (leading ++ backslash :: hexMark :: trailing)) c := by
  intro draft rest
  have hlt := Utf8.toNat_lt c
  have hquote : backslash ≠ quote := by decide
  have hmark : shortEscape? hexMark = none := by decide
  have hfirst : isTrailing (0xD800 + (c.toNat - 0x10000) / 0x400) = false := by
    simp only [isTrailing, Bool.and_eq_false_iff, decide_eq_false_iff_not]
    omega
  have hfirst' : isLeading (0xD800 + (c.toNat - 0x10000) / 0x400) = true := by
    simp only [isLeading, Bool.and_eq_true, decide_eq_true_eq]
    omega
  have hsecond : isTrailing (0xDC00 + (c.toNat - 0x10000) % 0x400) = true := by
    simp only [isTrailing, Bool.and_eq_true, decide_eq_true_eq]
    omega
  simp only [List.cons_append, List.append_assoc, textStep, if_neg hquote, if_true, escape, hmark,
    hexEscape, hleading.hexUnit, hfirst, hfirst', Bool.false_eq_true, if_false, trailingUnit,
    htrailing.hexUnit, hsecond, pairedChar_halves hpast]

theorem shortEscape?_shortEscapes :
    ∀ p ∈ shortEscapes, shortEscape? (Ascii.byte p.1) = some p.2 := by decide

/-- Every way to write a character is read. -/
theorem SpelledChar.spells {piece : List UInt8} {c : Char} (h : SpelledChar piece c) :
    Spells piece c := by
  cases h with
  | raw hquote hbackslash hcontrol => exact spells_raw hquote hbackslash hcontrol
  | short h => exact spells_short (shortEscape?_shortEscapes _ h)
  | unit h => exact spells_unit h
  | pair hpast hleading htrailing => exact spells_pair hpast hleading htrailing

/-- The content of a text that is read as `s`. -/
def Names (content : List UInt8) (s : String) : Prop :=
  ∀ rest, Reader.text (content ++ quote :: rest) = .ok (s, rest)

/-- Every way to write a text is read. -/
theorem SpelledText.names {content : List UInt8} {s : String} (h : SpelledText content s) :
    Names content s := by
  intro rest
  obtain ⟨pieces, hpieces, rfl, hs⟩ := h
  rw [text_of_spells (fun p hp => (hpieces p hp).spells) rest, ← hs, String.ofList_toList]

theorem SpelledChar.spelledText {piece : List UInt8} {c : Char} (h : SpelledChar piece c) :
    SpelledText piece (String.singleton c) :=
  ⟨[(piece, c)], by simpa using h, by simp, by simp⟩

/-! ## What is written -/

theorem isHexDigit_digitByte {d : Nat} (h : d < 16) : IsHexDigit (Utf8.digitByte d) d :=
  ⟨h, Or.inl rfl⟩

/-- A character of one byte is written with two zeros and its two digits. -/
theorem spelledChar_hex {c : Char} (h : c.toNat < 0x100) :
    SpelledChar (Utf8.bytes ("\\u00" ++
      String.ofList [Nat.digitChar (c.toNat / 16), Nat.digitChar (c.toNat % 16)])) c := by
  have hmark : Utf8.bytes "\\u00" = [backslash, hexMark, 0x30, 0x30] := by decide
  have hbytes : Utf8.bytes ("\\u00" ++
      String.ofList [Nat.digitChar (c.toNat / 16), Nat.digitChar (c.toNat % 16)]) =
      [backslash, hexMark, 0x30, 0x30, Utf8.digitByte (c.toNat / 16),
        Utf8.digitByte (c.toNat % 16)] := by
    rw [Utf8.bytes_append, hmark, Utf8.bytes_ofList, List.flatMap_cons, List.flatMap_cons,
      List.flatMap_nil, Utf8.encode_digitChar _ (by omega), Utf8.encode_digitChar _ (by omega)]
    rfl
  have hzero : IsHexDigit 0x30 0 := isHexDigit_digitByte (by decide)
  have hunit := IsHexUnit.digits hzero hzero (isHexDigit_digitByte (d := c.toNat / 16) (by omega))
    (isHexDigit_digitByte (d := c.toNat % 16) (by omega))
  have hcode : ((0 * 16 + 0) * 16 + c.toNat / 16) * 16 + c.toNat % 16 = c.toNat := by omega
  rw [hcode] at hunit
  rw [hbytes]
  exact .unit hunit

/-- The writer spells each character. -/
theorem spelledChar_char (c : Char) : SpelledChar (Utf8.bytes (Writer.char c)) c := by
  unfold Writer.char
  split
  · exact .short (show ('"', '"') ∈ shortEscapes by decide)
  · exact .short (show ('\\', '\\') ∈ shortEscapes by decide)
  · exact .short (show ('b', '\x08') ∈ shortEscapes by decide)
  · exact .short (show ('f', '\x0c') ∈ shortEscapes by decide)
  · exact .short (show ('n', '\n') ∈ shortEscapes by decide)
  · exact .short (show ('r', '\r') ∈ shortEscapes by decide)
  · exact .short (show ('t', '\t') ∈ shortEscapes by decide)
  next hquote hbackslash _ _ _ _ _ =>
    split
    next hcontrol => exact spelledChar_hex (by omega)
    next hcontrol =>
      rw [Utf8.bytes_singleton]
      exact .raw hquote hbackslash (Nat.le_of_not_lt hcontrol)

/-- The bytes between the marks of a written text. -/
def writtenChars (s : String) : List UInt8 :=
  s.toList.flatMap fun c => Utf8.bytes (Writer.char c)

theorem bytes_text (s : String) :
    Utf8.bytes (Writer.text s) = quote :: (writtenChars s ++ [quote]) := by
  have hmark : Utf8.bytes "\"" = [quote] := by decide
  simp [Writer.text, Utf8.bytes_append, Utf8.bytes_join, hmark, List.flatMap_map, writtenChars]

/-- A written text is a way to write it. -/
theorem spelledText_writtenChars (s : String) : SpelledText (writtenChars s) s := by
  refine ⟨s.toList.map fun c => (Utf8.bytes (Writer.char c), c), ?_, ?_, ?_⟩
  · simp only [List.forall_mem_map]
    exact fun c _ => spelledChar_char c
  · rw [List.flatMap_map]
    rfl
  · rw [List.map_map]
    exact (List.map_id _).symm

/-- **A written text is read back.**  After its opening mark it gives the text that was
written, and leaves what follows its closing mark. -/
theorem text_writtenChars (s : String) (rest : List UInt8) :
    Reader.text (writtenChars s ++ quote :: rest) = .ok (s, rest) :=
  (spelledText_writtenChars s).names rest

end ChatGateway.Json
