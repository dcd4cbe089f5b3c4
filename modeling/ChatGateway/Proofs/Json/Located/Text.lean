import ChatGateway.Proofs.Json.Located
import ChatGateway.Proofs.Json.Taken.Text

/-!
# Texts are read inside their bytes

A text, be it read or skipped, keeps to its bytes (`keeps_text`, `keeps_skipText`).  One
refusal in it looks back: bytes that are no UTF-8 are passed over, and refused only at the
closing mark, with a place that is counted back from there.  A character counts with the
bytes of its encoding, and no spelling of it is shorter than that
(`SpelledChar.utf8Size_le`), so the count never runs past the first of these bytes:
the place lies between it and the mark (`exists_flaw_of_text`).
-/

namespace ChatGateway.Json

open Reader

/-! ## Spellings and encodings -/

theorem IsHexUnit.length_eq {digits : List UInt8} {unit : Nat} (h : IsHexUnit digits unit) :
    digits.length = 4 := by
  cases h with
  | digits ha hb hc hd => rfl

/-- A character takes no more bytes in its encoding than in any spelling. -/
theorem SpelledChar.utf8Size_le {piece : List UInt8} {c : Char} (h : SpelledChar piece c) :
    c.utf8Size ≤ piece.length := by
  have hmost := c.utf8Size_le_four
  cases h with
  | raw hquote hbackslash hcontrol => exact (String.length_utf8EncodeChar c).ge
  | short hshort =>
      have hsizes : ∀ p ∈ shortEscapes, p.2.utf8Size ≤ 2 := by decide
      exact hsizes _ hshort
  | unit hunit =>
      have hlength := hunit.length_eq
      simp only [List.length_cons]
      omega
  | pair hpast hleading htrailing =>
      have hlength := hleading.length_eq
      simp only [List.length_cons, List.length_append]
      omega

namespace Reader

/-! ## Escapes -/

theorem keeps_hexUnit : Keeps hexUnit := by
  intro text
  unfold hexUnit
  split
  next a b c d rest =>
    have hrest : rest <:+ a :: b :: c :: d :: rest := List.suffix_append [a, b, c, d] rest
    split
    · exact hrest
    · exact hrest
  · exact List.nil_suffix

theorem keeps_trailingUnit (leading : Nat) : Keeps (trailingUnit leading) := by
  intro text
  unfold trailingUnit
  split
  · exact List.nil_suffix
  next b text =>
    refine KeepsTo.cons ?_ b
    split
    · split
      · exact List.nil_suffix
      next c text =>
        refine KeepsTo.cons ?_ c
        split
        · split
          next fault hunit => exact (keeps_hexUnit text).suffix_of_error hunit
          next unit rest hunit =>
            have hrest := (keeps_hexUnit text).suffix_of_ok hunit
            split
            · exact hrest
            · exact hrest
        · exact List.suffix_rfl
    · exact List.suffix_rfl

theorem keeps_hexEscape : Keeps hexEscape := by
  intro text
  unfold hexEscape
  split
  next fault hunit => exact (keeps_hexUnit text).suffix_of_error hunit
  next unit rest hunit =>
    have hrest := (keeps_hexUnit text).suffix_of_ok hunit
    split
    · exact hrest
    split
    · exact (keeps_trailingUnit unit rest).mono hrest
    · exact hrest

theorem keeps_escape : Keeps escape := by
  intro text
  unfold escape
  split
  · exact List.nil_suffix
  next b text =>
    refine KeepsTo.cons ?_ b
    split
    · exact List.suffix_rfl
    split
    · exact keeps_hexEscape text
    · exact List.suffix_rfl

theorem cause_of_hexUnit {text : List UInt8} {fault : Fault} (h : hexUnit text = .error fault) :
    fault.cause ≠ .invalidCharacter := by
  unfold hexUnit at h
  grind [refuse]

theorem cause_of_trailingUnit {leading : Nat} {text : List UInt8} {fault : Fault}
    (h : trailingUnit leading text = .error fault) : fault.cause ≠ .invalidCharacter := by
  unfold trailingUnit at h
  grind [cause_of_hexUnit, refuse]

theorem cause_of_hexEscape {text : List UInt8} {fault : Fault}
    (h : hexEscape text = .error fault) : fault.cause ≠ .invalidCharacter := by
  unfold hexEscape at h
  grind [cause_of_hexUnit, cause_of_trailingUnit, refuse]

/-- An escape is never refused for bytes that are no UTF-8. -/
theorem cause_of_escape {text : List UInt8} {fault : Fault} (h : escape text = .error fault) :
    fault.cause ≠ .invalidCharacter := by
  unfold escape at h
  grind [cause_of_hexEscape, refuse]

/-! ## Texts that are read -/

/-- Where the first byte lies that is no UTF-8: in the text `whole`, so far before what is
left of it that there is room to count back. -/
structure Flaw.LiesIn (flaw : Flaw) (whole text : List UInt8) : Prop where
  onward : flaw.onward <:+ whole
  undecoded : Utf8.decodeChar? flaw.onward = none
  started : 0 < flaw.size
  counted : text.length + flaw.size ≤ flaw.onward.length

/-- What is left of the text `whole` while it is read, and where its first flaw lies. -/
structure TextDraft.LiesIn (draft : TextDraft) (whole text : List UInt8) : Prop where
  left : text <:+ whole
  flaws : ∀ flaw ∈ draft.flaw, flaw.LiesIn whole text

/-- A refusal lies in the text, and one of bytes that are no UTF-8 lies between the first of
them and the closing mark. -/
structure PlacedIn (whole : List UInt8) (fault : Fault) : Prop where
  unread : fault.unread <:+ whole
  flaw : fault.cause = .invalidCharacter → ∃ onward rest, onward <:+ whole ∧
    Utf8.decodeChar? onward = none ∧ fault.unread <:+ onward ∧ quote :: rest <:+ fault.unread

theorem PlacedIn.of_ne {whole : List UInt8} {fault : Fault} (hunread : fault.unread <:+ whole)
    (hcause : fault.cause ≠ .invalidCharacter) : PlacedIn whole fault where
  unread := hunread
  flaw := fun h => absurd h hcause

variable {draft draft' : TextDraft} {whole text rest : List UInt8}

/-- Counting back from the mark leads to a place behind the flaw. -/
theorem Flaw.LiesIn.placedIn {flaw : Flaw} (h : flaw.LiesIn whole (quote :: rest))
    (hmark : quote :: rest <:+ whole) : PlacedIn whole ⟨.invalidCharacter, flaw.unread rest⟩ := by
  have hunread : flaw.unread rest <:+ flaw.onward := List.drop_suffix _ _
  have hcounted : rest.length + flaw.size ≤ flaw.onward.length := by
    have hlength := h.counted
    rw [List.length_cons] at hlength
    omega
  have hlength : (flaw.unread rest).length = rest.length + flaw.size := by
    rw [Flaw.unread, List.length_drop]
    omega
  have hbehind : quote :: rest <:+ flaw.unread rest := by
    refine List.suffix_of_suffix_length_le hmark (hunread.trans h.onward) ?_
    have hstarted := h.started
    rw [hlength, List.length_cons]
    omega
  exact ⟨hunread.trans h.onward, fun _ =>
    ⟨flaw.onward, rest, h.onward, h.undecoded, hunread, hbehind⟩⟩

/-- Every byte of content that is counted is a byte of the text. -/
theorem TextDraft.LiesIn.again (h : draft.LiesIn whole text)
    (hstep : textStep draft text = .ok (.again draft', rest)) : draft'.LiesIn whole rest := by
  obtain ⟨-, -, hturn⟩ | ⟨piece, c, hpiece, rfl, hturn⟩ | ⟨b, htext, hnone, hturn⟩ :=
    textStep_cases hstep
  · contradiction
  · obtain rfl := Turn.again.inj hturn
    refine ⟨(List.suffix_append piece rest).trans h.left, fun flaw' hflaw' => ?_⟩
    obtain ⟨flaw, hflaw, rfl⟩ := Option.map_eq_some_iff.mp hflaw'
    have hlies := h.flaws flaw hflaw
    have hcounted := hlies.counted
    have hsize := hpiece.utf8Size_le
    rw [List.length_append] at hcounted
    refine ⟨hlies.onward, hlies.undecoded, Nat.add_pos_left hlies.started _, ?_⟩
    show rest.length + (flaw.size + c.utf8Size) ≤ flaw.onward.length
    omega
  · obtain rfl := Turn.again.inj hturn
    have hrest : rest <:+ text := htext ▸ List.suffix_cons b rest
    have hlength : text.length = rest.length + 1 := by rw [htext, List.length_cons]
    refine ⟨hrest.trans h.left, fun flaw' hflaw' => ?_⟩
    obtain rfl := Option.some.inj hflaw'
    cases hflaw : draft.flaw with
    | none => exact ⟨h.left, hnone, Nat.zero_lt_one, hlength.ge⟩
    | some flaw =>
        have hlies := h.flaws flaw hflaw
        have hcounted := hlies.counted
        refine ⟨hlies.onward, hlies.undecoded, Nat.succ_pos _, ?_⟩
        show rest.length + (flaw.size + 1) ≤ flaw.onward.length
        omega

theorem TextDraft.LiesIn.placedIn (h : draft.LiesIn whole text) {fault : Fault}
    (hstep : textStep draft text = .error fault) : PlacedIn whole fault := by
  unfold textStep at hstep
  split at hstep
  · obtain rfl := Except.error.inj hstep
    exact .of_ne List.nil_suffix nofun
  next b rest =>
    have hrest : rest <:+ whole := (List.suffix_cons b rest).trans h.left
    split at hstep
    next hquote =>
      subst hquote
      split at hstep
      · contradiction
      next flaw hflaw =>
        obtain rfl := Except.error.inj hstep
        exact (h.flaws flaw hflaw).placedIn h.left
    split at hstep
    · split at hstep
      next fault' hescape =>
        obtain rfl := Except.error.inj hstep
        exact .of_ne (((keeps_escape rest).suffix_of_error hescape).trans hrest)
          (cause_of_escape hescape)
      · contradiction
    split at hstep
    · obtain rfl := Except.error.inj hstep
      exact .of_ne hrest nofun
    · split at hstep
      · contradiction
      · contradiction

/-- **Where a text is refused.**  The place lies in the text; where it is refused for bytes
that are no UTF-8, it lies between the first of them and the closing mark. -/
theorem placedIn_of_text {fault : Fault} (h : Reader.text text = .error fault) :
    PlacedIn text fault := by
  let Q (outcome : Except Fault (String × List UInt8)) : Prop :=
    ∀ fault, outcome = .error fault → PlacedIn text fault
  have hstart : TextDraft.LiesIn {} text text := ⟨List.suffix_rfl, nofun⟩
  have hread : Q (Reader.text text) := by
    refine repeatWithin_induct (I := fun draft rest => draft.LiesIn text rest) ?_ ?_ ?_ ?_
      text hstart
    · intro draft draft' rest rest' hdraft hstep
      exact hdraft.again hstep
    · intro draft rest s rest' hdraft hstep fault hfault
      contradiction
    · intro draft rest fault hdraft hstep fault' hfault
      obtain rfl := Except.error.inj hfault
      exact hdraft.placedIn hstep
    · intro draft rest hdraft fault hfault
      obtain rfl := Except.error.inj hfault
      exact .of_ne hdraft.left nofun
  exact hread fault h

theorem keeps_text : Keeps Reader.text := by
  intro text
  cases hread : Reader.text text with
  | error fault => exact (placedIn_of_text hread).unread
  | ok read =>
      obtain ⟨content, -, rfl⟩ := spelledText_of_text hread
      exact (List.suffix_cons quote read.2).trans (List.suffix_append content _)

/-! ## Texts that are skipped -/

theorem keeps_skipEscape : Keeps skipEscape := by
  intro text
  unfold skipEscape
  split
  · exact List.nil_suffix
  next b text =>
    refine KeepsTo.cons ?_ b
    split
    · exact List.suffix_rfl
    split
    · split
      next fault hunit => exact (keeps_hexUnit text).suffix_of_error hunit
      next unit rest hunit => exact (keeps_hexUnit text).suffix_of_ok hunit
    · exact List.suffix_rfl

theorem keeps_skipTextStep : Keeps (skipTextStep ()) := by
  intro text
  unfold skipTextStep
  split
  · exact List.nil_suffix
  next b rest =>
    split
    · exact List.suffix_cons b rest
    split
    · refine KeepsTo.cons ?_ b
      split
      next fault hescape => exact (keeps_skipEscape rest).suffix_of_error hescape
      next rest' hescape => exact (keeps_skipEscape rest).suffix_of_ok hescape
    split
    · exact List.suffix_rfl
    · exact List.suffix_cons b rest

theorem keeps_skipText : Keeps skipText := keeps_repeatedly (fun _ => keeps_skipTextStep) ()

end Reader

end ChatGateway.Json
