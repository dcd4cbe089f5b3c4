import ChatGateway.Proofs.Json.Skipped
import ChatGateway.Proofs.Json.Taken.Number
import ChatGateway.Proofs.Json.Taken.Text

/-!
# What is passed over

Only what has the form of JSON is passed over (`isJson_of_skipValue`).  The skipper works
from the front of a text and keeps a stack of open brackets, so the grammar is not found in
the order of its rules.  `Closes` says what the open brackets demand of the text that is
left: the pieces that are still to come inside each of them, and what closes it.  With that,
every step back in the run puts what it has taken in front of the innermost bracket.
-/

namespace ChatGateway.Json

open Reader

/-! ## Words -/

theorem eq_of_expectWord {word text rest : List UInt8} (h : expectWord word text = .ok ((), rest)) :
    text = word ++ rest := by
  induction word generalizing text with
  | nil =>
      simp only [expectWord, Except.ok.injEq, Prod.mk.injEq, true_and] at h
      exact h
  | cons b word ih =>
      cases text with
      | nil => simp [expectWord, refuse] at h
      | cons c text =>
          rw [expectWord] at h
          split at h
          next hb => rw [List.cons_append, hb, ih h]
          · contradiction

/-! ## Pieces -/

/-- The text goes on with the pieces, closes the bracket that they are in, and leaves
`rest`.  A comma is due before a piece that is not the first one. -/
def Pieces (close : UInt8) (first : Bool) (ps : List Padded) (text rest : List UInt8) : Prop :=
  ∃ gap inside, IsGap gap ∧ (first = true → gap = []) ∧ IsGap inside ∧
    text = gap ++ (spread first ps ++ (inside ++ close :: rest))

theorem pieces_nil {close : UInt8} {first : Bool} {gap rest : List UInt8} (hgap : IsGap gap) :
    Pieces close first [] (gap ++ close :: rest) rest :=
  ⟨[], gap, isGap_nil, fun _ => rfl, hgap, rfl⟩

/-- A piece is put in front of the others. -/
theorem Pieces.cons {close : UInt8} {first : Bool} {ps : List Padded}
    {gap before tail rest : List UInt8} (h : Pieces close false ps tail rest)
    (piece : List UInt8) (hgap : IsGap gap) (hfirst : first = true → gap = [])
    (hbefore : IsGap before) :
    ∃ (after : List UInt8) (hafter : IsGap after),
      Pieces close first (⟨before, piece, after, hbefore, hafter⟩ :: ps)
        (gap ++ (lead first ++ (before ++ (piece ++ tail)))) rest := by
  obtain ⟨after, inside, hafter, -, hinside, rfl⟩ := h
  exact ⟨after, hafter, gap, inside, hgap, hfirst, hinside, by simp [spread]⟩

theorem Pieces.of_first {close : UInt8} {ps : List Padded} {text rest : List UInt8}
    (h : Pieces close true ps text rest) :
    ∃ inside, IsGap inside ∧ text = spread true ps ++ (inside ++ close :: rest) := by
  obtain ⟨gap, inside, -, hfirst, hinside, rfl⟩ := h
  rw [hfirst rfl]
  exact ⟨inside, hinside, rfl⟩

/-! ## What the open brackets demand -/

/-- The byte that opens the bracket. -/
def opening : Bracket → UInt8
  | .list => openBracket
  | .object => openBrace

/-- The items of a list, and the members of an object. -/
inductive IsPiece : Bracket → List UInt8 → Prop where
  | item {text : List UInt8} (h : IsJson text) : IsPiece .list text
  | member {key value : Padded} (hname : IsLooseText key.text) (hvalue : IsJson value.text) :
      IsPiece .object (memberPiece key value).text

theorem isJson_bracket {bracket : Bracket} {ps : List Padded}
    (hps : ∀ p ∈ ps, IsPiece bracket p.text) {inside : List UInt8} (hinside : IsGap inside) :
    IsJson (opening bracket :: (spread true ps ++ (inside ++ [bracket.close]))) := by
  cases bracket with
  | list =>
      refine .array hinside fun p hp => ?_
      obtain ⟨h⟩ := hps p hp
      exact h
  | object =>
      let Member := {m : Padded × Padded // IsLooseText m.1.text ∧ IsJson m.2.text}
      have hmembers : ps ∈ Set.range (List.map fun m : Member => memberPiece m.1.1 m.1.2) := by
        rw [Set.range_list_map]
        intro p hp
        obtain ⟨before, text, after, hbefore, hafter⟩ := p
        cases hps _ hp with
        -- the blanks around the member are those before its name and after its value
        | @member key value hname hvalue =>
            exact ⟨⟨({ key with before, before_isGap := hbefore },
              { value with after, after_isGap := hafter }), hname, hvalue⟩, rfl⟩
      obtain ⟨members, rfl⟩ := hmembers
      have hobject := @IsJson.object (members.map Subtype.val) inside hinside
        (List.forall_mem_map.mpr fun m _ => m.2.1) (List.forall_mem_map.mpr fun m _ => m.2.2)
      rwa [List.map_map] at hobject

/-- The text closes the open brackets, and leaves `rest`.  In the innermost one a piece may
have been read before. -/
inductive Closes : Bool → List Bracket → List UInt8 → List UInt8 → Prop where
  | nil {first : Bool} {rest : List UInt8} : Closes first [] rest rest
  | cons {first : Bool} {bracket : Bracket} {stack : List Bracket} {ps : List Padded}
      {text tail rest : List UInt8} (hps : ∀ p ∈ ps, IsPiece bracket p.text)
      (hpieces : Pieces bracket.close first ps text tail) (h : Closes false stack tail rest) :
      Closes first (bracket :: stack) text rest

/-- What is left of the text where the skipper is in the given state. -/
def Finishes : Expecting × List Bracket → List UInt8 → List UInt8 → Prop
  | (.value, stack), text, rest => ∃ gap value tail, IsGap gap ∧ IsJson value ∧
      text = gap ++ (value ++ tail) ∧ Closes false stack tail rest
  | (.first, stack), text, rest => Closes true stack text rest
  | (.next, stack), text, rest => Closes false stack text rest

theorem Closes.piece {first : Bool} {bracket : Bracket} {stack : List Bracket}
    {gap before piece tail rest : List UInt8} (hgap : IsGap gap)
    (hfirst : first = true → gap = []) (hbefore : IsGap before) (hpiece : IsPiece bracket piece)
    (h : Closes false (bracket :: stack) tail rest) :
    Closes first (bracket :: stack) (gap ++ (lead first ++ (before ++ (piece ++ tail)))) rest := by
  cases h with
  | cons hps hpieces h =>
      obtain ⟨after, hafter, hpieces⟩ := hpieces.cons piece hgap hfirst hbefore
      exact .cons (List.forall_mem_cons.mpr ⟨hpiece, hps⟩) hpieces h

/-! ## Steps -/

/-- The reader takes what is left of a value behind its first byte. -/
def TakesAfter (b : UInt8) (reader : Reader Unit) : Prop :=
  ∀ text rest, reader text = .ok ((), rest) → ∃ more, IsJson (b :: more) ∧ text = more ++ rest

theorem takesAfter_null : TakesAfter 0x6E (expectWord wordNull) :=
  fun _ _ h => ⟨wordNull, bytes_null ▸ .null, eq_of_expectWord h⟩

theorem takesAfter_true : TakesAfter 0x74 (expectWord wordTrue) :=
  fun _ _ h => ⟨wordTrue, bytes_true ▸ .bool true, eq_of_expectWord h⟩

theorem takesAfter_false : TakesAfter 0x66 (expectWord wordFalse) :=
  fun _ _ h => ⟨wordFalse, bytes_false ▸ .bool false, eq_of_expectWord h⟩

theorem takesAfter_number (b : UInt8) : TakesAfter b (skipNumber b) := by
  intro text rest h
  obtain ⟨more, hmore, rfl⟩ := isLiteral_of_skipNumber h
  exact ⟨more, .number hmore, rfl⟩

theorem takesAfter_text : TakesAfter quote skipText := by
  intro text rest h
  obtain ⟨content, hcontent, rfl⟩ := isLooseText_of_skipText h
  exact ⟨content ++ [quote], .text hcontent, by simp⟩

/-- What a step at a value comes to: the value is taken, or a bracket is opened. -/
def Enters (stack : List Bracket) (text rest : List UInt8)
    (turn : Turn (Expecting × List Bracket) Unit) : Prop :=
  (∃ gap value, IsGap gap ∧ IsJson value ∧ text = gap ++ (value ++ rest) ∧
    turn = .again (.next, stack)) ∨
  ∃ gap bracket, IsGap gap ∧ text = gap ++ opening bracket :: rest ∧
    turn = .again (.first, bracket :: stack)

theorem TakesAfter.enters {b : UInt8} {reader : Reader Unit} (hreader : TakesAfter b reader)
    {stack : List Bracket} {gap text rest : List UInt8} (hgap : IsGap gap)
    {turn : Turn (Expecting × List Bracket) Unit}
    (h : (match reader text with
      | .error fault => .error fault
      | .ok (_, rest) => .ok (.again (.next, stack), rest)) =
        (.ok (turn, rest) : Except Fault (Turn (Expecting × List Bracket) Unit × List UInt8))) :
    Enters stack (gap ++ b :: text) rest turn := by
  split at h
  · contradiction
  next hread =>
    simp only [Except.ok.injEq, Prod.mk.injEq] at h
    obtain ⟨rfl, rfl⟩ := h
    obtain ⟨more, hjson, rfl⟩ := hreader _ _ hread
    exact Or.inl ⟨gap, b :: more, hgap, hjson, rfl, rfl⟩

theorem skipValueStep_cases {stack : List Bracket} {text rest : List UInt8}
    {turn : Turn (Expecting × List Bracket) Unit}
    (h : skipValueStep stack text = .ok (turn, rest)) : Enters stack text rest turn := by
  simp only [skipValueStep] at h
  split at h
  · contradiction
  next b text' hskip =>
    obtain ⟨gap, hgap, rfl⟩ := exists_gap_of_skipBlanks hskip
    clear hskip
    split_ifs at h with hnull htrue hfalse hnumber hquote hlist hobject
    · subst hnull
      exact takesAfter_null.enters hgap h
    · subst htrue
      exact takesAfter_true.enters hgap h
    · subst hfalse
      exact takesAfter_false.enters hgap h
    · exact (takesAfter_number b).enters hgap h
    · subst hquote
      exact takesAfter_text.enters hgap h
    · subst hlist
      simp only [Except.ok.injEq, Prod.mk.injEq] at h
      obtain ⟨rfl, rfl⟩ := h
      exact Or.inr ⟨gap, .list, hgap, rfl, rfl⟩
    · subst hobject
      simp only [Except.ok.injEq, Prod.mk.injEq] at h
      obtain ⟨rfl, rfl⟩ := h
      exact Or.inr ⟨gap, .object, hgap, rfl, rfl⟩
    · contradiction

/-- Where a step at a value leads on to the end, there is a value. -/
theorem finishes_value {stack : List Bracket} {state : Expecting × List Bracket}
    {text text' rest : List UInt8} (hstep : skipValueStep stack text = .ok (.again state, text'))
    (h : Finishes state text' rest) : Finishes (.value, stack) text rest := by
  obtain ⟨gap, value, hgap, hvalue, rfl, hturn⟩ | ⟨gap, bracket, hgap, rfl, hturn⟩ :=
    skipValueStep_cases hstep
  · obtain rfl := Turn.again.inj hturn
    exact ⟨gap, value, text', hgap, hvalue, rfl, h⟩
  · obtain rfl := Turn.again.inj hturn
    obtain - | ⟨hps, hpieces, h⟩ := h
    obtain ⟨inside, hinside, rfl⟩ := hpieces.of_first
    exact ⟨gap, _, _, hgap, isJson_bracket hps hinside, by simp, h⟩

theorem skipName_cases {text rest : List UInt8} (h : skipName text = .ok ((), rest)) :
    ∃ (gap : List UInt8) (key : Padded), IsGap gap ∧ IsLooseText key.text ∧
      text = gap ++ quote :: (key.text ++ quote :: (key.after ++ colon :: rest)) := by
  unfold skipName at h
  split at h
  · contradiction
  next b text' hskip =>
    obtain ⟨gap, hgap, rfl⟩ := exists_gap_of_skipBlanks hskip
    clear hskip
    split at h
    swap
    · contradiction
    next hquote =>
      subst hquote
      split at h
      · contradiction
      next text'' hname =>
        obtain ⟨content, hcontent, rfl⟩ := isLooseText_of_skipText hname
        clear hname
        split at h
        · contradiction
        next b rest' hskip =>
          obtain ⟨after, hafter, rfl⟩ := exists_gap_of_skipBlanks hskip
          clear hskip
          split at h
          next hcolon =>
            subst hcolon
            simp only [Except.ok.injEq, Prod.mk.injEq, true_and] at h
            subst h
            exact ⟨gap, { text := content, after, after_isGap := hafter }, hgap, hcontent, rfl⟩
          · contradiction

/-- Where an entry leads on to the end, there is a piece. -/
theorem exists_piece {bracket : Bracket} {stack : List Bracket} {state : Expecting × List Bracket}
    {text text' rest : List UInt8}
    (hstep : skipEntry stack bracket text = .ok (.again state, text'))
    (h : Finishes state text' rest) :
    ∃ gap piece tail, IsGap gap ∧ IsPiece bracket piece ∧ text = gap ++ (piece ++ tail) ∧
      Closes false stack tail rest := by
  cases bracket with
  | list =>
      obtain ⟨gap, value, tail, hgap, hvalue, rfl, h⟩ := finishes_value hstep h
      exact ⟨gap, value, tail, hgap, .item hvalue, rfl, h⟩
  | object =>
      simp only [skipEntry] at hstep
      split at hstep
      · contradiction
      next hname =>
        simp only [Except.ok.injEq, Prod.mk.injEq, Turn.again.injEq] at hstep
        obtain ⟨rfl, rfl⟩ := hstep
        obtain ⟨gap, key, hgap, hkey, rfl⟩ := skipName_cases hname
        obtain ⟨before, value, tail, hbefore, hvalue, rfl, h⟩ := h
        let member : Padded := { before, text := value, before_isGap := hbefore }
        refine ⟨gap, (memberPiece key member).text, tail, hgap, .member hkey hvalue, ?_, h⟩
        simp [memberPiece, member]

/-- Inside a bracket a step closes it or enters the next piece. -/
theorem skipStep_cases {first : Bool} {bracket : Bracket} {stack : List Bracket}
    {turn : Turn (Expecting × List Bracket) Unit} {text rest : List UInt8}
    (h : skipStep (expecting first, bracket :: stack) text = .ok (turn, rest)) :
    (∃ gap, IsGap gap ∧ text = gap ++ bracket.close :: rest ∧ turn = .again (.next, stack)) ∨
    ∃ gap more, IsGap gap ∧ (first = true → gap = []) ∧ text = gap ++ (lead first ++ more) ∧
      skipEntry (bracket :: stack) bracket more = .ok (turn, rest) := by
  cases hskip : skipBlanks text with
  | nil => cases first <;> simp [skipStep, expecting, hskip, refuse] at h
  | cons b more =>
      obtain ⟨gap, hgap, htext⟩ := exists_gap_of_skipBlanks hskip
      by_cases hclose : b = bracket.close
      · have hclosed : skipStep (expecting first, bracket :: stack) text =
            .ok (.again (.next, stack), more) := by
          cases first <;> simp [skipStep, expecting, hskip, hclose]
        obtain ⟨rfl, rfl⟩ : Turn.again (Expecting.next, stack) = turn ∧ more = rest := by
          simpa using hclosed.symm.trans h
        exact Or.inl ⟨gap, hgap, hclose ▸ htext, rfl⟩
      refine Or.inr ?_
      cases first with
      | true =>
          refine ⟨[], text, isGap_nil, fun _ => rfl, rfl, ?_⟩
          rw [← skipEntry_skipBlanks, hskip]
          simpa [skipStep, expecting, hskip, hclose] using h
      | false =>
          by_cases hcomma : b = comma
          · subst hcomma
            refine ⟨gap, more, hgap, by simp, htext, ?_⟩
            simpa [skipStep, expecting, hskip, hclose] using h
          · simp [skipStep, expecting, hskip, hclose, hcomma, refuse] at h

theorem closes_of_skipStep {first : Bool} {bracket : Bracket} {stack : List Bracket}
    {state : Expecting × List Bracket} {text text' rest : List UInt8}
    (hstep : skipStep (expecting first, bracket :: stack) text = .ok (.again state, text'))
    (h : Finishes state text' rest) : Closes first (bracket :: stack) text rest := by
  obtain ⟨gap, hgap, rfl, hturn⟩ | ⟨gap, more, hgap, hfirst, rfl, hentry⟩ := skipStep_cases hstep
  · obtain rfl := Turn.again.inj hturn
    exact .cons (List.forall_mem_nil _) (pieces_nil hgap) h
  · obtain ⟨before, piece, tail, hbefore, hpiece, rfl, h⟩ := exists_piece hentry h
    exact h.piece hgap hfirst hbefore hpiece

/-- A step is taken back. -/
theorem finishes_of_skipStep {state state' : Expecting × List Bracket}
    {text text' rest : List UInt8} (hstep : skipStep state text = .ok (.again state', text'))
    (h : Finishes state' text' rest) : Finishes state text rest := by
  obtain ⟨expected, stack⟩ := state
  cases expected with
  | value => exact finishes_value hstep h
  | first =>
      cases stack with
      | nil => simp [skipStep] at hstep
      | cons bracket stack => exact @closes_of_skipStep true _ _ _ _ _ _ hstep h
  | next =>
      cases stack with
      | nil => simp [skipStep] at hstep
      | cons bracket stack => exact @closes_of_skipStep false _ _ _ _ _ _ hstep h

theorem not_done_of_skipEntry {bracket : Bracket} {stack : List Bracket} {text rest : List UInt8} :
    skipEntry stack bracket text ≠ .ok (.done (), rest) := by
  intro h
  cases bracket with
  | list =>
      obtain ⟨_, _, _, _, _, hturn⟩ | ⟨_, _, _, _, hturn⟩ := skipValueStep_cases h
      · contradiction
      · contradiction
  | object =>
      simp only [skipEntry] at h
      split at h <;> simp at h

/-- The run is done only where no bracket is open. -/
theorem finishes_of_done {state : Expecting × List Bracket} {text rest : List UInt8}
    (hstep : skipStep state text = .ok (.done (), rest)) : Finishes state text rest := by
  have hopen (first : Bool) (bracket : Bracket) (stack : List Bracket) :
      skipStep (expecting first, bracket :: stack) text ≠ .ok (.done (), rest) := by
    intro h
    obtain ⟨_, _, _, hturn⟩ | ⟨_, _, _, _, _, hentry⟩ := skipStep_cases h
    · contradiction
    · exact not_done_of_skipEntry hentry
  obtain ⟨expected, stack⟩ := state
  cases expected with
  | value => exact absurd hstep (@not_done_of_skipEntry .list _ _ _)
  | first =>
      cases stack with
      | nil =>
          obtain rfl : text = rest := by simpa [skipStep] using hstep
          exact .nil
      | cons bracket stack => exact absurd hstep (hopen true bracket stack)
  | next =>
      cases stack with
      | nil =>
          obtain rfl : text = rest := by simpa [skipStep] using hstep
          exact .nil
      | cons bracket stack => exact absurd hstep (hopen false bracket stack)

/-- **Only what has the form of JSON is passed over.** -/
theorem isJson_of_skipValue {text rest : List UInt8} (h : skipValue text = .ok ((), rest)) :
    ∃ gap value, IsGap gap ∧ IsJson value ∧ text = gap ++ (value ++ rest) := by
  have hread : Finishes (.value, []) text rest :=
    of_repeatedly (P := fun state text _ rest => Finishes state text rest) finishes_of_done
      finishes_of_skipStep h
  obtain ⟨gap, value, tail, hgap, hvalue, rfl, hclosed⟩ := hread
  cases hclosed with
  | nil => exact ⟨gap, value, hgap, hvalue, rfl⟩

end ChatGateway.Json
