import ChatGateway.Proofs.Json.Kinds
import ChatGateway.Proofs.Json.Loose

/-!
# Whatever has the form of JSON can be skipped

A value that is not asked for is skipped, whatever it is: its depth, its names, the bytes
of its texts and the range of its numbers do not matter (`gives_skipValue`).  So the names
of an object can be read with its values skipped, and a body determines them
(`SpelledBody.names_perm`).

The skipper keeps a stack of open brackets, so a text inside another one is passed over
with brackets open that are not its own.  `Passes` speaks of any stack, and of any run
that goes on after the text; that makes it what the induction needs.
-/

namespace ChatGateway.Json

open Reader

/-! ## Texts -/

/-- Every piece is passed over in one step. -/
theorem LoosePiece.skipped {piece : List UInt8} (h : LoosePiece piece) {tail rest : List UInt8}
    (hruns : Runs skipTextStep () tail () rest) :
    Runs skipTextStep () (piece ++ tail) () rest := by
  have hquote : backslash ≠ quote := by decide
  cases h with
  | @byte b hb hbackslash hcontrol =>
      have hstep : skipTextStep () (b :: tail) = .ok (.again (), tail) := by
        simp [skipTextStep, hb, hbackslash, hcontrol]
      exact .again hstep (Nat.lt_succ_self _) hruns
  | @short letter c h =>
      have hstep : skipTextStep () (backslash :: Ascii.byte letter :: tail) =
          .ok (.again (), tail) := by
        simp only [skipTextStep, if_neg hquote, if_true, skipEscape,
          shortEscape?_shortEscapes _ h, Option.isSome_some]
      exact .again hstep (Nat.lt_succ_of_lt (Nat.lt_succ_self _)) hruns
  | @unit digits unit h =>
      have hmark : (shortEscape? hexMark).isSome = false := by decide
      have hstep : skipTextStep () (backslash :: hexMark :: (digits ++ tail)) =
          .ok (.again (), tail) := by
        simp only [skipTextStep, if_neg hquote, if_true, skipEscape, hmark, h.hexUnit,
          Bool.false_eq_true, if_false]
      refine .again hstep ?_ hruns
      simp only [List.length_cons, List.length_append]
      omega

theorem IsLooseText.skipped {content : List UInt8} (h : IsLooseText content)
    (rest : List UInt8) : skipText (content ++ quote :: rest) = .ok ((), rest) := by
  obtain ⟨pieces, hpieces, rfl⟩ := h
  refine Runs.repeatedly ?_
  induction pieces with
  | nil => exact .done rfl
  | cons p pieces ih =>
      obtain ⟨hp, hpieces⟩ := List.forall_mem_cons.mp hpieces
      rw [List.flatten_cons, List.append_assoc]
      exact hp.skipped (ih hpieces)

/-! ## Passing over a text inside brackets -/

/-- The entry goes on, with less of the text, to where only `rest` is left. -/
def Leads (entry : Reader (Turn (Expecting × List Bracket) Unit)) (text rest : List UInt8) :
    Prop :=
  ∃ state text', entry text = .ok (.again state, text') ∧ text'.length < text.length ∧
    Runs skipStep state text' () rest

theorem Leads.runs {state : Expecting × List Bracket} {text rest : List UInt8}
    (h : Leads (skipStep state) text rest) : Runs skipStep state text () rest := by
  obtain ⟨state', text', hstep, hshorter, hruns⟩ := h
  exact .again hstep hshorter hruns

/-- The entry passes over the text: it leads to wherever one comes from behind it, after
a value. -/
def Passes (entry : List Bracket → Reader (Turn (Expecting × List Bracket) Unit))
    (text : List UInt8) : Prop :=
  ∀ stack gap tail rest, IsGap gap → EndsNumber tail →
    Runs skipStep (.next, stack) tail () rest → Leads (entry stack) (gap ++ (text ++ tail)) rest

/-- What is expected inside a bracket, before its first piece or after another one. -/
def expecting (first : Bool) : Expecting := if first then .first else .next

theorem skipStep_expecting_close (bracket : Bracket) (stack : List Bracket) (first : Bool)
    {gap : List UInt8} (hgap : IsGap gap) (tail : List UInt8) :
    skipStep (expecting first, bracket :: stack) (gap ++ bracket.close :: tail) =
      .ok (.again (.next, stack), tail) := by
  have hblank : isBlank bracket.close = false := by cases bracket <;> decide
  cases first <;>
    simp only [expecting, if_true, if_false, Bool.false_eq_true, skipStep, hgap.skipBlanks,
      skipBlanks_cons hblank]

/-- The entry of a bracket does not mind blanks. -/
theorem skipEntry_skipBlanks {stack : List Bracket} {bracket : Bracket} {text : List UInt8} :
    skipEntry stack bracket (skipBlanks text) = skipEntry stack bracket text := by
  have hskip : skipBlanks (skipBlanks text) = skipBlanks text := by
    simp [skipBlanks, List.dropWhile_idempotent]
  cases bracket with
  | list => simp only [skipEntry, skipValueStep, hskip]
  | object => simp only [skipEntry, skipName, hskip]

/-- The first bytes of the pieces inside a bracket. -/
def OpensIn (bracket : Bracket) (text : List UInt8) : Prop :=
  ∃ b more, text = b :: more ∧ isBlank b = false ∧ b ≠ bracket.close

theorem skipStep_expecting {bracket : Bracket} {text gap before : List UInt8}
    (h : OpensIn bracket text) (hgap : IsGap gap) (hbefore : IsGap before) (first : Bool)
    (stack : List Bracket) (tail : List UInt8) :
    skipStep (expecting first, bracket :: stack)
        (gap ++ (lead first ++ (before ++ (text ++ tail)))) =
      skipEntry (bracket :: stack) bracket (before ++ (text ++ tail)) := by
  obtain ⟨b, more, rfl, hblank, hclose⟩ := h
  have hskip : skipBlanks (before ++ (b :: more ++ tail)) = b :: (more ++ tail) := by
    rw [hbefore.skipBlanks, List.cons_append, skipBlanks_cons hblank]
  cases first with
  | true =>
      rw [← skipEntry_skipBlanks, lead, if_pos rfl, List.nil_append, hskip]
      simp only [expecting, if_true, skipStep, hgap.skipBlanks, hskip, if_neg hclose]
  | false =>
      have hcomma : comma ≠ bracket.close := by cases bracket <;> decide
      rw [lead, if_neg (by decide), List.singleton_append]
      simp only [expecting, Bool.false_eq_true, if_false, skipStep, hgap.skipBlanks,
        skipBlanks_cons (show isBlank comma = false by decide), if_neg hcomma, if_true]

/-- Pieces that are passed over one by one are passed over up to the end of their
bracket. -/
theorem runs_spread {bracket : Bracket} {ps : List Padded}
    (hps : ∀ p ∈ ps, OpensIn bracket p.text ∧
      Passes (fun stack => skipEntry stack bracket) p.text)
    {inside tail rest : List UInt8} (hinside : IsGap inside) {stack : List Bracket}
    (hruns : Runs skipStep (.next, stack) tail () rest) :
    ∀ first gap, IsGap gap → Runs skipStep (expecting first, bracket :: stack)
      (gap ++ (spread first ps ++ (inside ++ bracket.close :: tail))) () rest := by
  have hclose : bracket.close = closeBracket ∨ bracket.close = closeBrace := by
    cases bracket
    · exact Or.inl rfl
    · exact Or.inr rfl
  induction ps with
  | nil =>
      intro first gap hgap
      have hstep := skipStep_expecting_close bracket stack first (hgap.append hinside) tail
      rw [spread, List.nil_append, ← List.append_assoc]
      refine .again hstep ?_ hruns
      simp only [List.length_append, List.length_cons]
      omega
  | cons p ps ih =>
      intro first gap hgap
      obtain ⟨⟨hopens, hp⟩, hps⟩ := List.forall_mem_cons.mp hps
      have hafter := ih hps false p.after p.after_isGap
      have hends := p.after_isGap.endsNumber (endsNumber_spread ps hinside hclose tail)
      obtain ⟨state, text', hentry, hshorter, hrun⟩ := hp _ _ _ _ p.before_isGap hends hafter
      have hstep := skipStep_expecting hopens hgap p.before_isGap first stack
      rw [spread]
      simp only [List.append_assoc]
      refine .again ((hstep _).trans hentry) ?_ hrun
      simp only [List.length_append] at hshorter ⊢
      omega

/-! ## Passing over values -/

/-- A text that a reader takes after its first byte is passed over in one step. -/
theorem passes_of_outcome {b : UInt8} {more : List UInt8} {reader : Reader Unit}
    (hblank : isBlank b = false) (hread : Outcome reader more (some ()))
    (hentry : ∀ stack text rest tail, skipBlanks text = b :: rest → reader rest = .ok ((), tail) →
      skipValueStep stack text = .ok (.again (.next, stack), tail)) :
    Passes skipValueStep (b :: more) := by
  intro stack gap tail rest hgap htail hruns
  have hskip : skipBlanks (gap ++ (b :: more ++ tail)) = b :: (more ++ tail) := by
    rw [hgap.skipBlanks, List.cons_append, skipBlanks_cons hblank]
  refine ⟨(.next, stack), tail, hentry stack _ _ _ hskip (hread.ok htail), ?_, hruns⟩
  simp only [List.length_append, List.length_cons]
  omega

theorem passes_null : Passes skipValueStep (0x6E :: wordNull) := by
  refine passes_of_outcome (by decide) (outcome_word wordNull) fun stack text rest tail htext h => ?_
  rw [skipValueStep, htext]
  simp [h]

theorem passes_bool (b : Bool) :
    Passes skipValueStep (Utf8.bytes (if b then "true" else "false")) := by
  cases b with
  | true =>
      rw [if_pos rfl, bytes_true]
      refine passes_of_outcome (by decide) (outcome_word wordTrue)
        fun stack text rest tail htext h => ?_
      rw [skipValueStep, htext]
      simp [h]
  | false =>
      rw [if_neg (by decide), bytes_false]
      refine passes_of_outcome (by decide) (outcome_word wordFalse)
        fun stack text rest tail htext h => ?_
      rw [skipValueStep, htext]
      simp [h]

theorem passes_number {literal : List UInt8} (h : IsLiteral literal) :
    Passes skipValueStep literal := by
  obtain ⟨b, more, rfl, hb, -, hskip⟩ := h.exists_cons
  have hnumber : (b = minus || Ascii.isDigit b) = true := by simpa using hb
  refine passes_of_outcome (isBlank_of_begins hb) hskip fun stack text rest tail htext h => ?_
  rw [skipValueStep, htext]
  simp only [if_neg (show b ≠ 0x6E from ne_of_begins hb (by decide) (by decide)),
    if_neg (show b ≠ 0x74 from ne_of_begins hb (by decide) (by decide)),
    if_neg (show b ≠ 0x66 from ne_of_begins hb (by decide) (by decide)), hnumber, if_true, h]

theorem passes_text {content : List UInt8} (h : IsLooseText content) :
    Passes skipValueStep (quote :: (content ++ [quote])) := by
  have hskip : Outcome skipText (content ++ [quote]) (some ()) := by
    intro rest _
    rw [List.append_assoc, List.singleton_append, h.skipped]
    rfl
  refine passes_of_outcome (by decide) hskip fun stack text rest tail htext h => ?_
  have hword : quote ≠ 0x6E ∧ quote ≠ 0x74 ∧ quote ≠ 0x66 := by decide
  have hnumber : (quote = minus || Ascii.isDigit quote) = false := by decide
  rw [skipValueStep, htext]
  simp [hword, hnumber, h]

/-- A bracket is opened, and everything inside it is passed over. -/
theorem passes_bracket {bracket : Bracket} {b : UInt8} {ps : List Padded}
    (hps : ∀ p ∈ ps, OpensIn bracket p.text ∧
      Passes (fun stack => skipEntry stack bracket) p.text)
    {inside : List UInt8} (hinside : IsGap inside) (hblank : isBlank b = false)
    (hentry : ∀ stack rest text, skipBlanks text = b :: rest →
      skipValueStep stack text = .ok (.again (.first, bracket :: stack), rest)) :
    Passes skipValueStep (b :: (spread true ps ++ (inside ++ [bracket.close]))) := by
  intro stack gap tail rest hgap _ hruns
  have hinner := runs_spread hps hinside hruns true [] isGap_nil
  have hskip := skipBlanks_gap_cons hgap hblank (spread true ps ++ (inside ++ [bracket.close])) tail
  rw [List.append_assoc] at hskip
  simp only [List.append_assoc, List.singleton_append, List.nil_append] at hskip hinner
  refine ⟨_, _, hentry stack _ _ (by simpa using hskip), ?_, hinner⟩
  simp only [List.length_append, List.length_cons, List.length_nil]
  omega

theorem skipName_loose {key : Padded} (h : IsLooseText key.text) {gap : List UInt8}
    (hgap : IsGap gap) (rest : List UInt8) :
    skipName (gap ++ quote :: (key.text ++ quote :: (key.after ++ colon :: rest))) =
      .ok ((), rest) := by
  rw [skipName, hgap.skipBlanks, skipBlanks_cons (by decide)]
  simp only [if_true, h.skipped, key.after_isGap.skipBlanks,
    skipBlanks_cons (show isBlank colon = false by decide)]

/-- A member is passed over in two steps: its name and its value. -/
theorem passes_member {key value : Padded} (hname : IsLooseText key.text)
    (hvalue : Passes skipValueStep value.text) :
    Passes (fun stack => skipEntry stack .object) (memberPiece key value).text := by
  intro stack gap tail rest hgap htail hruns
  have hskipped : Leads (skipStep (.value, stack)) _ rest :=
    hvalue stack value.before tail rest value.before_isGap htail hruns
  refine ⟨(.value, stack), value.before ++ (value.text ++ tail), ?_, ?_, hskipped.runs⟩
  · simp only [memberPiece, skipEntry, List.cons_append, List.append_assoc,
      skipName_loose hname hgap]
  · simp only [memberPiece, List.length_append, List.length_cons]
    omega

/-- Whatever has the form of JSON is passed over. -/
theorem IsJson.passes {text : List UInt8} (h : IsJson text) : Passes skipValueStep text := by
  induction h with
  | null =>
      rw [bytes_null]
      exact passes_null
  | bool b => exact passes_bool b
  | number h => exact passes_number h
  | text h => exact passes_text h
  | @array items inside hinside hitems ih =>
      have hps : ∀ p ∈ items, OpensIn .list p.text ∧
          Passes (fun stack => skipEntry stack .list) p.text :=
        fun p hp => ⟨(hitems p hp).opens, ih p hp⟩
      refine passes_bracket hps hinside (by decide) fun stack rest text htext => ?_
      rw [skipValueStep, htext]
      rfl
  | @object members inside hinside hnames hvalues ih =>
      have hps : ∀ p ∈ members.map fun m => memberPiece m.1 m.2, OpensIn .object p.text ∧
          Passes (fun stack => skipEntry stack .object) p.text := by
        simp only [List.forall_mem_map]
        exact fun m hm => ⟨⟨quote, _, rfl, by decide, by decide⟩,
          passes_member (hnames m hm) (ih m hm)⟩
      refine passes_bracket hps hinside (by decide) fun stack rest text htext => ?_
      rw [skipValueStep, htext]
      rfl

/-- **Whatever has the form of JSON can be skipped.** -/
theorem gives_skipValue {text : List UInt8} (h : IsJson text) :
    Gives skipValue text (some ()) := by
  intro gap hgap rest hrest
  have hend : Runs skipStep (.next, []) rest () rest := .done rfl
  have hskipped : Leads (skipStep (.value, [])) _ rest := h.passes [] gap rest rest hgap hrest hend
  rw [List.append_assoc, skipValue, hskipped.runs.repeatedly]
  rfl

theorem reads_skipValue {text : List UInt8} {t : Tree} (h : Spelled text t) :
    Reads skipValue text () :=
  reads_iff_outcome.mpr (gives_skipValue h.isJson).outcome

/-! ## The names of an object -/

/-- A body begins with the first byte of its tree. -/
theorem SpelledBody.begins {body : List UInt8} {t : Tree} (h : SpelledBody body t) :
    ∃ b more, skipBlanks body = b :: more ∧ t.Begins b := by
  obtain ⟨p, hp, rfl⟩ := h
  obtain ⟨b, more, htext, hb⟩ := hp.exists_cons
  refine ⟨b, more ++ p.after, ?_, hb⟩
  rw [Padded.bytes, htext, List.cons_append, p.before_isGap.skipBlanks, skipBlanks_cons hb.isBlank]

/-- The names of an object are found in its body, with its values skipped. -/
theorem SpelledBody.names {body : List UInt8} {members : List (String × Tree)}
    (h : SpelledBody body (.object members)) :
    ∃ (more : List UInt8) (names : List String) (unread : List UInt8),
      skipBlanks body = openBrace :: more ∧
      objectOf skipValue more = .ok (names.map fun name => (name, ()), unread) ∧
      names.Perm (members.map Prod.fst) := by
  obtain ⟨p, hp, rfl⟩ := h
  obtain ⟨spelled, inside, hinside, hnames, hvalues, hperm, htext⟩ := hp.of_object
  have hskip : ∀ m ∈ spelled, Gives skipValue m.value.text (some ()) :=
    fun m hm => gives_skipValue (hvalues m hm).isJson
  have hread := outcome_members (f := fun _ => some ()) hnames hskip hinside
  have hall : ∀ m ∈ spelled, (some ()).map (Prod.mk m.name) = some (m.name, ()) := fun _ _ => rfl
  rw [mapM_eq_some hall] at hread
  have hends : EndsNumber p.after := by
    simpa using p.after_isGap.endsNumber endsNumber_nil
  have hbody : skipBlanks p.bytes = openBrace ::
      ((spread true (spelled.map fun m => memberPiece m.key m.value) ++
        (inside ++ [closeBrace])) ++ p.after) := by
    rw [Padded.bytes, htext, List.cons_append, p.before_isGap.skipBlanks,
      skipBlanks_cons (by decide)]
  have hmap := hperm.map Prod.fst
  rw [List.map_map] at hmap
  refine ⟨_, spelled.map fun m => m.name, p.after, hbody, ?_, hmap⟩
  rw [List.map_map]
  exact hread.ok hends

/-- **A body spells objects of the same names only.** -/
theorem SpelledBody.names_perm {body : List UInt8} {members : List (String × Tree)} {t : Tree}
    (h : SpelledBody body (.object members)) (ht : SpelledBody body t) :
    ∃ members', t = .object members' ∧ (members'.map Prod.fst).Perm (members.map Prod.fst) := by
  obtain ⟨more, names, unread, hskip, hread, hperm⟩ := h.names
  obtain ⟨b, more', hskip', hb⟩ := ht.begins
  obtain ⟨rfl, rfl⟩ := List.cons.inj (hskip.symm.trans hskip')
  obtain ⟨members', rfl⟩ := hb.eq_object
  obtain ⟨more', names', unread', hskip', hread', hperm'⟩ := ht.names
  obtain ⟨-, rfl⟩ := List.cons.inj (hskip.symm.trans hskip')
  -- one reader has read both, so what it read is the same
  have hsame : names.map (fun name => (name, ())) = names'.map fun name => (name, ()) :=
    (Prod.mk.inj (Except.ok.inj (hread.symm.trans hread'))).1
  have hnames : names = names' :=
    List.map_injective_iff.mpr (fun _ _ heq => (Prod.mk.inj heq).1) hsame
  exact ⟨members', rfl, hperm'.symm.trans (hnames ▸ hperm)⟩

end ChatGateway.Json
