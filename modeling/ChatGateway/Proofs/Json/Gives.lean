import ChatGateway.Json.Decode
import ChatGateway.Proofs.Json.Number
import ChatGateway.Proofs.Json.Text

/-!
# What a reader makes of a text

A reader takes a text, or it refuses it.  `Outcome reader text outcome` says which,
whatever ends the text: only what follows may not continue a number.  An outcome
`some a` means that the whole of the text is taken and made into `a`; `none` means that
the text is refused.  `Gives` says the same with any blanks before the text.

Lists and objects are read piece by piece, with blanks around each piece (`Padded`) and
commas between them (`spread`).  They are taken if all of their pieces are, and refused
as soon as one is (`listOf_spread`, `objectOf_spread`).
-/

namespace ChatGateway.Json

open Reader

variable {α β γ : Type}

/-! ## Blanks -/

theorem IsGap.append {gap gap' : List UInt8} (h : IsGap gap) (h' : IsGap gap') :
    IsGap (gap ++ gap') := by
  intro b hb
  rcases List.mem_append.mp hb with hb | hb
  · exact h b hb
  · exact h' b hb

theorem IsGap.skipBlanks {gap : List UInt8} (h : IsGap gap) (rest : List UInt8) :
    skipBlanks (gap ++ rest) = skipBlanks rest :=
  List.dropWhile_append_of_pos h

/-- The blanks that are skipped stand before what is left. -/
theorem exists_gap_of_skipBlanks {text rest : List UInt8} (h : Json.skipBlanks text = rest) :
    ∃ gap, IsGap gap ∧ text = gap ++ rest := by
  refine ⟨text.takeWhile isBlank, fun _ => List.mem_takeWhile_imp, ?_⟩
  rw [← h, Json.skipBlanks, List.takeWhile_append_dropWhile]

/-- Blanks do not continue a number. -/
theorem IsGap.endsNumber {gap rest : List UInt8} (h : IsGap gap) (hrest : EndsNumber rest) :
    EndsNumber (gap ++ rest) := by
  cases gap with
  | nil => exact hrest
  | cons b gap =>
      have hb := h b List.mem_cons_self
      simp only [isBlank, Bool.or_eq_true, beq_iff_eq] at hb
      rw [List.cons_append, endsNumber_cons]
      rcases hb with ((rfl | rfl) | rfl) | rfl <;> decide

/-! ## Outcomes -/

/-- The reader comes to the outcome on the text, whatever ends it. -/
def Outcome (reader : Reader α) (text : List UInt8) (outcome : Option α) : Prop :=
  ∀ rest, EndsNumber rest → (reader (text ++ rest)).toOption = outcome.map fun a => (a, rest)

theorem Outcome.ok {reader : Reader α} {text rest : List UInt8} {a : α}
    (h : Outcome reader text (some a)) (hrest : EndsNumber rest) :
    reader (text ++ rest) = .ok (a, rest) :=
  toOption_eq_some_iff.mp (h rest hrest)

theorem Outcome.error {reader : Reader α} {text rest : List UInt8}
    (h : Outcome reader text none) (hrest : EndsNumber rest) :
    ∃ fault, reader (text ++ rest) = .error fault :=
  toOption_eq_none_iff.mp (h rest hrest)

theorem Outcome.map {reader : Reader α} {text : List UInt8} {outcome : Option α}
    (h : Outcome reader text outcome) (f : α → β) :
    Outcome (Reader.map f reader) text (outcome.map f) := by
  intro rest hrest
  cases outcome with
  | none =>
      obtain ⟨fault, hfault⟩ := h.error hrest
      rw [Reader.map, hfault]
      rfl
  | some a =>
      rw [Reader.map, h.ok hrest]
      rfl

/-- The reader comes to the outcome on the text, whatever ends it and with any blanks
before it. -/
def Gives (reader : Reader α) (text : List UInt8) (outcome : Option α) : Prop :=
  ∀ gap, IsGap gap → Outcome reader (gap ++ text) outcome

theorem Gives.outcome {reader : Reader α} {text : List UInt8} {outcome : Option α}
    (h : Gives reader text outcome) : Outcome reader text outcome :=
  h [] isGap_nil

theorem Gives.map {reader : Reader α} {text : List UInt8} {outcome : Option α}
    (h : Gives reader text outcome) (f : α → β) :
    Gives (Reader.map f reader) text (outcome.map f) :=
  fun gap hgap => (h gap hgap).map f

/-! ## Pieces with blanks around them -/

/-- A body that is a text with blanks around it is decoded as the text is read. -/
theorem Gives.decode {reader : Reader α} {p : Padded} {outcome : Option α}
    (h : Gives reader p.text outcome) : (decode reader p.bytes).toOption = outcome := by
  have hends : EndsNumber p.after := by
    simpa using p.after_isGap.endsNumber endsNumber_nil
  have hblank : skipBlanks p.after = [] := by
    simpa [skipBlanks] using p.after_isGap.skipBlanks []
  have hread := h p.before p.before_isGap
  rw [Padded.bytes, ← List.append_assoc, Json.decode, entire]
  cases outcome with
  | none =>
      obtain ⟨fault, hfault⟩ := hread.error hends
      rw [hfault]
      rfl
  | some a =>
      rw [hread.ok hends]
      simp only [hblank]
      rfl

/-- What follows a piece ends a number. -/
theorem endsNumber_spread (ps : List Padded) {inside : List UInt8} (hinside : IsGap inside)
    {close : UInt8} (hclose : close = closeBracket ∨ close = closeBrace) (rest : List UInt8) :
    EndsNumber (spread false ps ++ (inside ++ close :: rest)) := by
  cases ps with
  | nil =>
      refine hinside.endsNumber ?_
      rw [endsNumber_cons]
      rcases hclose with rfl | rfl <;> decide
  | cons p ps =>
      rw [spread, lead, if_neg (by decide), List.cons_append, List.cons_append, endsNumber_cons]
      decide

/-! ## Lists -/

/-- A text that begins with what may begin an item of a list. -/
def Opens (text : List UInt8) : Prop :=
  ∃ b more, text = b :: more ∧ isBlank b = false ∧ b ≠ closeBracket

theorem opens_cons {b : UInt8} {more : List UInt8} (hblank : isBlank b = false)
    (hclose : b ≠ closeBracket) : Opens (b :: more) :=
  ⟨b, more, rfl, hblank, hclose⟩

theorem Opens.length_pos {text : List UInt8} (h : Opens text) : 0 < text.length := by
  obtain ⟨b, more, rfl, -⟩ := h
  exact Nat.zero_lt_succ _

/-- A text is found behind blanks. -/
theorem Opens.skipBlanks {text gap : List UInt8} (h : Opens text) (hgap : IsGap gap)
    (rest : List UInt8) : skipBlanks (gap ++ (text ++ rest)) = text ++ rest := by
  obtain ⟨b, more, rfl, hblank, -⟩ := h
  rw [hgap.skipBlanks, List.cons_append, skipBlanks_cons hblank]

theorem nextItem_gap_close {gap : List UInt8} (hgap : IsGap gap) (first : Bool)
    (rest : List UInt8) :
    nextItem first (gap ++ closeBracket :: rest) = .ok (false, closeBracket :: rest) := by
  rw [nextItem, hgap.skipBlanks, skipBlanks_cons (by decide)]
  rfl

theorem nextItem_gap_lead {text gap before : List UInt8} (h : Opens text) (hgap : IsGap gap)
    (hbefore : IsGap before) (first : Bool) (rest : List UInt8) :
    nextItem first (gap ++ (lead first ++ (before ++ (text ++ rest)))) =
      .ok (true, text ++ rest) := by
  have hskip := h.skipBlanks hbefore rest
  obtain ⟨b, more, rfl, hblank, hclose⟩ := h
  rw [List.cons_append] at hskip ⊢
  cases first with
  | true =>
      rw [lead, if_pos rfl, List.nil_append, nextItem, hgap.skipBlanks, hskip]
      simp [hclose]
  | false =>
      have hcomma : comma ≠ closeBracket := by decide
      rw [lead, if_neg (by decide), List.singleton_append, nextItem, hgap.skipBlanks,
        skipBlanks_cons (by decide)]
      simp [hskip, hclose, hcomma]

/-- The next item of a list is taken if its reader takes it. -/
theorem toOption_itemStep {item : Reader α} {p : Padded} {outcome : Option α}
    (hopens : Opens p.text) (hitem : Outcome item p.text outcome) {gap : List UInt8}
    (hgap : IsGap gap) (read : List α) {rest : List UInt8} (hrest : EndsNumber rest) :
    (itemStep item read
        (gap ++ (lead read.isEmpty ++ (p.before ++ (p.text ++ rest))))).toOption =
      outcome.map fun a => (.again (a :: read), rest) := by
  rw [itemStep, nextItem_gap_lead hopens hgap p.before_isGap]
  cases outcome with
  | none =>
      obtain ⟨fault, hfault⟩ := hitem.error hrest
      simp only [hfault]
      rfl
  | some a =>
      simp only [hitem.ok hrest]
      rfl

theorem ends_itemStep {item : Reader α} {piece : γ → Padded} {f : γ → Option α}
    {items : List γ}
    (hitems : ∀ i ∈ items, Opens (piece i).text ∧ Outcome item (piece i).text (f i))
    {inside : List UInt8} (hinside : IsGap inside) (rest : List UInt8) :
    ∀ (read : List α) (gap : List UInt8), IsGap gap →
      Ends (itemStep item) read
        (gap ++ (spread read.isEmpty (items.map piece) ++ (inside ++ closeBracket :: rest)))
        ((items.mapM f).map fun as => (read.reverse ++ as, rest)) := by
  induction items with
  | nil =>
      intro read gap hgap
      refine .done ?_
      rw [List.map_nil, spread, List.nil_append, ← List.append_assoc, itemStep,
        nextItem_gap_close (hgap.append hinside)]
      simp
  | cons i items ih =>
      intro read gap hgap
      obtain ⟨⟨hopens, hi⟩, hitems⟩ := List.forall_mem_cons.mp hitems
      have hrest := (piece i).after_isGap.endsNumber
        (endsNumber_spread (items.map piece) hinside (Or.inl rfl) rest)
      rw [List.map_cons, spread, List.append_assoc, List.append_assoc, List.append_assoc,
        List.append_assoc, mapM_cons_eq, Option.map_bind]
      refine .of_again (toOption_itemStep hopens hi hgap read hrest) ?_ fun a => ?_
      · have hlength := hopens.length_pos
        simp only [List.length_append]
        omega
      -- once an item has been read, a comma is due before each of the others
      · have hends := ih hitems (a :: read) (piece i).after (piece i).after_isGap
        simpa [Function.comp_def] using hends

/-- The items of a list are taken if each of them is. -/
theorem listOf_spread {item : Reader α} {piece : γ → Padded} {f : γ → Option α}
    {items : List γ}
    (hitems : ∀ i ∈ items, Opens (piece i).text ∧ Outcome item (piece i).text (f i))
    {inside : List UInt8} (hinside : IsGap inside) (rest : List UInt8) :
    (listOf item (spread true (items.map piece) ++ (inside ++ closeBracket :: rest))).toOption =
      (items.mapM f).map fun as => (as, rest) :=
  (ends_itemStep hitems hinside rest [] [] isGap_nil).repeatedly

/-! ## Objects -/

theorem spread_memberPiece (first : Bool) (key value : Padded) (ps : List Padded) :
    spread first (memberPiece key value :: ps) =
      lead first ++ (key.before ++ quote :: (key.text ++ quote :: (key.after ++
        colon :: (value.before ++ (value.text ++ (value.after ++ spread false ps)))))) := by
  simp [spread, memberPiece]

theorem nextMember_gap_close {gap : List UInt8} (hgap : IsGap gap) (first : Bool)
    (rest : List UInt8) :
    nextMember first (gap ++ closeBrace :: rest) = .ok (false, closeBrace :: rest) := by
  rw [nextMember, hgap.skipBlanks, skipBlanks_cons (by decide)]
  rfl

theorem nextMember_gap_lead {gap before : List UInt8} (hgap : IsGap gap) (hbefore : IsGap before)
    (first : Bool) (rest : List UInt8) :
    nextMember first (gap ++ (lead first ++ (before ++ quote :: rest))) = .ok (true, rest) := by
  cases first with
  | true =>
      rw [lead, if_pos rfl, List.nil_append, nextMember, hgap.skipBlanks, hbefore.skipBlanks,
        skipBlanks_cons (by decide)]
      rfl
  | false =>
      have hnext : skipBlanks (before ++ quote :: rest) = quote :: rest := by
        rw [hbefore.skipBlanks, skipBlanks_cons (by decide)]
      have hcomma : comma ≠ closeBrace := by decide
      rw [lead, if_neg (by decide), List.singleton_append, nextMember, hgap.skipBlanks,
        skipBlanks_cons (by decide)]
      simp [hnext, hcomma]

theorem nameEnd_gap_colon {gap : List UInt8} (hgap : IsGap gap) (rest : List UInt8) :
    nameEnd (gap ++ colon :: rest) = .ok ((), rest) := by
  rw [nameEnd, hgap.skipBlanks, skipBlanks_cons (by decide)]
  rfl

/-- The next member of an object is taken if the reader takes its value. -/
theorem toOption_memberStep {item : Reader α} {key value : Padded} {name : String}
    {outcome : Option α} (hname : Names key.text name)
    (hvalue : Outcome item (value.before ++ value.text) outcome) {gap : List UInt8}
    (hgap : IsGap gap) (read : List (String × α)) {rest : List UInt8} (hrest : EndsNumber rest) :
    (memberStep item read
        (gap ++ (lead read.isEmpty ++ (key.before ++ quote :: (key.text ++ quote :: (key.after ++
          colon :: (value.before ++ (value.text ++ rest)))))))).toOption =
      outcome.map fun a => (.again ((name, a) :: read), rest) := by
  have hnext := nextMember_gap_lead hgap key.before_isGap read.isEmpty
  have hcolon := nameEnd_gap_colon key.after_isGap
  rw [memberStep, hnext]
  cases outcome with
  | none =>
      obtain ⟨fault, hfault⟩ := hvalue.error hrest
      rw [List.append_assoc] at hfault
      simp only [hname _, hcolon, hfault]
      rfl
  | some a =>
      have hok := hvalue.ok hrest
      rw [List.append_assoc] at hok
      simp only [hname _, hcolon, hok]
      rfl

theorem ends_memberStep {item : Reader α} {key value : γ → Padded} {name : γ → String}
    {f : γ → Option α} {members : List γ}
    (hnames : ∀ m ∈ members, Names (key m).text (name m))
    (hvalues : ∀ m ∈ members, Outcome item ((value m).before ++ (value m).text) (f m))
    {inside : List UInt8} (hinside : IsGap inside) (rest : List UInt8) :
    ∀ (read : List (String × α)) (gap : List UInt8), IsGap gap →
      Ends (memberStep item) read
        (gap ++ (spread read.isEmpty (members.map fun m => memberPiece (key m) (value m)) ++
          (inside ++ closeBrace :: rest)))
        ((members.mapM fun m => (f m).map (Prod.mk (name m))).map
          fun ms => (read.reverse ++ ms, rest)) := by
  induction members with
  | nil =>
      intro read gap hgap
      refine .done ?_
      rw [List.map_nil, spread, List.nil_append, ← List.append_assoc, memberStep,
        nextMember_gap_close (hgap.append hinside)]
      simp
  | cons m members ih =>
      intro read gap hgap
      obtain ⟨hname, hnames⟩ := List.forall_mem_cons.mp hnames
      obtain ⟨hm, hvalues⟩ := List.forall_mem_cons.mp hvalues
      have hrest := (value m).after_isGap.endsNumber
        (endsNumber_spread (members.map fun m => memberPiece (key m) (value m)) hinside
          (Or.inr rfl) rest)
      have hstep := toOption_memberStep hname hm hgap read hrest
      rw [List.map_cons, spread_memberPiece, mapM_cons_eq, Option.map_bind, Option.bind_map]
      simp only [List.append_assoc, List.cons_append] at hstep ⊢
      refine .of_again hstep ?_ fun a => ?_
      · simp only [List.length_append, List.length_cons]
        omega
      · have hends := ih hnames hvalues ((name m, a) :: read) (value m).after
          (value m).after_isGap
        simpa [Function.comp_def] using hends

/-- The members of an object are taken if the value of each of them is. -/
theorem objectOf_spread {item : Reader α} {key value : γ → Padded} {name : γ → String}
    {f : γ → Option α} {members : List γ}
    (hnames : ∀ m ∈ members, Names (key m).text (name m))
    (hvalues : ∀ m ∈ members, Outcome item ((value m).before ++ (value m).text) (f m))
    {inside : List UInt8} (hinside : IsGap inside) (rest : List UInt8) :
    (objectOf item (spread true (members.map fun m => memberPiece (key m) (value m)) ++
        (inside ++ closeBrace :: rest))).toOption =
      (members.mapM fun m => (f m).map (Prod.mk (name m))).map fun ms => (ms, rest) :=
  (ends_memberStep hnames hvalues hinside rest [] [] isGap_nil).repeatedly

end ChatGateway.Json
