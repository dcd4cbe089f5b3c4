import ChatGateway.Proofs.Json.Taken.Record

/-!
# What is taken as a value

A value of any kind is taken only from a text of a tree, and it is what that tree comes to
(`follows_value`).  Nobody asks for a member of such a value by its name.  So, other than
in a record, a name may come more than once; the tree has the members in the order of the
text, and its value keeps the last one of each name.
-/

namespace ChatGateway.Json

open Reader

variable {α : Type}

/-- The texts of a value of any kind.  Each member is seen where it stands, even if its name
comes again. -/
inductive ValueGrammar : List UInt8 → Tree → Prop where
  | null : ValueGrammar (Utf8.bytes "null") .null
  | bool (b : Bool) : ValueGrammar (Utf8.bytes (if b then "true" else "false")) (.bool b)
  | number {literal : List UInt8} (h : IsLiteral literal) : ValueGrammar literal (.number literal)
  | text {content : List UInt8} {s : String} (h : SpelledText content s) :
      ValueGrammar (quote :: (content ++ [quote])) (.text s)
  | array {items : List (Padded × Tree)} {inside : List UInt8} (hinside : IsGap inside)
      (hitems : ∀ i ∈ items, ValueGrammar i.1.text i.2) :
      ValueGrammar (openBracket :: (spread true (items.map Prod.fst) ++ (inside ++ [closeBracket])))
        (.array (items.map Prod.snd))
  | object {spelled : List SpelledMember} {inside : List UInt8} (hinside : IsGap inside)
      (hnames : ∀ m ∈ spelled, SpelledText m.key.text m.name)
      (hvalues : ∀ m ∈ spelled, ValueGrammar m.value.text m.tree) :
      ValueGrammar (openBrace :: (spread true (spelled.map fun m => memberPiece m.key m.value) ++
        (inside ++ [closeBrace]))) (.object (spelled.map fun m => (m.name, m.tree)))

theorem ValueGrammar.spelled {text : List UInt8} {t : Tree} (h : ValueGrammar text t) :
    Spelled text t := by
  induction h with
  | null => exact .null
  | bool b => exact .bool b
  | number h => exact .number h
  | text h => exact .text h
  | array hinside _ ih => exact .array hinside ih
  | object hinside hnames _ ih => exact .object hinside hnames ih (.refl _)

/-- A value is read from any text of its tree. -/
theorem ValueGrammar.gives {text : List UInt8} {t : Tree} (h : ValueGrammar text t) :
    ∀ depth, Gives (value depth) text (t.value? depth) := by
  induction h with
  | null => exact gives_value .null .null
  | bool b => exact gives_value (.bool b) (.bool b)
  | number h => exact gives_value (.number h) (.number _)
  | text h => exact gives_value (.text h) (.text _)
  | array hinside hitems ih =>
      intro depth
      cases depth with
      | zero => exact gives_value_zero (Or.inl rfl)
      | succ depth =>
          rw [Tree.value?_array]
          exact gives_value_array
            (outcome_items (fun i hi => (hitems i hi).spelled) (fun i hi => ih i hi depth) hinside)
  | object hinside hnames hvalues ih =>
      intro depth
      cases depth with
      | zero => exact gives_value_zero (Or.inr rfl)
      | succ depth =>
          have hinner := outcome_members (f := fun t : Tree => t.value? depth) hnames
            (fun m hm => ih m hm depth) hinside
          rw [Tree.value?_object, mapM_map_eq]
          exact gives_value_object hinner

/-! ## Members -/

/-- A step of an object closes it, or reads a name, the colon and the value. -/
theorem memberStep_cases {item : Reader α} {read : List (String × α)} {text rest : List UInt8}
    {turn : Turn (List (String × α)) (List (String × α))}
    (h : memberStep item read text = .ok (turn, rest)) :
    (turn = .done read.reverse ∧ ∃ gap, IsGap gap ∧ text = gap ++ closeBrace :: rest) ∨
    ∃ name a gap before content after text', turn = .again ((name, a) :: read) ∧ IsGap gap ∧
      (read.isEmpty = true → gap = []) ∧ IsGap before ∧ SpelledText content name ∧ IsGap after ∧
      text = gap ++ (lead read.isEmpty ++ (before ++ quote :: (content ++ quote ::
        (after ++ colon :: text')))) ∧
      item text' = .ok (a, rest) := by
  unfold memberStep at h
  split at h
  · contradiction
  next text' hnext =>
    obtain ⟨-, gap, rest', hgap, rfl, rfl⟩ | ⟨hmore, -⟩ := nextMember_cases hnext
    · simp only [Except.ok.injEq, Prod.mk.injEq] at h
      obtain ⟨rfl, rfl⟩ := h
      exact Or.inl ⟨rfl, gap, hgap, rfl⟩
    · contradiction
  next text' hnext =>
    obtain ⟨hmore, -⟩ | ⟨-, gap, before, hgap, hfirst, hbefore, rfl⟩ := nextMember_cases hnext
    · contradiction
    split at h
    · contradiction
    next name text'' hname =>
      obtain ⟨content, hcontent, rfl⟩ := spelledText_of_text hname
      split at h
      · contradiction
      next text''' hcolon =>
        obtain ⟨after, hafter, rfl⟩ := exists_gap_of_nameEnd hcolon
        split at h
        · contradiction
        next a rest' hitem =>
          simp only [Except.ok.injEq, Prod.mk.injEq] at h
          obtain ⟨rfl, rfl⟩ := h
          exact Or.inr ⟨name, a, gap, before, content, after, text''', rfl, hgap, hfirst, hbefore,
            hcontent, hafter, rfl, hitem⟩

/-- The values of an object are texts of what their reader takes. -/
theorem exists_members_of_objectOf {item : Reader α} {grammar : Grammar}
    (hitem : ∀ {text a rest}, item text = .ok (a, rest) → grammar.Taken text rest)
    {text rest : List UInt8} {as : List (String × α)} (h : objectOf item text = .ok (as, rest)) :
    ∃ spelled : List SpelledMember, (∀ m ∈ spelled, SpelledText m.key.text m.name) ∧
      (∀ m ∈ spelled, grammar m.value.text m.tree) ∧
      Pieces closeBrace true (spelled.map fun m => memberPiece m.key m.value) text rest := by
  let P (read : List (String × α)) (text : List UInt8) (_ : List (String × α))
      (rest : List UInt8) : Prop :=
    ∃ spelled : List SpelledMember, (∀ m ∈ spelled, SpelledText m.key.text m.name) ∧
      (∀ m ∈ spelled, grammar m.value.text m.tree) ∧
      Pieces closeBrace read.isEmpty (spelled.map fun m => memberPiece m.key m.value) text rest
  have hread : P [] text as rest := by
    refine of_repeatedly (fun hstep => ?_) (fun hstep hrest => ?_) h
    · obtain ⟨-, gap, hgap, rfl⟩ | ⟨_, _, _, _, _, _, _, hturn, -⟩ := memberStep_cases hstep
      · exact ⟨[], List.forall_mem_nil _, List.forall_mem_nil _, pieces_nil hgap⟩
      · contradiction
    · obtain ⟨spelled, hnames, hvalues, hpieces⟩ := hrest
      obtain ⟨hturn, -⟩ | ⟨name, a, gap, before, content, after, text', hturn, hgap, hfirst,
        hbefore, hcontent, hafter, rfl, hread⟩ := memberStep_cases hstep
      · contradiction
      obtain rfl := Turn.again.inj hturn
      obtain ⟨before', taken, t, hbefore', ht, rfl⟩ := hitem hread
      obtain ⟨key, member, rfl, rfl, hpieces⟩ :=
        hpieces.cons_member content taken hgap hfirst hbefore hafter hbefore'
      exact ⟨⟨key, name, member, t⟩ :: spelled, List.forall_mem_cons.mpr ⟨hcontent, hnames⟩,
        List.forall_mem_cons.mpr ⟨ht, hvalues⟩, hpieces⟩
  exact hread

/-! ## Values -/

theorem map_eq_ok {β : Type} {reader : Reader α} {f : α → β} {text rest : List UInt8} {c : β}
    (h : Reader.map f reader text = .ok (c, rest)) :
    ∃ a, reader text = .ok (a, rest) ∧ f a = c := by
  unfold Reader.map at h
  split at h
  · contradiction
  next a rest' hread =>
    obtain ⟨rfl, rfl⟩ := Prod.mk.inj (Except.ok.inj h)
    exact ⟨a, hread, rfl⟩

/-- What is no list and no object is taken behind its first byte. -/
theorem taken_of_scalar {b : UInt8} {text rest : List UInt8} {v : Value}
    (h : scalar b text = .ok (v, rest)) :
    ∃ more t, ValueGrammar (b :: more) t ∧ text = more ++ rest := by
  unfold scalar at h
  split at h
  next hb =>
    obtain ⟨_, hword, -⟩ := map_eq_ok h
    exact ⟨wordNull, .null, hb ▸ bytes_null ▸ .null, eq_of_expectWord hword⟩
  split at h
  next hb =>
    obtain ⟨_, hword, -⟩ := map_eq_ok h
    exact ⟨wordTrue, .bool true, hb ▸ bytes_true ▸ .bool true, eq_of_expectWord hword⟩
  split at h
  next hb =>
    obtain ⟨_, hword, -⟩ := map_eq_ok h
    exact ⟨wordFalse, .bool false, hb ▸ bytes_false ▸ .bool false, eq_of_expectWord hword⟩
  split at h
  · obtain ⟨n, hnumber, -⟩ := map_eq_ok h
    obtain ⟨more, hliteral, rfl⟩ := isLiteral_of_number hnumber
    exact ⟨more, .number (b :: more), .number hliteral, rfl⟩
  split at h
  next hb =>
    obtain ⟨s, htext, -⟩ := map_eq_ok h
    obtain ⟨content, hcontent, rfl⟩ := spelledText_of_text htext
    exact ⟨content ++ [quote], .text s, hb ▸ .text hcontent, by simp⟩
  · contradiction

/-- Only texts of trees are taken as values. -/
theorem taken_of_value {depth : Nat} {text rest : List UInt8} {v : Value}
    (h : value depth text = .ok (v, rest)) : Grammar.Taken ValueGrammar text rest := by
  induction depth generalizing text v rest with
  | zero =>
      unfold value at h
      split at h
      · contradiction
      next b text' hskip =>
        obtain ⟨gap, hgap, rfl⟩ := exists_gap_of_skipBlanks hskip
        split at h
        · contradiction
        · obtain ⟨more, t, ht, rfl⟩ := taken_of_scalar h
          exact ⟨gap, b :: more, t, hgap, ht, rfl⟩
  | succ depth ih =>
      unfold value at h
      split at h
      · contradiction
      next b text' hskip =>
        obtain ⟨gap, hgap, rfl⟩ := exists_gap_of_skipBlanks hskip
        split at h
        next hb =>
          obtain ⟨vs, hlist, -⟩ := map_eq_ok h
          obtain ⟨items, hitems, hpieces⟩ := exists_items_of_listOf ih hlist
          obtain ⟨inside, hinside, rfl⟩ := hpieces.of_first
          exact ⟨gap, _, _, hgap, .array hinside hitems, by simp [hb]⟩
        split at h
        next hb =>
          obtain ⟨vs, hobject, -⟩ := map_eq_ok h
          obtain ⟨spelled, hnames, hvalues, hpieces⟩ := exists_members_of_objectOf ih hobject
          obtain ⟨inside, hinside, rfl⟩ := hpieces.of_first
          exact ⟨gap, _, _, hgap, .object hinside hnames hvalues, by simp [hb]⟩
        · obtain ⟨more, t, ht, rfl⟩ := taken_of_scalar h
          exact ⟨gap, b :: more, t, hgap, ht, rfl⟩

/-- **A value is what the tree of its text comes to.** -/
theorem follows_value (depth : Nat) :
    Follows (value depth) ValueGrammar fun t => t.value? depth where
  opens := fun h => h.spelled.opens
  gives := fun h => h.gives depth
  takes := taken_of_value

/-- `null` is a value too, so what may be `null` takes the same texts. -/
theorem follows_nullable_value (depth : Nat) :
    Follows (nullable (value depth)) ValueGrammar (Tree.nullable? fun t => t.value? depth) where
  opens := fun h => h.spelled.opens
  gives := fun h => gives_nullable h.spelled (h.gives depth)
  takes := by
    intro text a rest h
    unfold nullable at h
    split at h
    next text' hskip =>
      obtain ⟨gap, hgap, rfl⟩ := exists_gap_of_skipBlanks hskip
      obtain ⟨_, hword, -⟩ := map_eq_ok h
      refine ⟨gap, Utf8.bytes "null", .null, hgap, .null, ?_⟩
      rw [bytes_null, eq_of_expectWord hword]
      rfl
    · obtain ⟨v, hvalue, -⟩ := map_eq_ok h
      obtain ⟨gap', taken, t, hgap', ht, htext⟩ := taken_of_value hvalue
      obtain ⟨gap, hgap, rfl⟩ := exists_gap_of_skipBlanks htext
      exact ⟨gap ++ gap', taken, t, hgap.append hgap', ht, (List.append_assoc _ _ _).symm⟩

end ChatGateway.Json
