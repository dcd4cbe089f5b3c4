import ChatGateway.Proofs.Json.Grammar
import ChatGateway.Proofs.Json.Taken.Skip

/-!
# What is taken as a value of a given kind

The readers for texts, numbers, lists and records take only texts of their grammars.  A list
or an object is read piece by piece, so its pieces are found from the last one back: what a
step has taken is put in front of the pieces behind it.

A field of an object is given once it has been read, and then its name is refused.  So the
members that are asked for have different names.
-/

namespace ChatGateway.Json

open Reader

variable {α σ : Type}

theorem exists_of_byFirst {reader : UInt8 → Reader α} {text rest : List UInt8} {a : α}
    (h : byFirst reader text = .ok (a, rest)) :
    ∃ gap b more, IsGap gap ∧ text = gap ++ b :: more ∧ reader b more = .ok (a, rest) := by
  unfold byFirst at h
  split at h
  · contradiction
  next b more hskip =>
    obtain ⟨gap, hgap, rfl⟩ := exists_gap_of_skipBlanks hskip
    exact ⟨gap, b, more, hgap, rfl, h⟩

/-! ## Texts and numbers -/

theorem taken_of_string {text rest : List UInt8} {s : String} (h : string text = .ok (s, rest)) :
    Grammar.Taken TextGrammar text rest := by
  obtain ⟨gap, b, more, hgap, rfl, hread⟩ := exists_of_byFirst h
  split at hread
  next hquote =>
    obtain ⟨content, hcontent, rfl⟩ := spelledText_of_text hread
    refine ⟨gap, quote :: (content ++ [quote]), .text s, hgap, .spelled hcontent, ?_⟩
    simp [hquote]
  · exact absurd hread mistyped_ne_ok

theorem taken_of_numberOf {expected : String} {convert : Number → Except Cause α}
    {text rest : List UInt8} {a : α} (h : numberOf expected convert text = .ok (a, rest)) :
    Grammar.Taken NumberGrammar text rest := by
  obtain ⟨gap, b, more, hgap, rfl, hread⟩ := exists_of_byFirst h
  split at hread
  · dsimp only at hread
    split at hread
    · contradiction
    next hnumber =>
      split at hread
      · contradiction
      · simp only [Except.ok.injEq, Prod.mk.injEq] at hread
        obtain ⟨-, rfl⟩ := hread
        obtain ⟨literal, hliteral, rfl⟩ := isLiteral_of_number hnumber
        exact ⟨gap, b :: literal, .number (b :: literal), hgap, .literal hliteral, rfl⟩
  · exact absurd hread mistyped_ne_ok

/-! ## Lists -/

/-- A list goes on to its closing bracket or to its next item. -/
theorem nextItem_cases {first more : Bool} {text rest : List UInt8}
    (h : nextItem first text = .ok (more, rest)) :
    (more = false ∧ ∃ gap rest', IsGap gap ∧ text = gap ++ closeBracket :: rest' ∧
      rest = closeBracket :: rest') ∨
    (more = true ∧ ∃ gap before, IsGap gap ∧ (first = true → gap = []) ∧ IsGap before ∧
      text = gap ++ (lead first ++ (before ++ rest))) := by
  unfold nextItem at h
  split at h
  · contradiction
  next b text' hskip =>
    obtain ⟨gap, hgap, rfl⟩ := exists_gap_of_skipBlanks hskip
    clear hskip
    split at h
    next hclose =>
      simp only [Except.ok.injEq, Prod.mk.injEq] at h
      obtain ⟨rfl, rfl⟩ := h
      subst hclose
      exact Or.inl ⟨rfl, gap, text', hgap, rfl, rfl⟩
    split at h
    next hfirst =>
      simp only [Except.ok.injEq, Prod.mk.injEq] at h
      obtain ⟨rfl, rfl⟩ := h
      exact Or.inr ⟨rfl, [], gap, isGap_nil, fun _ => rfl, hgap, by simp [lead, hfirst]⟩
    next hfirst =>
      split at h
      swap
      · contradiction
      next hcomma =>
        split at h
        · contradiction
        next c rest' hskip =>
          obtain ⟨before, hbefore, rfl⟩ := exists_gap_of_skipBlanks hskip
          split at h
          · contradiction
          · simp only [Except.ok.injEq, Prod.mk.injEq] at h
            obtain ⟨rfl, rfl⟩ := h
            refine Or.inr ⟨rfl, gap, before, hgap, fun h => absurd h hfirst, hbefore, ?_⟩
            simp [lead, hfirst, hcomma]

theorem itemStep_cases {item : Reader α} {read : List α} {text rest : List UInt8}
    {turn : Turn (List α) (List α)} (h : itemStep item read text = .ok (turn, rest)) :
    (turn = .done read.reverse ∧ ∃ gap, IsGap gap ∧ text = gap ++ closeBracket :: rest) ∨
    ∃ a gap before text', turn = .again (a :: read) ∧ IsGap gap ∧
      (read.isEmpty = true → gap = []) ∧ IsGap before ∧
      text = gap ++ (lead read.isEmpty ++ (before ++ text')) ∧ item text' = .ok (a, rest) := by
  unfold itemStep at h
  split at h
  · contradiction
  next text' hnext =>
    obtain ⟨-, gap, rest', hgap, rfl, rfl⟩ | ⟨hmore, -⟩ := nextItem_cases hnext
    · simp only [Except.ok.injEq, Prod.mk.injEq] at h
      obtain ⟨rfl, rfl⟩ := h
      exact Or.inl ⟨rfl, gap, hgap, rfl⟩
    · contradiction
  next text' hnext =>
    obtain ⟨hmore, -⟩ | ⟨-, gap, before, hgap, hfirst, hbefore, rfl⟩ := nextItem_cases hnext
    · contradiction
    split at h
    · contradiction
    next a rest' hitem =>
      simp only [Except.ok.injEq, Prod.mk.injEq] at h
      obtain ⟨rfl, rfl⟩ := h
      exact Or.inr ⟨a, gap, before, text', rfl, hgap, hfirst, hbefore, rfl, hitem⟩

/-- The items of a list are texts of what its reader takes. -/
theorem exists_items_of_listOf {item : Reader α} {grammar : Grammar}
    (hitem : ∀ {text a rest}, item text = .ok (a, rest) → grammar.Taken text rest)
    {text rest : List UInt8} {as : List α} (h : listOf item text = .ok (as, rest)) :
    ∃ items : List (Padded × Tree), (∀ i ∈ items, grammar i.1.text i.2) ∧
      Pieces closeBracket true (items.map Prod.fst) text rest := by
  let P (read : List α) (text : List UInt8) (_ : List α) (rest : List UInt8) : Prop :=
    ∃ items : List (Padded × Tree), (∀ i ∈ items, grammar i.1.text i.2) ∧
      Pieces closeBracket read.isEmpty (items.map Prod.fst) text rest
  have hread : P [] text as rest := by
    refine of_repeatedly (fun hstep => ?_) (fun hstep hrest => ?_) h
    · obtain ⟨-, gap, hgap, rfl⟩ | ⟨a, gap, before, text', hturn, -⟩ := itemStep_cases hstep
      · exact ⟨[], List.forall_mem_nil _, pieces_nil hgap⟩
      · contradiction
    · obtain ⟨items, hitems, hpieces⟩ := hrest
      obtain ⟨hturn, -⟩ | ⟨a, gap, before, text', hturn, hgap, hfirst, hbefore, rfl, hread⟩ :=
        itemStep_cases hstep
      · contradiction
      obtain rfl := Turn.again.inj hturn
      obtain ⟨gap', taken, t, hgap', ht, rfl⟩ := hitem hread
      have hblanks := hbefore.append hgap'
      obtain ⟨after, hafter, hpieces⟩ := hpieces.cons taken hgap hfirst hblanks
      rw [List.append_assoc] at hpieces
      exact ⟨(⟨_, taken, after, hblanks, hafter⟩, t) :: items,
        List.forall_mem_cons.mpr ⟨ht, hitems⟩, hpieces⟩
  exact hread

theorem taken_of_list {item : Reader α} {grammar : Grammar}
    (hitem : ∀ {text a rest}, item text = .ok (a, rest) → grammar.Taken text rest)
    {text rest : List UInt8} {as : List α} (h : Reader.list item text = .ok (as, rest)) :
    Grammar.Taken (ListGrammar grammar) text rest := by
  obtain ⟨gap, b, more, hgap, rfl, hread⟩ := exists_of_byFirst h
  split at hread
  next hopen =>
    obtain ⟨items, hitems, hpieces⟩ := exists_items_of_listOf hitem hread
    obtain ⟨inside, hinside, rfl⟩ := hpieces.of_first
    exact ⟨gap, _, _, hgap, .items hinside hitems, by simp [hopen]⟩
  · exact absurd hread mistyped_ne_ok

/-! ## The object form of a record -/

theorem nextMember_cases {first more : Bool} {text rest : List UInt8}
    (h : nextMember first text = .ok (more, rest)) :
    (more = false ∧ ∃ gap rest', IsGap gap ∧ text = gap ++ closeBrace :: rest' ∧
      rest = closeBrace :: rest') ∨
    (more = true ∧ ∃ gap before, IsGap gap ∧ (first = true → gap = []) ∧ IsGap before ∧
      text = gap ++ (lead first ++ (before ++ quote :: rest))) := by
  unfold nextMember at h
  split at h
  · contradiction
  next b text' hskip =>
    obtain ⟨gap, hgap, rfl⟩ := exists_gap_of_skipBlanks hskip
    clear hskip
    split at h
    next hclose =>
      simp only [Except.ok.injEq, Prod.mk.injEq] at h
      obtain ⟨rfl, rfl⟩ := h
      subst hclose
      exact Or.inl ⟨rfl, gap, text', hgap, rfl, rfl⟩
    split at h
    next hfirst =>
      split at h
      next hquote =>
        simp only [Except.ok.injEq, Prod.mk.injEq] at h
        obtain ⟨rfl, rfl⟩ := h
        refine Or.inr ⟨rfl, [], gap, isGap_nil, fun _ => rfl, hgap, ?_⟩
        simp [lead, hfirst, hquote]
      · contradiction
    next hfirst =>
      split at h
      swap
      · contradiction
      next hcomma =>
        split at h
        · contradiction
        next c rest' hskip =>
          obtain ⟨before, hbefore, rfl⟩ := exists_gap_of_skipBlanks hskip
          split at h
          next hquote =>
            simp only [Except.ok.injEq, Prod.mk.injEq] at h
            obtain ⟨rfl, rfl⟩ := h
            refine Or.inr ⟨rfl, gap, before, hgap, fun h => absurd h hfirst, hbefore, ?_⟩
            simp [lead, hfirst, hcomma, hquote]
          · contradiction

theorem exists_gap_of_nameEnd {text rest : List UInt8} (h : nameEnd text = .ok ((), rest)) :
    ∃ gap, IsGap gap ∧ text = gap ++ colon :: rest := by
  unfold nameEnd at h
  split at h
  · contradiction
  next b text' hskip =>
    obtain ⟨gap, hgap, rfl⟩ := exists_gap_of_skipBlanks hskip
    split at h
    next hcolon =>
      simp only [Except.ok.injEq, Prod.mk.injEq, true_and] at h
      exact ⟨gap, hgap, by rw [hcolon, h]⟩
    · contradiction

variable {record : Record σ α}

/-- A step of the object form closes it, or reads a name and what belongs to it. -/
theorem fieldStep_cases {first : Bool} {draft : σ} {text rest : List UInt8}
    {turn : Turn (Bool × σ) σ} (h : record.fieldStep (first, draft) text = .ok (turn, rest)) :
    (turn = .done draft ∧ ∃ gap, IsGap gap ∧ text = gap ++ closeBrace :: rest) ∨
    ∃ draft' gap before content name text', turn = .again (false, draft') ∧ IsGap gap ∧
      (first = true → gap = []) ∧ IsGap before ∧ SpelledText content name ∧
      text = gap ++ (lead first ++ (before ++ quote :: (content ++ quote :: text'))) ∧
      record.memberValue name draft text' = .ok (draft', rest) := by
  simp only [Record.fieldStep] at h
  split at h
  · contradiction
  next text' hnext =>
    obtain ⟨-, gap, rest', hgap, rfl, rfl⟩ | ⟨hmore, -⟩ := nextMember_cases hnext
    · simp only [Except.ok.injEq, Prod.mk.injEq] at h
      obtain ⟨rfl, rfl⟩ := h
      exact Or.inl ⟨rfl, gap, hgap, rfl⟩
    · contradiction
  next text' hnext =>
    obtain ⟨hmore, -⟩ | ⟨-, gap, before, hgap, hfirst, hbefore, rfl⟩ := nextMember_cases hnext
    · contradiction
    split at h
    · contradiction
    next name text'' hname =>
      obtain ⟨content, hcontent, rfl⟩ := spelledText_of_text hname
      split at h
      · contradiction
      next draft' rest' hmember =>
        simp only [Except.ok.injEq, Prod.mk.injEq] at h
        obtain ⟨rfl, rfl⟩ := h
        exact Or.inr ⟨draft', gap, before, content, name, text'', rfl, hgap, hfirst, hbefore,
          hcontent, rfl, hmember⟩

/-- The value of a member that no slot asks for is skipped. -/
theorem exists_value_of_unasked (layout : Layout record) {name : String} {draft draft' : σ}
    {text rest : List UInt8} (hfind : layout.slots.find? (·.name == name) = none)
    (h : record.memberValue name draft text = .ok (draft', rest)) :
    draft' = draft ∧ ∃ after before value, IsGap after ∧ IsGap before ∧ IsJson value ∧
      text = after ++ colon :: (before ++ (value ++ rest)) := by
  simp only [Record.memberValue, layout.find?_fields, hfind, Option.map_none] at h
  split at h
  · contradiction
  next text' hcolon =>
    obtain ⟨after, hafter, rfl⟩ := exists_gap_of_nameEnd hcolon
    unfold Reader.map at h
    split at h
    · contradiction
    next hskip =>
      simp only [Except.ok.injEq, Prod.mk.injEq] at h
      obtain ⟨rfl, rfl⟩ := h
      obtain ⟨before, value, hbefore, hvalue, rfl⟩ := isJson_of_skipValue hskip
      exact ⟨rfl, after, before, value, hafter, hbefore, hvalue, rfl⟩

/-- The value of a member that a slot asks for is entered into that slot, which was empty. -/
theorem exists_value_of_asked (layout : Layout record) {name : String} {draft draft' : σ}
    {text rest : List UInt8} {s : Slot σ} (hfind : layout.slots.find? (·.name == name) = some s)
    (h : record.memberValue name draft text = .ok (draft', rest)) :
    s.given draft = false ∧ ∃ after c text', IsGap after ∧ draft' = s.put draft c ∧
      text = after ++ colon :: text' ∧ s.reader text' = .ok (c, rest) := by
  simp only [Record.memberValue, layout.find?_fields, hfind, Option.map_some] at h
  split at h
  · contradiction
  next hgiven =>
    split at h
    · contradiction
    next text' hcolon =>
      obtain ⟨after, hafter, rfl⟩ := exists_gap_of_nameEnd hcolon
      simp only [Slot.field, Reader.map] at h
      split at h
      · contradiction
      next c rest' hread =>
        simp only [Except.ok.injEq, Prod.mk.injEq] at h
        obtain ⟨rfl, rfl⟩ := h
        exact ⟨by simpa [Slot.field] using hgiven, after, c, text', hafter, rfl, rfl, hread⟩

/-- The value of a member is skipped, or it is entered into the slot that asks for it. -/
theorem memberValue_cases (layout : Layout record) {fields : List (String × Grammar)}
    (hfields : FollowsAll layout.slots fields) {name : String} {draft draft' : σ}
    {text rest : List UInt8} (h : record.memberValue name draft text = .ok (draft', rest)) :
    ∃ after before value t, IsGap after ∧ IsGap before ∧ IsValueOf fields name value t ∧
      text = after ++ colon :: (before ++ (value ++ rest)) ∧
      ((draft' = draft ∧ (fields.lookup name).isSome = false) ∨
        ∃ s c, s ∈ layout.slots ∧ s.name = name ∧ s.given draft = false ∧
          draft' = s.put draft c ∧ (fields.lookup name).isSome = true) := by
  cases hfind : layout.slots.find? (·.name == name) with
  | none =>
      have hlookup := hfields.lookup_eq_none hfind
      obtain ⟨rfl, after, before, value, hafter, hbefore, hvalue, rfl⟩ :=
        exists_value_of_unasked layout hfind h
      refine ⟨after, before, value, .null, hafter, hbefore, ?_, rfl, Or.inl ⟨rfl, ?_⟩⟩
      · rwa [IsValueOf, hlookup]
      · rw [hlookup, Option.isSome_none]
  | some s =>
      have hs := List.mem_of_find?_eq_some hfind
      have hname : s.name = name := by simpa using List.find?_some hfind
      obtain ⟨grammar, hlookup, hfollows⟩ := hfields.exists_lookup hfind
      obtain ⟨hgiven, after, c, text', hafter, rfl, rfl, hread⟩ :=
        exists_value_of_asked layout hfind h
      obtain ⟨before, value, t, hbefore, hvalue, rfl⟩ := hfollows.takes hread
      refine ⟨after, before, value, t, hafter, hbefore, ?_, rfl,
        Or.inr ⟨s, c, hs, hname, hgiven, rfl, ?_⟩⟩
      · rwa [IsValueOf, hlookup]
      · rw [hlookup, Option.isSome_some]

/-- The members of an object.  A name that is asked for comes only once, and only if its slot
has not been filled before. -/
structure HasMembers (slots : List (Slot σ)) (fields : List (String × Grammar)) (draft : σ)
    (spelled : List SpelledMember) : Prop where
  members : ∀ m ∈ spelled, IsMemberOf fields m
  names : ((asked fields spelled).map Prod.fst).Nodup
  free : ∀ s ∈ slots, s.name ∈ (asked fields spelled).map Prod.fst → s.given draft = false

theorem HasMembers.nil (slots : List (Slot σ)) (fields : List (String × Grammar)) (draft : σ) :
    HasMembers slots fields draft [] where
  members := List.forall_mem_nil _
  names := List.nodup_nil
  free := fun _ _ hmem => absurd hmem List.not_mem_nil

theorem HasMembers.cons_other {slots : List (Slot σ)} {fields : List (String × Grammar)}
    {draft : σ} {spelled : List SpelledMember} (h : HasMembers slots fields draft spelled)
    {m : SpelledMember} (hm : IsMemberOf fields m) (hother : (fields.lookup m.name).isSome = false) :
    HasMembers slots fields draft (m :: spelled) := by
  have hasked : asked fields (m :: spelled) = asked fields spelled := by simp [asked, hother]
  exact ⟨List.forall_mem_cons.mpr ⟨hm, h.members⟩, hasked ▸ h.names, hasked ▸ h.free⟩

/-- A slot that has just been filled is not asked for again. -/
theorem HasMembers.cons_asked (layout : Layout record) {fields : List (String × Grammar)}
    (hgiven : ∀ s ∈ layout.slots, ∀ draft c, s.given (s.put draft c) = true) {s : Slot σ}
    (hs : s ∈ layout.slots) {draft : σ} {c : s.Content} {spelled : List SpelledMember}
    (h : HasMembers layout.slots fields (s.put draft c) spelled) {m : SpelledMember}
    (hm : IsMemberOf fields m) (hname : s.name = m.name) (hfree : s.given draft = false)
    (hsome : (fields.lookup m.name).isSome = true) :
    HasMembers layout.slots fields draft (m :: spelled) := by
  have hasked : asked fields (m :: spelled) = (m.name, m.tree) :: asked fields spelled := by
    simp [asked, hsome]
  have hnew : m.name ∉ (asked fields spelled).map Prod.fst := by
    intro hmem
    have hfalse := h.free s hs (hname ▸ hmem)
    rw [hgiven s hs] at hfalse
    contradiction
  refine ⟨List.forall_mem_cons.mpr ⟨hm, h.members⟩, ?_, fun s' hs' hmem => ?_⟩
  · rw [hasked, List.map_cons, List.nodup_cons]
    exact ⟨hnew, h.names⟩
  rw [hasked, List.map_cons, List.mem_cons] at hmem
  rcases hmem with heq | hmem
  · obtain rfl : s' = s := List.inj_on_of_nodup_map layout.nodup hs' hs (heq.trans hname.symm)
    exact hfree
  · have hne : s'.name ≠ s.name := fun heq => hnew (hname ▸ heq ▸ hmem)
    rw [← layout.given_put s hs s' hs' hne draft c]
    exact h.free s' hs' hmem

/-- A member is put in front of the others. -/
theorem Pieces.cons_member {close : UInt8} {first : Bool} {ps : List Padded}
    {gap before after before' tail rest : List UInt8} (h : Pieces close false ps tail rest)
    (content value : List UInt8) (hgap : IsGap gap) (hfirst : first = true → gap = [])
    (hbefore : IsGap before) (hafter : IsGap after) (hbefore' : IsGap before') :
    ∃ key member : Padded, key.text = content ∧ member.text = value ∧
      Pieces close first (memberPiece key member :: ps)
        (gap ++ (lead first ++ (before ++ quote :: (content ++ quote :: (after ++ colon ::
          (before' ++ (value ++ tail))))))) rest := by
  obtain ⟨after', hafter', hpieces⟩ := h.cons
    (quote :: (content ++ quote :: (after ++ colon :: (before' ++ value)))) hgap hfirst hbefore
  simp only [List.cons_append, List.append_assoc] at hpieces
  exact ⟨⟨before, content, after, hbefore, hafter⟩, ⟨before', value, after', hbefore', hafter'⟩,
    rfl, rfl, hpieces⟩

theorem exists_members_of_fieldStep (layout : Layout record) {fields : List (String × Grammar)}
    (hfields : FollowsAll layout.slots fields)
    (hgiven : ∀ s ∈ layout.slots, ∀ draft c, s.given (s.put draft c) = true)
    {text rest : List UInt8} {draft : σ}
    (h : repeatedly record.fieldStep (true, record.empty) text = .ok (draft, rest)) :
    ∃ spelled : List SpelledMember, HasMembers layout.slots fields record.empty spelled ∧
      Pieces closeBrace true (spelled.map fun m => memberPiece m.key m.value) text rest := by
  let P (state : Bool × σ) (text : List UInt8) (_ : σ) (rest : List UInt8) : Prop :=
    ∃ spelled : List SpelledMember, HasMembers layout.slots fields state.2 spelled ∧
      Pieces closeBrace state.1 (spelled.map fun m => memberPiece m.key m.value) text rest
  have hread : P (true, record.empty) text draft rest := by
    refine of_repeatedly (fun hstep => ?_) (fun hstep hrest => ?_) h
    · obtain ⟨-, gap, hgap, rfl⟩ | ⟨_, _, _, _, _, _, hturn, -⟩ := fieldStep_cases hstep
      · exact ⟨[], .nil _ _ _, pieces_nil hgap⟩
      · contradiction
    · obtain ⟨spelled, hspelled, hpieces⟩ := hrest
      obtain ⟨hturn, -⟩ | ⟨draft', gap, before, content, name, text', hturn, hgap, hfirst, hbefore,
        hcontent, rfl, hmember⟩ := fieldStep_cases hstep
      · contradiction
      obtain rfl := Turn.again.inj hturn
      obtain ⟨after, before', value, t, hafter, hbefore', hvalue, rfl, hdraft⟩ :=
        memberValue_cases layout hfields hmember
      obtain ⟨key, member, rfl, rfl, hpieces⟩ :=
        hpieces.cons_member content value hgap hfirst hbefore hafter hbefore'
      let m : SpelledMember := ⟨key, name, member, t⟩
      have hm : IsMemberOf fields m := ⟨hcontent, hvalue⟩
      refine ⟨m :: spelled, ?_, hpieces⟩
      obtain ⟨rfl, hother⟩ | ⟨s, c, hs, hname, hfree, rfl, hsome⟩ := hdraft
      · exact hspelled.cons_other hm hother
      · exact hspelled.cons_asked layout hgiven hs hm hname hfree hsome
  exact hread

/-! ## The list form of a record -/

theorem exists_gap_of_closeList {text rest : List UInt8} (h : closeList text = .ok ((), rest)) :
    ∃ gap, IsGap gap ∧ text = gap ++ closeBracket :: rest := by
  unfold closeList at h
  split at h
  · contradiction
  next b text' hskip =>
    obtain ⟨gap, hgap, rfl⟩ := exists_gap_of_skipBlanks hskip
    split at h
    next hclose =>
      simp only [Except.ok.injEq, Prod.mk.injEq, true_and] at h
      exact ⟨gap, hgap, by rw [hclose, h]⟩
    · split at h
      · split at h
        · contradiction
        · contradiction
      · contradiction

/-- Where the list closes, the slots that are left stay empty. -/
theorem eq_of_positions_close {fields : List (Reader.Field σ)} {index : Nat} {draft draft' : σ}
    {text rest : List UInt8}
    (h : record.positions fields index draft (closeBracket :: text) = .ok (draft', rest)) :
    rest = closeBracket :: text := by
  induction fields generalizing index draft with
  | nil =>
      simp only [Record.positions, Except.ok.injEq, Prod.mk.injEq] at h
      exact h.2.symm
  | cons field fields ih =>
      have hnext := nextItem_gap_close isGap_nil (decide (index = 0)) text
      rw [List.nil_append] at hnext
      simp only [Record.positions, hnext] at h
      split at h
      · exact ih h
      · contradiction

theorem exists_items_of_positions {slots : List (Slot σ)} {fields : List (String × Grammar)}
    (hfields : FollowsAll slots fields) {index : Nat} {draft draft' : σ}
    {text text' rest : List UInt8}
    (h : record.positions (slots.map Slot.field) index draft text = .ok (draft', text'))
    (hclose : closeList text' = .ok ((), rest)) :
    ∃ items : List (Padded × Tree), ItemsOf fields items ∧
      Pieces closeBracket (decide (index = 0)) (items.map Prod.fst) text rest := by
  induction hfields generalizing index draft text with
  | nil =>
      simp only [List.map_nil, Record.positions, Except.ok.injEq, Prod.mk.injEq] at h
      obtain ⟨-, rfl⟩ := h
      obtain ⟨gap, hgap, rfl⟩ := exists_gap_of_closeList hclose
      exact ⟨[], .nil _, pieces_nil hgap⟩
  | @cons s field slots fields hs _ ih =>
      obtain ⟨-, hfollows⟩ := hs
      simp only [List.map_cons, Record.positions] at h
      split at h
      · contradiction
      next rest' hnext =>
        obtain ⟨hmore, -⟩ | ⟨-, gap, before, hgap, hfirst, hbefore, rfl⟩ := nextItem_cases hnext
        · contradiction
        simp only [Slot.field, Reader.map] at h
        split at h
        · contradiction
        next draft'' rest'' hread =>
          split at hread
          · contradiction
          next hslot =>
            simp only [Except.ok.injEq, Prod.mk.injEq] at hread
            obtain ⟨rfl, rfl⟩ := hread
            obtain ⟨gap', taken, t, hgap', ht, rfl⟩ := hfollows.takes hslot
            obtain ⟨items, hitems, hpieces⟩ := ih h
            rw [decide_eq_false (Nat.succ_ne_zero index)] at hpieces
            have hblanks := hbefore.append hgap'
            obtain ⟨after, hafter, hpieces⟩ := hpieces.cons taken hgap hfirst hblanks
            rw [List.append_assoc] at hpieces
            exact ⟨(⟨_, taken, after, hblanks, hafter⟩, t) :: items, .cons ht hitems, hpieces⟩
      next rest' hnext =>
        obtain ⟨-, gap, rest'', hgap, rfl, rfl⟩ | ⟨hmore, -⟩ := nextItem_cases hnext
        · split at h
          · obtain rfl := eq_of_positions_close h
            have hclosed := Layout.closeList_gap_close isGap_nil rest''
            rw [List.nil_append, hclose] at hclosed
            obtain rfl : rest = rest'' := by simpa using hclosed
            exact ⟨[], .nil _, pieces_nil hgap⟩
          · contradiction
        · contradiction

/-! ## Both forms -/

theorem eq_of_settle {draft : σ} {unread rest : List UInt8} {a : α}
    (h : record.settle draft unread = .ok (a, rest)) : unread = rest := by
  unfold Record.settle at h
  split at h
  · simp only [Except.ok.injEq, Prod.mk.injEq] at h
    exact h.2
  · contradiction

theorem taken_of_objectForm (layout : Layout record) {fields : List (String × Grammar)}
    (hfields : FollowsAll layout.slots fields)
    (hgiven : ∀ s ∈ layout.slots, ∀ draft c, s.given (s.put draft c) = true)
    {text rest : List UInt8} {a : α} (h : record.objectForm text = .ok (a, rest)) :
    ∃ taken t, RecordGrammar fields taken t ∧ openBrace :: text = taken ++ rest := by
  unfold Record.objectForm at h
  split at h
  · contradiction
  next draft rest' hread =>
    obtain rfl := eq_of_settle h
    obtain ⟨spelled, hspelled, hpieces⟩ := exists_members_of_fieldStep layout hfields hgiven hread
    obtain ⟨inside, hinside, rfl⟩ := hpieces.of_first
    exact ⟨_, _, .object hinside hspelled.members hspelled.names (.refl _), by simp⟩

theorem taken_of_listForm (layout : Layout record) {fields : List (String × Grammar)}
    (hfields : FollowsAll layout.slots fields) {text rest : List UInt8} {a : α}
    (h : record.listForm text = .ok (a, rest)) :
    ∃ taken t, RecordGrammar fields taken t ∧ openBracket :: text = taken ++ rest := by
  simp only [Record.listForm, layout.fields_eq] at h
  split at h
  · contradiction
  next draft text' hpositions =>
    split at h
    · contradiction
    next hclose =>
      obtain rfl := eq_of_settle h
      obtain ⟨items, hitems, hpieces⟩ := exists_items_of_positions hfields hpositions hclose
      obtain ⟨inside, hinside, rfl⟩ := hpieces.of_first
      exact ⟨_, _, .list hinside hitems, by simp⟩

theorem taken_of_record (layout : Layout record) {fields : List (String × Grammar)}
    (hfields : FollowsAll layout.slots fields)
    (hgiven : ∀ s ∈ layout.slots, ∀ draft c, s.given (s.put draft c) = true)
    {text rest : List UInt8} {a : α} (h : record.reader text = .ok (a, rest)) :
    Grammar.Taken (RecordGrammar fields) text rest := by
  obtain ⟨gap, b, more, hgap, rfl, hread⟩ := exists_of_byFirst h
  split at hread
  next hlist =>
    obtain ⟨taken, t, ht, htext⟩ := taken_of_listForm layout hfields hread
    exact ⟨gap, taken, t, hgap, ht, by rw [hlist, htext]⟩
  split at hread
  next hobject =>
    obtain ⟨taken, t, ht, htext⟩ := taken_of_objectForm layout hfields hgiven hread
    exact ⟨gap, taken, t, hgap, ht, by rw [hobject, htext]⟩
  · exact absurd hread mistyped_ne_ok

/-! ## Readers and their grammars -/

theorem follows_string : Follows string TextGrammar Tree.text? where
  opens := TextGrammar.opens
  gives := TextGrammar.gives
  takes := taken_of_string

theorem follows_numberOf (expected : String) (convert : Number → Except Cause α) :
    Follows (numberOf expected convert) NumberGrammar
      (Tree.number? fun n => (convert n).toOption) where
  opens := NumberGrammar.opens
  gives := fun h => h.gives expected convert
  takes := taken_of_numberOf

theorem follows_float : Follows float NumberGrammar (Tree.number? fun n => some n.toFloat) :=
  follows_numberOf _ _

theorem follows_list {item : Reader α} {grammar : Grammar} {f : Tree → Option α}
    (h : Follows item grammar f) :
    Follows (Reader.list item) (ListGrammar grammar) (Tree.items? f) where
  opens := ListGrammar.opens
  gives := ListGrammar.gives h
  takes := taken_of_list h.takes

/-- **A record follows the grammar of its fields.**  Whatever it takes is a text of that
grammar, and it makes of the text what the members say that it asks for. -/
theorem follows_record (layout : Layout record) {fields : List (String × Grammar)}
    (hfields : FollowsAll layout.slots fields)
    (hgiven : ∀ s ∈ layout.slots, ∀ draft c, s.given (s.put draft c) = true) :
    Follows record.reader (RecordGrammar fields) layout.ofTree? where
  opens := RecordGrammar.opens
  gives := RecordGrammar.gives layout hfields
  takes := taken_of_record layout hfields hgiven

end ChatGateway.Json
