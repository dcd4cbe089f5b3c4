import ChatGateway.Proofs.Json.Taken.Skip

/-!
# A text comes apart in one way

Blanks may stand nearly everywhere, but they do not blur where a piece of a list or an
object begins and ends.  Two ways to see a text as a list have the same items
(`itemsText_inj`), and two ways to see it as an object have the same members, name for name
and value for value (`membersText_inj`).

The skipper is what tells the ends of pieces: it stops behind a piece, and it stops at one
place only.  A list and an object even end by themselves, so whatever follows them is left
over (`skipValue_bracket`).
-/

namespace ChatGateway.Json

open Reader

/-! ## Where a piece ends -/

variable {bracket : Bracket} {text rest rest' : List UInt8}

theorem Leads.rest_eq {entry : Reader (Turn (Expecting × List Bracket) Unit)}
    (h : Leads entry text rest) (h' : Leads entry text rest') : rest = rest' := by
  obtain ⟨state, tail, hentry, -, hruns⟩ := h
  obtain ⟨state', tail', hentry', -, hruns'⟩ := h'
  obtain ⟨hturn, rfl⟩ := Prod.mk.inj (Except.ok.inj (hentry.symm.trans hentry'))
  obtain rfl := Turn.again.inj hturn
  exact (Prod.mk.inj (Except.ok.inj (hruns.repeatedly.symm.trans hruns'.repeatedly))).2

/-- Of two texts that are passed over alike, none goes on where the other one has ended. -/
theorem Passes.eq_of_append
    {entry : List Bracket → Reader (Turn (Expecting × List Bracket) Unit)} {a b x y : List UInt8}
    (ha : Passes entry a) (hb : Passes entry b) (hx : EndsNumber x) (hy : EndsNumber y)
    (h : a ++ x = b ++ y) : a = b ∧ x = y := by
  have hend (tail : List UInt8) : Runs skipStep (.next, []) tail () tail := .done rfl
  have hleads := ha [] [] x x isGap_nil hx (hend x)
  have hleads' := hb [] [] y y isGap_nil hy (hend y)
  rw [h] at hleads
  obtain rfl := hleads.rest_eq hleads'
  exact ⟨List.append_cancel_right h, rfl⟩

theorem IsPiece.opensIn (h : IsPiece bracket text) : OpensIn bracket text := by
  cases h with
  | item h => exact h.opens
  | member hname hvalue => exact ⟨quote, _, rfl, by decide, by decide⟩

theorem IsPiece.passes (h : IsPiece bracket text) :
    Passes (fun stack => skipEntry stack bracket) text := by
  cases h with
  | item h => exact h.passes
  | member hname hvalue => exact passes_member hname hvalue.passes

/-! ## Where the pieces lie -/

theorem OpensIn.skipBlanks {before : List UInt8} (h : OpensIn bracket text)
    (hbefore : IsGap before) (tail : List UInt8) :
    skipBlanks (before ++ (text ++ tail)) = text ++ tail := by
  obtain ⟨b, more, rfl, hblank, -⟩ := h
  rw [hbefore.skipBlanks, List.cons_append, skipBlanks_cons hblank]

/-- What is found behind the blanks before a piece: the piece, or the comma that is due. -/
theorem skipBlanks_lead {gap before : List UInt8} (h : OpensIn bracket text) (hgap : IsGap gap)
    (hbefore : IsGap before) (first : Bool) (tail : List UInt8) :
    skipBlanks (gap ++ (lead first ++ (before ++ (text ++ tail)))) =
      if first then text ++ tail else comma :: (before ++ (text ++ tail)) := by
  cases first with
  | true =>
      rw [lead, if_pos rfl, List.nil_append, hgap.skipBlanks, h.skipBlanks hbefore, if_pos rfl]
  | false =>
      rw [lead, if_neg (by decide), hgap.skipBlanks, List.singleton_append,
        skipBlanks_cons (by decide), if_neg (by decide)]

/-- Behind the blanks there is a piece, or the bracket closes; never both. -/
theorem skipBlanks_lead_ne_close {gap before : List UInt8} (h : OpensIn bracket text)
    (hgap : IsGap gap) (hbefore : IsGap before) (first : Bool) (tail rest : List UInt8) :
    skipBlanks (gap ++ (lead first ++ (before ++ (text ++ tail)))) ≠ bracket.close :: rest := by
  rw [skipBlanks_lead h hgap hbefore]
  intro heq
  cases first with
  | true =>
      obtain ⟨b, more, rfl, -, hclose⟩ := h
      rw [if_pos rfl] at heq
      exact hclose (List.cons.inj heq).1
  | false =>
      have hcomma : comma ≠ bracket.close := by cases bracket <;> decide
      rw [if_neg (by decide)] at heq
      exact hcomma (List.cons.inj heq).1

theorem skipBlanks_close {gap inside : List UInt8} (hgap : IsGap gap) (hinside : IsGap inside)
    (rest : List UInt8) :
    skipBlanks (gap ++ (inside ++ bracket.close :: rest)) = bracket.close :: rest := by
  have hblank : isBlank bracket.close = false := by cases bracket <;> decide
  rw [hgap.skipBlanks, hinside.skipBlanks, skipBlanks_cons hblank]

/-- **Pieces up to the end of their bracket come apart in one way.** -/
theorem spread_inj {ps ps' : List Padded} (hps : ∀ p ∈ ps, IsPiece bracket p.text)
    (hps' : ∀ p ∈ ps', IsPiece bracket p.text) {inside inside' : List UInt8}
    (hinside : IsGap inside) (hinside' : IsGap inside') :
    ∀ {first : Bool} {gap gap' : List UInt8}, IsGap gap → IsGap gap' →
      gap ++ (spread first ps ++ (inside ++ bracket.close :: rest)) =
        gap' ++ (spread first ps' ++ (inside' ++ bracket.close :: rest')) →
      ps.map Padded.text = ps'.map Padded.text ∧ rest = rest' := by
  have hclose : bracket.close = closeBracket ∨ bracket.close = closeBrace := by
    cases bracket
    · exact Or.inl rfl
    · exact Or.inr rfl
  induction ps generalizing ps' with
  | nil =>
      intro first gap gap' hgap hgap' h
      have hleft := @skipBlanks_close bracket _ _ hgap hinside rest
      cases ps' with
      | nil =>
          have hright := @skipBlanks_close bracket _ _ hgap' hinside' rest'
          simp only [spread, List.nil_append] at h
          rw [← h, hleft] at hright
          exact ⟨rfl, (List.cons.inj hright).2⟩
      | cons p' ps' =>
          have hne := skipBlanks_lead_ne_close (hps' p' List.mem_cons_self).opensIn hgap'
            p'.before_isGap first
          simp only [spread, List.nil_append, List.append_assoc] at h
          rw [h] at hleft
          exact absurd hleft (hne _ _)
  | cons p ps ih =>
      intro first gap gap' hgap hgap' h
      obtain ⟨hp, hps⟩ := List.forall_mem_cons.mp hps
      cases ps' with
      | nil =>
          have hright := @skipBlanks_close bracket _ _ hgap' hinside' rest'
          have hne := skipBlanks_lead_ne_close hp.opensIn hgap p.before_isGap first
          simp only [spread, List.nil_append, List.append_assoc] at h
          rw [← h] at hright
          exact absurd hright (hne _ _)
      | cons p' ps' =>
          obtain ⟨hp', hps'⟩ := List.forall_mem_cons.mp hps'
          have hends := p.after_isGap.endsNumber (endsNumber_spread ps hinside hclose rest)
          have hends' := p'.after_isGap.endsNumber (endsNumber_spread ps' hinside' hclose rest')
          have hpieces : p.text ++ (p.after ++ (spread false ps ++
                (inside ++ bracket.close :: rest))) =
              p'.text ++ (p'.after ++ (spread false ps' ++
                (inside' ++ bracket.close :: rest'))) := by
            simp only [spread, List.append_assoc] at h
            have hskip := congrArg skipBlanks h
            rw [skipBlanks_lead hp.opensIn hgap p.before_isGap,
              skipBlanks_lead hp'.opensIn hgap' p'.before_isGap] at hskip
            cases first with
            | true => exact hskip
            -- behind the comma there may be blanks again
            | false =>
                have hmore := congrArg skipBlanks (List.cons.inj hskip).2
                rwa [hp.opensIn.skipBlanks p.before_isGap,
                  hp'.opensIn.skipBlanks p'.before_isGap] at hmore
          obtain ⟨htext, hmore⟩ := hp.passes.eq_of_append hp'.passes hends hends' hpieces
          obtain ⟨htexts, hrest⟩ := ih hps hps' p.after_isGap p'.after_isGap hmore
          exact ⟨by rw [List.map_cons, List.map_cons, htext, htexts], hrest⟩

/-! ## Lists and objects -/

/-- A list with the given items. -/
def itemsText (items : List Padded) (inside : List UInt8) : List UInt8 :=
  openBracket :: (spread true items ++ (inside ++ [closeBracket]))

/-- An object with the given members, each a name and a value. -/
def membersText (members : List (Padded × Padded)) (inside : List UInt8) : List UInt8 :=
  openBrace :: (spread true (members.map fun m => memberPiece m.1 m.2) ++ (inside ++ [closeBrace]))

/-- Names in quotation marks, and values that have the form of JSON. -/
def AreMembers (members : List (Padded × Padded)) : Prop :=
  ∀ m ∈ members, IsLooseText m.1.text ∧ IsJson m.2.text

theorem AreMembers.isPiece {members : List (Padded × Padded)} (h : AreMembers members) :
    ∀ p ∈ members.map fun m => memberPiece m.1 m.2, IsPiece .object p.text :=
  List.forall_mem_map.mpr fun m hm => .member (h m hm).1 (h m hm).2

theorem itemsText_ne_membersText (items : List Padded) (members : List (Padded × Padded))
    (inside inside' : List UInt8) : itemsText items inside ≠ membersText members inside' := by
  intro h
  have hbyte : openBracket = openBrace := (List.cons.inj h).1
  exact absurd hbyte (by decide)

theorem itemsText_inj {items items' : List Padded} {inside inside' : List UInt8}
    (hitems : ∀ p ∈ items, IsJson p.text) (hitems' : ∀ p ∈ items', IsJson p.text)
    (hinside : IsGap inside) (hinside' : IsGap inside')
    (h : itemsText items inside = itemsText items' inside') :
    items.map Padded.text = items'.map Padded.text := by
  have hspread := (List.cons.inj h).2
  exact (@spread_inj .list [] [] items items' (fun p hp => .item (hitems p hp))
    (fun p hp => .item (hitems' p hp)) _ _ hinside hinside' true [] [] isGap_nil isGap_nil
    hspread).1

/-- A member is taken apart at the mark behind its name, and at the colon. -/
theorem memberPiece_inj {key value key' value' : Padded} (hkey : IsLooseText key.text)
    (hkey' : IsLooseText key'.text) (hvalue : IsJson value.text) (hvalue' : IsJson value'.text)
    (h : (memberPiece key value).text = (memberPiece key' value').text) :
    key.text = key'.text ∧ value.text = value'.text := by
  have hmarked := (List.cons.inj h).2
  have hskipped := hkey.skipped (key.after ++ colon :: (value.before ++ value.text))
  rw [hmarked, hkey'.skipped] at hskipped
  obtain ⟨-, hafter⟩ := Prod.mk.inj (Except.ok.inj hskipped)
  rw [hafter] at hmarked
  refine ⟨List.append_cancel_right hmarked, ?_⟩
  have hcolon : isBlank colon = false := by decide
  have hbehind := congrArg skipBlanks hafter
  rw [key'.after_isGap.skipBlanks, key.after_isGap.skipBlanks, skipBlanks_cons hcolon,
    skipBlanks_cons hcolon] at hbehind
  have hvalues := congrArg skipBlanks (List.cons.inj hbehind).2
  have hfound := hvalue.opens.skipBlanks value.before_isGap []
  have hfound' := hvalue'.opens.skipBlanks value'.before_isGap []
  simp only [List.append_nil] at hfound hfound'
  rw [hfound, hfound'] at hvalues
  exact hvalues.symm

/-- Two members that are the same, up to blanks. -/
def SameTexts (m m' : Padded × Padded) : Prop := m.1.text = m'.1.text ∧ m.2.text = m'.2.text

/-- **An object has the same members however it is taken apart.** -/
theorem membersText_inj {members members' : List (Padded × Padded)} {inside inside' : List UInt8}
    (hmembers : AreMembers members) (hmembers' : AreMembers members') (hinside : IsGap inside)
    (hinside' : IsGap inside') (h : membersText members inside = membersText members' inside') :
    List.Forall₂ SameTexts members members' := by
  have hspread := (List.cons.inj h).2
  have htexts := (@spread_inj .object [] [] _ _ hmembers.isPiece hmembers'.isPiece _ _ hinside
    hinside' true [] [] isGap_nil isGap_nil hspread).1
  clear h hspread
  induction members generalizing members' with
  | nil =>
      obtain rfl : members' = [] := by simpa using htexts.symm
      exact .nil
  | cons m members ih =>
      cases members' with
      | nil => simp at htexts
      | cons m' members' =>
          obtain ⟨⟨hkey, hvalue⟩, hmembers⟩ := List.forall_mem_cons.mp hmembers
          obtain ⟨⟨hkey', hvalue'⟩, hmembers'⟩ := List.forall_mem_cons.mp hmembers'
          simp only [List.map_cons, List.cons.injEq] at htexts
          obtain ⟨htext, htexts⟩ := htexts
          exact .cons (memberPiece_inj hkey hkey' hvalue hvalue' htext)
            (ih hmembers hmembers' htexts)

/-! ## Bodies and names -/

/-- A body has one text between the blanks at its ends. -/
theorem Padded.text_eq_of_bytes_eq {p p' : Padded} (hp : IsJson p.text) (hp' : IsJson p'.text)
    (h : p.bytes = p'.bytes) : p.text = p'.text := by
  have hskip := congrArg skipBlanks h
  rw [Padded.bytes, Padded.bytes, hp.opens.skipBlanks p.before_isGap,
    hp'.opens.skipBlanks p'.before_isGap] at hskip
  have hends (p : Padded) : EndsNumber p.after := by
    simpa using p.after_isGap.endsNumber endsNumber_nil
  exact (hp.passes.eq_of_append hp'.passes (hends p) (hends p') hskip).1

/-- A name is spelled by its content alone. -/
theorem SpelledText.name_eq {content : List UInt8} {s s' : String} (h : SpelledText content s)
    (h' : SpelledText content s') : s = s' :=
  (Prod.mk.inj (Except.ok.inj ((h.names []).symm.trans (h'.names [])))).1

/-! ## Brackets end by themselves -/

/-- A list or an object is skipped up to its closing bracket, whatever comes then. -/
theorem skipValue_bracket {ps : List Padded} (hps : ∀ p ∈ ps, IsPiece bracket p.text)
    {gap inside : List UInt8} (hgap : IsGap gap) (hinside : IsGap inside) (rest : List UInt8) :
    skipValue (gap ++ opening bracket :: (spread true ps ++ (inside ++ bracket.close :: rest))) =
      .ok ((), rest) := by
  have hblank : isBlank (opening bracket) = false := by cases bracket <;> decide
  have hpasses : ∀ p ∈ ps, OpensIn bracket p.text ∧
      Passes (fun stack => skipEntry stack bracket) p.text :=
    fun p hp => ⟨(hps p hp).opensIn, (hps p hp).passes⟩
  have hend : Runs skipStep (.next, []) rest () rest := .done rfl
  have hinner := runs_spread hpasses hinside hend true [] isGap_nil
  have hstep : skipStep (.value, [])
      (gap ++ opening bracket :: (spread true ps ++ (inside ++ bracket.close :: rest))) =
      .ok (.again (.first, [bracket]), spread true ps ++ (inside ++ bracket.close :: rest)) := by
    rw [skipStep, skipValueStep, hgap.skipBlanks, skipBlanks_cons hblank]
    cases bracket <;> rfl
  refine Runs.repeatedly (.again hstep ?_ hinner)
  simp only [List.length_append, List.length_cons]
  omega

end ChatGateway.Json
