import ChatGateway.Proofs.Json.Grammar
import ChatGateway.Proofs.Json.Parted

/-!
# The texts of grammars come apart in one way

What a reader sees in a text has the form of JSON, so it can be set against any other way
to see that text.  If a text of a record is an object, the record has seen the members of
that object, each with its name and its tree (`RecordGrammar.of_membersText`); if it is a
list, the record has seen its items (`RecordGrammar.of_itemsText`).

A text of a record ends with its closing bracket.  A body of the record that goes on as
another one goes on with blanks only (`RecordGrammar.isGap_of_body_append`).
-/

namespace ChatGateway.Json

open Reader

/-! ## The form of JSON -/

/-- Every text of the grammar has the form of JSON. -/
def Grammar.OfJson (grammar : Grammar) : Prop := ∀ text t, grammar text t → IsJson text

/-- The fields of a record take texts that have the form of JSON. -/
def FieldsOfJson (fields : List (String × Grammar)) : Prop :=
  ∀ field ∈ fields, Grammar.OfJson field.2

theorem ofJson_text : Grammar.OfJson TextGrammar := by
  rintro _ _ ⟨h⟩
  exact .text h.isLooseText

theorem ofJson_number : Grammar.OfJson NumberGrammar := by
  rintro _ _ ⟨h⟩
  exact .number h

theorem ofJson_list {item : Grammar} (hitem : item.OfJson) : Grammar.OfJson (ListGrammar item) := by
  rintro _ _ ⟨hinside, hitems⟩
  exact .array hinside (List.forall_mem_map.mpr fun i hi => hitem _ _ (hitems i hi))

variable {fields : List (String × Grammar)}

theorem IsMemberOf.isJson (hfields : FieldsOfJson fields) {m : SpelledMember}
    (h : IsMemberOf fields m) : IsJson m.value.text := by
  have hvalue := h.value
  unfold IsValueOf at hvalue
  split at hvalue
  · exact hvalue
  next grammar hlookup => exact hfields _ (mem_of_lookup hlookup) _ _ hvalue

theorem ItemsOf.isJson (hfields : FieldsOfJson fields) {items : List (Padded × Tree)}
    (h : ItemsOf fields items) : ∀ i ∈ items, IsJson i.1.text := by
  induction h with
  | nil fields => simp
  | cons hitem _ ih =>
      obtain ⟨hfield, hfields⟩ := List.forall_mem_cons.mp hfields
      exact List.forall_mem_cons.mpr ⟨hfield _ _ hitem, ih hfields⟩

/-- The members of a record in the form of JSON. -/
def spelledTexts (spelled : List SpelledMember) : List (Padded × Padded) :=
  spelled.map fun m => (m.key, m.value)

theorem membersText_spelledTexts (spelled : List SpelledMember) (inside : List UInt8) :
    membersText (spelledTexts spelled) inside =
      openBrace :: (spread true (spelled.map fun m => memberPiece m.key m.value) ++
        (inside ++ [closeBrace])) := by
  rw [membersText, spelledTexts, List.map_map]
  rfl

theorem areMembers_spelledTexts (hfields : FieldsOfJson fields) {spelled : List SpelledMember}
    (h : ∀ m ∈ spelled, IsMemberOf fields m) : AreMembers (spelledTexts spelled) :=
  List.forall_mem_map.mpr fun m hm => ⟨(h m hm).name.isLooseText, (h m hm).isJson hfields⟩

theorem ofJson_record (hfields : FieldsOfJson fields) : Grammar.OfJson (RecordGrammar fields) := by
  rintro _ _ (⟨hinside, hmembers, -, -⟩ | ⟨hinside, hitems⟩)
  · have hforms := areMembers_spelledTexts hfields hmembers
    rw [← membersText_spelledTexts]
    exact .object hinside (fun m hm => (hforms m hm).1) fun m hm => (hforms m hm).2
  · exact .array hinside (List.forall_mem_map.mpr (hitems.isJson hfields))

theorem AreMembers.isJson {members : List (Padded × Padded)} (h : AreMembers members)
    {inside : List UInt8} (hinside : IsGap inside) : IsJson (membersText members inside) :=
  .object hinside (fun m hm => (h m hm).1) fun m hm => (h m hm).2

/-- What is seen in a body is seen in the text between the blanks at its ends. -/
theorem Grammar.Body.of_bytes {grammar : Grammar} (hgrammar : grammar.OfJson) {p : Padded}
    {t : Tree} (hp : Json.IsJson p.text) (h : grammar.Body p.bytes t) : grammar p.text t := by
  obtain ⟨p', hp', hbytes⟩ := h
  rwa [← Padded.text_eq_of_bytes_eq (hgrammar _ _ hp') hp hbytes]

/-! ## What a record has seen -/

/-- Members that are the same up to blanks have the same names and the same trees. -/
theorem exists_spelled_of_sameTexts {members : List (Padded × Padded)}
    {spelled : List SpelledMember} (h : List.Forall₂ SameTexts members (spelledTexts spelled))
    (hspelled : ∀ m ∈ spelled, IsMemberOf fields m) :
    ∃ spelled', spelledTexts spelled' = members ∧ (∀ m ∈ spelled', IsMemberOf fields m) ∧
      asked fields spelled' = asked fields spelled := by
  induction spelled generalizing members with
  | nil =>
      obtain rfl := List.forall₂_nil_right_iff.mp h
      exact ⟨[], rfl, List.forall_mem_nil _, rfl⟩
  | cons s spelled ih =>
      obtain ⟨m, members, ⟨hkey, hvalue⟩, hmore, rfl⟩ := List.forall₂_cons_right_iff.mp h
      obtain ⟨hs, hspelled⟩ := List.forall_mem_cons.mp hspelled
      obtain ⟨spelled', rfl, hspelled', hasked⟩ := ih hmore hspelled
      refine ⟨⟨m.1, s.name, m.2, s.tree⟩ :: spelled', rfl, ?_, ?_⟩
      · refine List.forall_mem_cons.mpr ⟨⟨?_, ?_⟩, hspelled'⟩
        · exact hkey ▸ hs.name
        · exact hvalue ▸ hs.value
      · unfold asked at hasked ⊢
        rw [List.filter_cons, List.filter_cons]
        split
        · rw [List.map_cons, List.map_cons, hasked]
        · exact hasked

/-- **A record that has seen an object has seen its members.** -/
theorem RecordGrammar.of_membersText (hfields : FieldsOfJson fields)
    {members : List (Padded × Padded)} {inside : List UInt8} {t : Tree}
    (hmembers : AreMembers members) (hinside : IsGap inside)
    (h : RecordGrammar fields (membersText members inside) t) :
    ∃ spelled seen, spelledTexts spelled = members ∧ (∀ m ∈ spelled, IsMemberOf fields m) ∧
      (seen.map Prod.fst).Nodup ∧ (asked fields spelled).Perm seen ∧ t = .object seen := by
  generalize htext : membersText members inside = text at h
  cases h with
  | @object spelled seen inside' hinside' hspelled hnames hperm =>
      rw [← membersText_spelledTexts] at htext
      have hsame := membersText_inj hmembers (areMembers_spelledTexts hfields hspelled) hinside
        hinside' htext
      obtain ⟨spelled', hmembers', hspelled', hasked⟩ := exists_spelled_of_sameTexts hsame hspelled
      exact ⟨spelled', seen, hmembers', hspelled', hnames, hasked ▸ hperm, rfl⟩
  | list => exact absurd htext.symm (itemsText_ne_membersText _ _ _ _)

/-- Items that are the same up to blanks have the same trees. -/
theorem ItemsOf.exists_of_texts {seen : List (Padded × Tree)} (h : ItemsOf fields seen)
    {items : List Padded}
    (htexts : items.map Padded.text = (seen.map Prod.fst).map Padded.text) :
    ∃ seen', seen'.map Prod.fst = items ∧ ItemsOf fields seen' ∧
      seen'.map Prod.snd = seen.map Prod.snd := by
  induction h generalizing items with
  | nil fields =>
      obtain rfl : items = [] := by simpa using htexts
      exact ⟨[], rfl, .nil fields, rfl⟩
  | @cons name grammar fields i seen hitem _ ih =>
      cases items with
      | nil => simp at htexts
      | cons p items =>
          simp only [List.map_cons, List.cons.injEq] at htexts
          obtain ⟨htext, htexts⟩ := htexts
          obtain ⟨seen', rfl, hseen', htrees⟩ := ih htexts
          refine ⟨(p, i.2) :: seen', rfl, .cons (htext ▸ hitem) hseen', ?_⟩
          rw [List.map_cons, List.map_cons, htrees]

/-- **A record that has seen a list has seen its items.** -/
theorem RecordGrammar.of_itemsText (hfields : FieldsOfJson fields) {items : List Padded}
    {inside : List UInt8} {t : Tree} (hitems : ∀ p ∈ items, IsJson p.text) (hinside : IsGap inside)
    (h : RecordGrammar fields (itemsText items inside) t) :
    ∃ seen, seen.map Prod.fst = items ∧ ItemsOf fields seen ∧ t = .array (seen.map Prod.snd) := by
  generalize htext : itemsText items inside = text at h
  cases h with
  | object =>
      rw [← membersText_spelledTexts] at htext
      exact absurd htext (itemsText_ne_membersText _ _ _ _)
  | @list seen inside' hinside' hseen =>
      have htexts := itemsText_inj hitems (List.forall_mem_map.mpr (hseen.isJson hfields)) hinside
        hinside' htext
      obtain ⟨seen', hitems', hseen', htrees⟩ := hseen.exists_of_texts htexts
      exact ⟨seen', hitems', hseen', by rw [htrees]⟩

/-- Every item of a list has been seen. -/
theorem ListGrammar.of_itemsText {item : Grammar} (hitem : item.OfJson) {items : List Padded}
    {inside : List UInt8} {t : Tree} (hitems : ∀ p ∈ items, IsJson p.text) (hinside : IsGap inside)
    (h : ListGrammar item (itemsText items inside) t) : ∀ p ∈ items, ∃ seen, item p.text seen := by
  generalize htext : itemsText items inside = text at h
  cases h with
  | @items seen inside' hinside' hseen =>
      have hforms : ∀ p ∈ seen.map Prod.fst, IsJson p.text :=
        List.forall_mem_map.mpr fun i hi => hitem _ _ (hseen i hi)
      have htexts := itemsText_inj hitems hforms hinside hinside' htext
      intro p hp
      have hmem : p.text ∈ items.map Padded.text := List.mem_map_of_mem hp
      rw [htexts, List.map_map] at hmem
      obtain ⟨i, hi, htext'⟩ := List.mem_map.mp hmem
      exact ⟨i.2, htext' ▸ hseen i hi⟩

/-! ## The end of a record -/

/-- A text of a record ends with its closing bracket, whatever comes then. -/
theorem RecordGrammar.skipValue_append (hfields : FieldsOfJson fields) {text : List UInt8}
    {t : Tree} (h : RecordGrammar fields text t) {gap : List UInt8} (hgap : IsGap gap)
    (rest : List UInt8) : skipValue (gap ++ (text ++ rest)) = .ok ((), rest) := by
  cases h with
  | object hinside hmembers hnames hperm =>
      have hpieces := (areMembers_spelledTexts hfields hmembers).isPiece
      have hskip := skipValue_bracket hpieces hgap hinside rest
      rw [← membersText_spelledTexts, membersText]
      simp only [List.cons_append, List.append_assoc, List.nil_append]
      exact hskip
  | @list seen inside hinside hitems =>
      have hpieces : ∀ p ∈ seen.map Prod.fst, IsPiece .list p.text :=
        List.forall_mem_map.mpr fun i hi => .item (hitems.isJson hfields i hi)
      have hskip := skipValue_bracket hpieces hgap hinside rest
      simp only [List.cons_append, List.append_assoc, List.nil_append]
      exact hskip

/-- **Nothing but blanks can be added to a body.** -/
theorem RecordGrammar.isGap_of_body_append (hfields : FieldsOfJson fields)
    {body more : List UInt8} {t t' : Tree} (h : Grammar.Body (RecordGrammar fields) body t)
    (h' : Grammar.Body (RecordGrammar fields) (body ++ more) t') : IsGap more := by
  obtain ⟨p, hp, rfl⟩ := h
  obtain ⟨p', hp', hbody⟩ := h'
  have hends : skipValue (p.bytes ++ more) = .ok ((), p.after ++ more) := by
    rw [Padded.bytes, List.append_assoc, List.append_assoc]
    exact hp.skipValue_append hfields p.before_isGap _
  have hends' : skipValue p'.bytes = .ok ((), p'.after) :=
    hp'.skipValue_append hfields p'.before_isGap _
  rw [hbody, hends] at hends'
  obtain ⟨-, hafter⟩ := Prod.mk.inj (Except.ok.inj hends')
  intro b hb
  exact p'.after_isGap b (hafter ▸ List.mem_append_right _ hb)

end ChatGateway.Json
