import ChatGateway.Proofs.Chat.Accepted
import ChatGateway.Proofs.Chat.Respelled
import ChatGateway.Proofs.Json.WholeLiteral

/-!
# The bound on tokens

A body has a place for `max_tokens`: a member of an object, or the fourth item of a list.
Whichever literal stands there, the other parts of the request are the same
(`decode_tokens`).  So the literal alone settles whether the body is decoded, and as which
request: an integer has to fit 64 bits and is taken as it is (`decode_integer_iff`), and
what is written as a float is refused (`exists_error_of_isFloatLiteral`).
-/

namespace ChatGateway.ChatRequest

open Json (Tree Grammar NumberGrammar RecordGrammar SpelledMember Padded AreMembers SpelledText
  IsGap IsJson IsLiteral IsFloatLiteral IsMemberOf IsValueOf membersText itemsText spelledTexts)

/-! ## Bodies with a place for `max_tokens` -/

/-- The text with blanks around it. -/
def within (p : Padded) (text : List UInt8) : Padded := { p with text }

/-- A body in which a value is put for `max_tokens`: among any other members, or behind the
three other items. -/
inductive TokensIn : (List UInt8 → List UInt8) → Prop where
  | member {before after : List (Padded × Padded)} {key value around : Padded}
      {inside : List UInt8} (hbefore : AreMembers before) (hafter : AreMembers after)
      (hkey : SpelledText key.text "max_tokens") (hinside : IsGap inside) :
      TokensIn fun text =>
        (within around
          (membersText (before ++ (key, within value text) :: after) inside)).bytes
  | item {messages model temperature value around : Padded} {inside : List UInt8}
      (hitems : ∀ p ∈ [messages, model, temperature], IsJson p.text) (hinside : IsGap inside) :
      TokensIn fun text =>
        (within around
          (itemsText [messages, model, temperature, within value text] inside)).bytes

/-! ## What is seen in such a body -/

section

variable {β : Type} {before after : List (String × β)} {name key : String}

theorem lookup_between_of_ne (b : β) (h : name ≠ key) :
    (before ++ (key, b) :: after).lookup name = (before ++ after).lookup name := by
  rw [List.lookup_append, List.lookup_append, Json.lookup_cons_of_ne h]

theorem lookup_between (b : β) (h : ((before ++ (key, b) :: after).map Prod.fst).Nodup) :
    (before ++ (key, b) :: after).lookup key = some b :=
  (Json.lookup_eq_some_iff_mem h).mpr (List.mem_append_right _ List.mem_cons_self)

end

/-- The other parts of an object do not depend on what stands for `max_tokens`. -/
theorem parts?_between {before after : List (String × Tree)} (t : Tree)
    (h : ((before ++ ("max_tokens", t) :: after).map Prod.fst).Nodup) :
    parts? (.object (before ++ ("max_tokens", t) :: after)) =
      (parts? (.object (before ++ after))).map fun parts => { parts with maxTokens := some t } := by
  have hother (name : String) (hname : name ≠ "max_tokens") :
      (before ++ ("max_tokens", t) :: after).lookup name = (before ++ after).lookup name :=
    lookup_between_of_ne t hname
  rw [parts?, parts?, lookup_between t h, hother "messages" (by decide),
    hother "model" (by decide), hother "temperature" (by decide), Option.map_map]
  rfl

theorem asked_between {before after : List SpelledMember} {m : SpelledMember}
    (h : m.name = "max_tokens") :
    Json.asked fields (before ++ m :: after) =
      Json.asked fields before ++ ("max_tokens", m.tree) :: Json.asked fields after := by
  have hasked : (fields.lookup m.name).isSome = true := by
    rw [h]
    rfl
  have hfilter : ((m :: after).filter fun m => (fields.lookup m.name).isSome) =
      m :: after.filter fun m => (fields.lookup m.name).isSome := List.filter_cons_of_pos hasked
  rw [Json.asked, List.filter_append, hfilter, List.map_append, List.map_cons, h]
  rfl

/-- What holds of the members around a place and of the one there holds of all. -/
theorem forall_mem_between {β : Type} {P : β → Prop} {before after : List β} {b : β} :
    (∀ m ∈ before ++ b :: after, P m) ↔ (∀ m ∈ before, P m) ∧ P b ∧ ∀ m ∈ after, P m := by
  rw [List.forall_mem_append, List.forall_mem_cons]

/-- Only a literal is seen for `max_tokens`, and any other one could stand there. -/
theorem exists_object_of_grammar {before after : List (Padded × Padded)} {key value : Padded}
    {inside text : List UInt8} {t : Tree}
    (hmembers : AreMembers (before ++ (key, within value text) :: after))
    (hkey : SpelledText key.text "max_tokens") (hinside : IsGap inside)
    (h : grammar (membersText (before ++ (key, within value text) :: after) inside) t) :
    IsLiteral text ∧ ∃ others others' : List (String × Tree), ∀ literal, IsLiteral literal →
      ((others ++ ("max_tokens", .number literal) :: others').map Prod.fst).Nodup ∧
      grammar (membersText (before ++ (key, within value literal) :: after) inside)
        (.object (others ++ ("max_tokens", .number literal) :: others')) := by
  obtain ⟨spelled, seen, hspelled, hof, hnames, hperm, -⟩ :=
    RecordGrammar.of_membersText fieldsOfJson hmembers hinside h
  obtain ⟨first, rest, rfl, rfl, hrest⟩ := List.map_eq_append_iff.mp hspelled
  obtain ⟨m, last, rfl, hm, rfl⟩ := List.map_eq_cons_iff.mp hrest
  obtain ⟨rfl, hvalue⟩ := Prod.mk.inj hm
  obtain ⟨hfirst, hmember, hlast⟩ := forall_mem_between.mp hof
  have hname : m.name = "max_tokens" := hmember.name.name_eq hkey
  have htext := hmember.value
  rw [hname, hvalue] at htext
  rw [asked_between hname] at hperm
  refine ⟨NumberGrammar.isLiteral htext, Json.asked fields first, Json.asked fields last,
    fun literal h => ?_⟩
  have hnodup : ((Json.asked fields first ++ ("max_tokens", .number literal) ::
      Json.asked fields last).map Prod.fst).Nodup := by
    have hnodup := (hperm.map Prod.fst).nodup_iff.mpr hnames
    simpa using hnodup
  -- the other members are left as they are
  let m' : SpelledMember := ⟨m.key, "max_tokens", within value literal, .number literal⟩
  have hof' : ∀ s ∈ first ++ m' :: last, IsMemberOf fields s :=
    forall_mem_between.mpr ⟨hfirst, ⟨hkey, NumberGrammar.literal h⟩, hlast⟩
  have hgrammar := RecordGrammar.object hinside hof' hnodup (.of_eq (asked_between rfl))
  rw [← Json.membersText_spelledTexts, spelledTexts, List.map_append, List.map_cons] at hgrammar
  exact ⟨hnodup, hgrammar⟩

/-- Only a literal is seen in the fourth item, and any other one could stand there. -/
theorem exists_array_of_grammar {messages model temperature value : Padded}
    {inside text : List UInt8} {t : Tree}
    (hitems : ∀ p ∈ [messages, model, temperature, within value text], IsJson p.text)
    (hinside : IsGap inside)
    (h : grammar (itemsText [messages, model, temperature, within value text] inside) t) :
    IsLiteral text ∧ ∃ t₁ t₂ t₃ : Tree, ∀ literal, IsLiteral literal →
      grammar (itemsText [messages, model, temperature, within value literal] inside)
        (.array [t₁, t₂, t₃, .number literal]) := by
  obtain ⟨seen, hseen, hof, -⟩ := RecordGrammar.of_itemsText fieldsOfJson hitems hinside h
  obtain ⟨i₁, _, rfl, rfl, hrest⟩ := List.map_eq_cons_iff.mp hseen
  obtain ⟨i₂, _, rfl, rfl, hrest'⟩ := List.map_eq_cons_iff.mp hrest
  obtain ⟨i₃, _, rfl, rfl, hlast⟩ := List.map_eq_cons_iff.mp hrest'
  obtain ⟨i₄, _, rfl, hvalue, hnil⟩ := List.map_eq_cons_iff.mp hlast
  obtain rfl := List.map_eq_nil_iff.mp hnil
  obtain _ | ⟨h₁, _ | ⟨h₂, _ | ⟨h₃, _ | ⟨h₄, -⟩⟩⟩⟩ := hof
  rw [hvalue] at h₄
  refine ⟨NumberGrammar.isLiteral h₄, i₁.2, i₂.2, i₃.2, fun literal h => ?_⟩
  have hof' : Json.ItemsOf fields [i₁, i₂, i₃, (within value literal, .number literal)] :=
    .cons h₁ (.cons h₂ (.cons h₃ (.cons (NumberGrammar.literal h) (.nil _))))
  exact RecordGrammar.list hinside hof'

/-- The body is read from these parts, and from the literal that stands for `max_tokens`. -/
def SeenAs (body : List UInt8 → List UInt8) (parts : Parts) : Prop :=
  ∀ literal, IsLiteral literal → ∃ t, grammar.Body (body literal) t ∧
    parts? t = some { parts with maxTokens := some (.number literal) }

theorem exists_parts_of_decode {body : List UInt8} {t : Tree} {r : ChatRequest}
    (hbody : grammar.Body body t) (hdecode : decode body = .ok r) :
    ∃ parts, parts? t = some parts ∧ parts.request? = some r := by
  have hread : (decode body).toOption = layout.ofTree? t := follows.decode hbody
  rw [layout_ofTree?, Json.Reader.toOption_eq_some_iff.mpr hdecode] at hread
  exact Option.bind_eq_some_iff.mp hread.symm

theorem TokensIn.exists_seenAs {body : List UInt8 → List UInt8} (h : TokensIn body)
    {text : List UInt8} (htext : IsJson text) {r : ChatRequest}
    (hdecode : decode (body text) = .ok r) : IsLiteral text ∧ ∃ parts, SeenAs body parts := by
  obtain ⟨t, hbody⟩ := follows.exists_tree hdecode
  have hjson := Json.ofJson_record fieldsOfJson
  cases h with
  | @member before after key value around inside hbefore hafter hkey hinside =>
      have hmembers : AreMembers (before ++ (key, within value text) :: after) :=
        forall_mem_between.mpr ⟨hbefore, ⟨hkey.isLooseText, htext⟩, hafter⟩
      obtain ⟨hliteral, others, others', hgrammar⟩ := exists_object_of_grammar hmembers hkey hinside
        (hbody.of_bytes hjson (hmembers.isJson hinside))
      obtain ⟨hnames, htree⟩ := hgrammar text hliteral
      obtain ⟨parts, hparts, -⟩ := exists_parts_of_decode ⟨_, htree, rfl⟩ hdecode
      rw [parts?_between _ hnames, Option.map_eq_some_iff] at hparts
      obtain ⟨parts, hparts, -⟩ := hparts
      refine ⟨hliteral, parts, fun literal hliteral => ?_⟩
      obtain ⟨hnames, htree⟩ := hgrammar literal hliteral
      exact ⟨_, ⟨_, htree, rfl⟩, by rw [parts?_between _ hnames, hparts, Option.map_some]⟩
  | @item messages model temperature value around inside hitems hinside =>
      have hall : ∀ p ∈ [messages, model, temperature] ++ [within value text], IsJson p.text :=
        forall_mem_between.mpr ⟨hitems, htext, List.forall_mem_nil _⟩
      obtain ⟨hliteral, t₁, t₂, t₃, hgrammar⟩ := exists_array_of_grammar hall hinside
        (hbody.of_bytes hjson (.array hinside hall))
      refine ⟨hliteral, ⟨t₁, some t₂, some t₃, none⟩, fun literal hliteral => ?_⟩
      exact ⟨_, ⟨_, hgrammar literal hliteral, rfl⟩, rfl⟩

/-! ## What becomes of a literal -/

/-- Parts that come to a request come to it with any other integer, too. -/
theorem Parts.request?_tokens {parts : Parts} {t : Tree} {r : ChatRequest}
    (h : { parts with maxTokens := some t }.request? = some r) (t' : Tree) :
    { parts with maxTokens := some t' }.request? =
      (t'.number? fun n => (Json.Reader.toInt64 "i64" n).toOption).map
        fun k => { r with maxTokens := k } := by
  simp only [Parts.request?, Option.bind_eq_some_iff] at h
  obtain ⟨ms, hms, s?, hs, x?, hx, k?, hk, hr⟩ := h
  obtain ⟨k, -, rfl⟩ := Option.map_eq_some_iff.mp hk
  obtain rfl := Option.some.inj hr
  simp only [Parts.request?, hms, hs, hx, Option.bind_some]
  rw [Tree.given?]
  cases t'.number? fun n => (Json.Reader.toInt64 "i64" n).toOption <;> rfl

/-- **The literal alone settles what becomes of the body.** -/
theorem TokensIn.decode_literal {body : List UInt8 → List UInt8} (h : TokensIn body)
    {text : List UInt8} (htext : IsJson text) {r : ChatRequest}
    (hdecode : decode (body text) = .ok r) {literal : List UInt8} (hliteral : IsLiteral literal) :
    (decode (body literal)).toOption =
      ((Tree.numberOf? literal).bind fun n => (Json.Reader.toInt64 "i64" n).toOption).map
        fun k => { r with maxTokens := k } := by
  obtain ⟨htext, parts, hseen⟩ := h.exists_seenAs htext hdecode
  obtain ⟨t, hbody, hparts⟩ := hseen text htext
  obtain ⟨parts', hparts', hrequest⟩ := exists_parts_of_decode hbody hdecode
  obtain rfl := Option.some.inj (hparts'.symm.trans hparts)
  obtain ⟨t', hbody', hparts''⟩ := hseen literal hliteral
  have hread : (decode (body literal)).toOption = layout.ofTree? t' := follows.decode hbody'
  rw [hread, layout_ofTree?, hparts'', Option.bind_some, Parts.request?_tokens hrequest]
  rfl

/-- **An integer is taken as it is, or not at all.** -/
theorem TokensIn.decode_integer_iff {body : List UInt8 → List UInt8} (h : TokensIn body)
    {text : List UInt8} (htext : IsJson text) {r : ChatRequest}
    (hdecode : decode (body text) = .ok r) (n : Int) (r' : ChatRequest) :
    decode (body (Utf8.bytes (toString n))) = .ok r' ↔
      r'.maxTokens.toInt = n ∧ r' = { r with maxTokens := r'.maxTokens } := by
  have hread := h.decode_literal htext hdecode (Json.isLiteral_int n)
  rw [← Json.Reader.toOption_eq_some_iff, hread, Option.map_eq_some_iff]
  constructor
  · rintro ⟨k, hk, rfl⟩
    obtain ⟨number, hnumber, hint⟩ := Option.bind_eq_some_iff.mp hk
    obtain ⟨w, rfl, hw⟩ := toInt64_eq_some_iff.mp hint
    exact ⟨hw.symm.trans (Json.toInt_of_numberOf? hnumber), rfl⟩
  · rintro ⟨rfl, hr'⟩
    refine ⟨r'.maxTokens, ?_, hr'.symm⟩
    have hwhole : Tree.numberOf? (Utf8.bytes (toString r'.maxTokens.toInt)) =
        some (.whole (.ofInt64 r'.maxTokens)) := Json.numberOf?_whole (.ofInt64 r'.maxTokens)
    rw [hwhole, Option.bind_some, toInt64_eq_some_iff]
    exact ⟨_, rfl, rfl⟩

/-- An integer of 64 bits is the bound of some request. -/
theorem exists_int64 {n : Int} : (∃ k : Int64, k.toInt = n) ↔ -2 ^ 63 ≤ n ∧ n ≤ 2 ^ 63 - 1 := by
  constructor
  · rintro ⟨k, rfl⟩
    have hlower := k.le_toInt
    have hupper := k.toInt_lt
    omega
  · rintro ⟨hlower, hupper⟩
    exact ⟨.ofInt n, Int64.toInt_ofInt_of_le (by omega) (by omega)⟩

/-- What is written as a float is refused, whatever its value is. -/
theorem TokensIn.exists_error_of_isFloatLiteral {body : List UInt8 → List UInt8} (h : TokensIn body)
    {text : List UInt8} (htext : IsJson text) {r : ChatRequest}
    (hdecode : decode (body text) = .ok r) {literal : List UInt8}
    (hliteral : IsFloatLiteral literal) : ∃ e, decode (body literal) = .error e := by
  rw [← Json.Reader.toOption_eq_none_iff, h.decode_literal htext hdecode hliteral.isLiteral,
    Option.map_eq_none_iff, Option.bind_eq_none_iff]
  intro number hnumber
  rw [Option.eq_none_iff_forall_ne_some]
  intro k hk
  obtain ⟨w, rfl, -⟩ := toInt64_eq_some_iff.mp hk
  exact hliteral.numberOf?_ne_whole w hnumber

end ChatGateway.ChatRequest
