import ChatGateway.Proofs.Chat.Respelled
import ChatGateway.Proofs.Completion.Grammar
import ChatGateway.Proofs.Relay.FirstReply

/-!
# No ambiguous body is accepted

Who reads a body in another way may take the first of two members with one name where the
gateway takes the last, so a body with a name twice has no sure meaning.  For the names that
the gateway asks for, such a body is refused: in a request, in each of its messages, and in
a reply (`ambiguous_refused`).  It does not matter how the name is spelled, which values the
two members have, and what stands between them.

A record has only one way to see an object (`RecordGrammar.of_membersText`), and the names
that it asks for are different there.
-/

namespace ChatGateway

open Json (Padded Tree Grammar RecordGrammar FieldsOfJson AreMembers SpelledText IsGap IsJson
  membersText itemsText)

namespace Json

/-- An object in which two members have the same name: whatever their values are, and whatever
members come before, between and after them. -/
inductive Repeats (name : String) : List UInt8 → Prop where
  | twice {members : List (Padded × Padded)} {m m' : Padded × Padded} {inside : List UInt8}
      (hmembers : AreMembers members) (hinside : IsGap inside) (htwice : [m, m'].Sublist members)
      (hname : SpelledText m.1.text name) (hname' : SpelledText m'.1.text name) :
      Repeats name (membersText members inside)

theorem Repeats.isJson {name : String} {text : List UInt8} (h : Repeats name text) :
    IsJson text := by
  obtain ⟨hmembers, hinside⟩ := h
  exact hmembers.isJson hinside

/-- What is asked for twice is seen twice. -/
theorem sublist_asked {fields : List (String × Grammar)} {spelled : List SpelledMember}
    {s s' : SpelledMember} (h : [s, s'].Sublist spelled) (hs : (fields.lookup s.name).isSome)
    (hs' : (fields.lookup s'.name).isSome) :
    [s.name, s'.name].Sublist ((asked fields spelled).map Prod.fst) := by
  have hkept : [s, s'].filter (fun m => (fields.lookup m.name).isSome) = [s, s'] := by
    simp [hs, hs']
  have hasked := ((h.filter fun m => (fields.lookup m.name).isSome).map fun m =>
    (m.name, m.tree)).map Prod.fst
  rwa [hkept] at hasked

/-- **A record sees no object in which a name that it asks for comes twice.** -/
theorem RecordGrammar.not_repeats {fields : List (String × Grammar)} (hfields : FieldsOfJson fields)
    {text : List UInt8} {t : Tree} (h : RecordGrammar fields text t) {name : String}
    (hasked : (fields.lookup name).isSome) : ¬ Repeats name text := by
  rintro ⟨hmembers, hinside, htwice, hname, hname'⟩
  obtain ⟨spelled, seen, rfl, hspelled, hnames, hperm, -⟩ :=
    h.of_membersText hfields hmembers hinside
  obtain ⟨pair, hpair, htexts⟩ := List.sublist_map_iff.mp htwice
  obtain ⟨s, rest, rfl, rfl, hrest⟩ := List.map_eq_cons_iff.mp htexts.symm
  obtain ⟨s', rest, rfl, rfl, hnil⟩ := List.map_eq_cons_iff.mp hrest
  obtain rfl := List.map_eq_nil_iff.mp hnil
  have hs : s.name = name :=
    (hspelled s (hpair.subset List.mem_cons_self)).name.name_eq hname
  have hs' : s'.name = name :=
    (hspelled s' (hpair.subset (List.mem_cons_of_mem _ List.mem_cons_self))).name.name_eq hname'
  have htwice := sublist_asked hpair (hs ▸ hasked) (hs' ▸ hasked)
  rw [hs, hs'] at htwice
  exact List.nodup_iff_sublist.mp ((hperm.map Prod.fst).nodup_iff.mpr hnames) name htwice

end Json

/-! ## Requests -/

/-- A list with a message in which the role or the content is given twice. -/
inductive Message.AmbiguousList : List UInt8 → Prop where
  | item {items : List Padded} {inside : List UInt8} {item : Padded} {name : String}
      (hitems : ∀ p ∈ items, IsJson p.text) (hinside : IsGap inside) (hitem : item ∈ items)
      (hname : name ∈ ["role", "content"]) (h : Json.Repeats name item.text) :
      Message.AmbiguousList (itemsText items inside)

/-- The requests in which something is given twice: at the top, or in one of the messages. -/
inductive ChatRequest.Ambiguous : List UInt8 → Prop where
  | top {name : String} {text : List UInt8}
      (hname : name ∈ ["messages", "model", "temperature", "max_tokens"])
      (h : Json.Repeats name text) : ChatRequest.Ambiguous text
  | message {members : List (Padded × Padded)} {m : Padded × Padded} {inside : List UInt8}
      (hmembers : AreMembers members) (hinside : IsGap inside) (hm : m ∈ members)
      (hname : SpelledText m.1.text "messages") (h : Message.AmbiguousList m.2.text) :
      ChatRequest.Ambiguous (membersText members inside)
  -- the messages come first where the request is written as a list
  | messageInList {messages : Padded} {items : List Padded} {inside : List UInt8}
      (hitems : ∀ p ∈ messages :: items, IsJson p.text) (hinside : IsGap inside)
      (h : Message.AmbiguousList messages.text) :
      ChatRequest.Ambiguous (itemsText (messages :: items) inside)

theorem ChatRequest.Ambiguous.isJson {text : List UInt8} (h : Ambiguous text) : IsJson text := by
  cases h with
  | top _ h => exact h.isJson
  | message hmembers hinside => exact hmembers.isJson hinside
  | messageInList hitems hinside => exact .array hinside hitems

/-- Messages that are seen are not ambiguous. -/
theorem Message.not_ambiguousList {text : List UInt8} {t : Tree}
    (h : Json.ListGrammar grammar text t) : ¬ AmbiguousList text := by
  rintro ⟨hitems, hinside, hitem, hname, hrepeats⟩
  obtain ⟨seen, hseen⟩ :=
    h.of_itemsText (Json.ofJson_record fieldsOfJson) hitems hinside _ hitem
  refine RecordGrammar.not_repeats fieldsOfJson hseen ?_ hrepeats
  simp only [List.mem_cons, List.not_mem_nil, or_false] at hname
  rcases hname with rfl | rfl <;> rfl

theorem ChatRequest.not_ambiguous {text : List UInt8} {t : Tree} (h : grammar text t) :
    ¬ Ambiguous text := by
  intro hambiguous
  cases hambiguous with
  | @top name _ hname hrepeats =>
      refine RecordGrammar.not_repeats fieldsOfJson h ?_ hrepeats
      simp only [List.mem_cons, List.not_mem_nil, or_false] at hname
      rcases hname with rfl | rfl | rfl | rfl <;> rfl
  | message hmembers hinside hm hname hlist =>
      obtain ⟨spelled, seen, rfl, hspelled, -⟩ :=
        RecordGrammar.of_membersText fieldsOfJson hmembers hinside h
      obtain ⟨s, hs, rfl⟩ := List.mem_map.mp hm
      obtain ⟨hkey, hvalue⟩ := hspelled s hs
      rw [hkey.name_eq hname] at hvalue
      exact Message.not_ambiguousList hvalue hlist
  | messageInList hitems hinside hlist =>
      obtain ⟨seen, hitems', hseen, -⟩ := RecordGrammar.of_itemsText fieldsOfJson hitems hinside h
      obtain ⟨i, seen, rfl, rfl, -⟩ := List.map_eq_cons_iff.mp hitems'
      cases hseen with
      | cons hmessages _ => exact Message.not_ambiguousList hmessages hlist

/-! ## Replies -/

/-- The replies in which a part is given twice. -/
def Completion.Reply.Ambiguous (text : List UInt8) : Prop :=
  ∃ name ∈ ["choices", "usage", "model", "created"], Json.Repeats name text

theorem Completion.Reply.not_ambiguous {text : List UInt8} {t : Tree} (h : grammar text t) :
    ¬ Ambiguous text := by
  rintro ⟨name, hname, hrepeats⟩
  refine RecordGrammar.not_repeats fieldsOfJson h ?_ hrepeats
  simp only [List.mem_cons, List.not_mem_nil, or_false] at hname
  rcases hname with rfl | rfl | rfl | rfl <;> rfl

/-! ## What becomes of ambiguous bodies -/

namespace Relay

open Exchange (Reply)

/-- A request is not answered if the reply that closes its exchange does not answer it. -/
theorem exists_unanswered_of_closedBy {server : ModelServer} {replies : List Reply}
    {r : ChatRequest} {reply : Reply} (hr : r.Admissible)
    (hclosed : ClosedBy server replies r reply)
    (h : ∀ response, answer (.ok reply.content) ≠ .ok response) :
    ∃ text, (handle server replies r).result = .error (.unanswered text) := by
  refine exists_unanswered_of_not_ok hr fun response hok => ?_
  obtain ⟨reply', hclosed', -, hanswer⟩ := (handle_result_eq_ok_iff hr).mp hok
  obtain rfl : reply' = reply :=
    (hclosed'.lastReply_eq hr).2.symm.trans (hclosed.lastReply_eq hr).2
  exact h response hanswer

/-- **No ambiguous body is accepted.**  A request in which a name that is asked for comes twice
in one object is refused, and no call is made for it; a reply in which one comes twice at the
top is refused, and a request whose exchange it closes is not answered. -/
theorem ambiguous_refused (p : Padded) :
    (ChatRequest.Ambiguous p.text → ∃ e, ChatRequest.decode p.bytes = .error e ∧
      ∀ server replies, handleBody server replies p.bytes = .error e ∧
        callsOf (handleBody server replies p.bytes) = []) ∧
    (Completion.Reply.Ambiguous p.text →
      (∃ text, Completion.Reply.decode p.bytes = .error (.unanswered text)) ∧
      ∀ server replies r reply, r.Admissible → ClosedBy server replies r reply →
        reply.content = p.bytes →
        ∃ text, (handle server replies r).result = .error (.unanswered text)) := by
  constructor
  · intro hambiguous
    cases hdecode : ChatRequest.decode p.bytes with
    | error e =>
        refine ⟨e, rfl, fun server replies => ?_⟩
        rw [handleBody_of_decode_error hdecode]
        exact ⟨rfl, rfl⟩
    | ok r =>
        obtain ⟨t, hbody⟩ := ChatRequest.follows.exists_tree hdecode
        have ht := hbody.of_bytes (Json.ofJson_record ChatRequest.fieldsOfJson) hambiguous.isJson
        exact absurd hambiguous (ChatRequest.not_ambiguous ht)
  · intro hambiguous
    have hrefused : ∃ text, Completion.Reply.decode p.bytes = .error (.unanswered text) := by
      cases hdecode : Completion.Reply.decode p.bytes with
      | error failure =>
          obtain ⟨text, -, rfl⟩ := Completion.Reply.isUnanswered_of_decode_error hdecode
          exact ⟨text, rfl⟩
      | ok reply =>
          obtain ⟨name, -, hrepeats⟩ := id hambiguous
          obtain ⟨t, hbody⟩ := Completion.Reply.follows.exists_tree
            (Completion.Reply.json_decode_of_decode hdecode)
          have ht := hbody.of_bytes (Json.ofJson_record Completion.Reply.fieldsOfJson)
            hrepeats.isJson
          exact absurd hambiguous (Completion.Reply.not_ambiguous ht)
    refine ⟨hrefused, fun server replies r reply hr hclosed hcontent => ?_⟩
    refine exists_unanswered_of_closedBy hr hclosed fun response hok => ?_
    obtain ⟨text, hdecode⟩ := hrefused
    rw [hcontent, answer, hdecode] at hok
    contradiction

/-- A member with its name as it is spelled. -/
def member (name : String) (value : Json.Value) : Padded × Padded :=
  (.bare (Utf8.bytes name), .bare (Utf8.bytes (Json.Writer.value value)))

theorem spelledText_of_read {name s : String}
    (h : Json.Reader.text (Utf8.bytes name ++ [Json.quote]) = .ok (s, [])) :
    SpelledText (Utf8.bytes name) s := by
  obtain ⟨content, hcontent, heq⟩ := Json.spelledText_of_text h
  rwa [List.append_cancel_right heq]

/-- Two members repeat a name that is spelled in two ways, with another one between them. -/
theorem repeats_ends {name key name' s t : String} {value other value' : Json.Value}
    (hname : SpelledText (Utf8.bytes name) s) (hkey : SpelledText (Utf8.bytes key) t)
    (hname' : SpelledText (Utf8.bytes name') s)
    (hwhole : ∀ v ∈ [value, other, value'], v.IsWhole) :
    Json.Repeats s
      (membersText [member name value, member key other, member name' value'] []) := by
  have hjson : ∀ v ∈ [value, other, value'], IsJson (Utf8.bytes (Json.Writer.value v)) :=
    fun v hv => (Json.spelled_value (hwhole v hv)).isJson
  have hmembers : AreMembers [member name value, member key other, member name' value'] := by
    intro m hm
    simp only [List.mem_cons, List.not_mem_nil, or_false] at hm
    rcases hm with rfl | rfl | rfl
    · exact ⟨hname.isLooseText, hjson _ (by simp)⟩
    · exact ⟨hkey.isLooseText, hjson _ (by simp)⟩
    · exact ⟨hname'.isLooseText, hjson _ (by simp)⟩
  exact .twice hmembers Json.isGap_nil (.cons_cons _ (.cons _ (.cons_cons _ .slnil))) hname hname'

/-- A request that names its model first. -/
def modelRequest : List (Padded × Padded) := [
  member "model" (.text "a"),
  member "messages" (.array [.object [("role", .text "user"), ("content", .text "hi")]])]

/-- The request with another model at its end, where the name has an escape. -/
def ambiguousRequest : Padded :=
  .bare (membersText (modelRequest ++ [member "mod\\u0065l" (.text "b")]) [])

/-- A reply that gives its usage first. -/
def usageReply : List (Padded × Padded) := [
  member "usage" (.bool true),
  member "choices" (.array [.object [("message", .object [("content", .text "hi")])]])]

/-- The reply with another usage at its end, where the name has an escape. -/
def ambiguousReply : Padded :=
  .bare (membersText (usageReply ++ [member "us\\u0061ge" (.bool false)]) [])

/-- A request and a reply that are taken as they are, and refused once a name comes again. -/
theorem ambiguous_refused_escaped :
    (callsOf (handleBody reachableServer [] (membersText modelRequest [])) ≠ [] ∧
      ChatRequest.Ambiguous ambiguousRequest.text ∧
      ∃ e, ChatRequest.decode ambiguousRequest.bytes = .error e) ∧
    (answer (.ok (membersText usageReply []))).toOption.isSome ∧
      Completion.Reply.Ambiguous ambiguousReply.text ∧
      ChatRequest.Admissible { messages := [{ role := "user", content := "hi" }] } ∧
      ClosedBy reachableServer [{ body := ambiguousReply.bytes }]
        { messages := [{ role := "user", content := "hi" }] } { body := ambiguousReply.bytes } ∧
      ∃ text, (handle reachableServer [{ body := ambiguousReply.bytes }]
        { messages := [{ role := "user", content := "hi" }] }).result =
          .error (.unanswered text) := by
  have hcalled : callsOf (handleBody reachableServer [] (membersText modelRequest [])) ≠ [] := by
    decide +kernel
  have hrequest : ChatRequest.Ambiguous ambiguousRequest.text :=
    .top (List.mem_cons_of_mem _ List.mem_cons_self)
      (repeats_ends (spelledText_of_read rfl) (t := "messages") (spelledText_of_read rfl)
        (spelledText_of_read rfl) (by simp [Json.Value.IsWhole]))
  have hanswered : (answer (.ok (membersText usageReply []))).toOption.isSome := by
    decide +kernel
  have hreply : Completion.Reply.Ambiguous ambiguousReply.text :=
    ⟨"usage", List.mem_cons_of_mem _ List.mem_cons_self,
      repeats_ends (spelledText_of_read rfl) (t := "choices") (spelledText_of_read rfl)
        (spelledText_of_read rfl) (by simp [Json.Value.IsWhole])⟩
  have hadmissible :
      ChatRequest.Admissible { messages := [{ role := "user", content := "hi" }] } := by
    decide +kernel
  have harrives : Arrives reachableServer { body := ambiguousReply.bytes } :=
    ⟨⟨by decide +kernel, by decide +kernel, by decide +kernel⟩, by decide, rfl, rfl⟩
  have hclosed : ClosedBy reachableServer [{ body := ambiguousReply.bytes }]
      { messages := [{ role := "user", content := "hi" }] } { body := ambiguousReply.bytes } :=
    Arrives.closedBy harrives (by decide) _
  obtain ⟨e, hdecode, -⟩ := (ambiguous_refused ambiguousRequest).1 hrequest
  have hrefused :=
    ((ambiguous_refused ambiguousReply).2 hreply).2 _ _ _ _ hadmissible hclosed rfl
  exact ⟨⟨hcalled, hrequest, e, hdecode⟩, hanswered, hreply, hadmissible, hclosed, hrefused⟩

end Relay

end ChatGateway
