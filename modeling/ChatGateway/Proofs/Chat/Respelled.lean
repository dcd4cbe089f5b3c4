import ChatGateway.Proofs.Chat.Request
import ChatGateway.Proofs.Json.Forms
import ChatGateway.Proofs.Json.Taken.Record
import ChatGateway.Relay

/-!
# How a request is spelled does not matter

A request is looked for in a body: its fields at the top, and the fields of its messages
inside.  `ChatRequest.grammar` says what is seen there.  Two bodies in which the same is seen
are respellings of each other (`Grammar.Respelled`): one is turned into the other by putting
members in another order, by adding members that are not asked for or leaving them out, by
other blanks, and by writing the characters of texts and names in another way.

Every body that is decoded is a body of the grammar, and all of its respellings are decoded to
the same request (`ChatRequest.decode_respelled`).  So what becomes of a request, the rules that
it breaks included, is the same for all of them.
-/

namespace ChatGateway

open Json (Tree Grammar TextGrammar NumberGrammar ListGrammar RecordGrammar Follows FollowsAll
  FieldsOfJson Padded SpelledMember SpelledText IsMemberOf IsValueOf)

/-! ## Messages -/

namespace Message

/-- The fields of a message, with the texts that they are read from. -/
def fields : List (String × Grammar) := [("role", TextGrammar), ("content", TextGrammar)]

/-- The texts of messages. -/
def grammar : Grammar := RecordGrammar fields

theorem followsAll : FollowsAll layout.slots fields :=
  .cons ⟨rfl, Json.follows_string⟩ (.cons ⟨rfl, Json.follows_string⟩ .nil)

theorem follows : Follows reader grammar ofTree? := by
  have hgiven : ∀ s ∈ layout.slots, ∀ draft c, s.given (s.put draft c) = true := by
    simp only [layout, slots, List.mem_cons, List.not_mem_nil, or_false]
    rintro s (rfl | rfl) draft c <;> rfl
  have h := Json.follows_record layout followsAll hgiven
  rwa [funext layout_ofTree?] at h

theorem fieldsOfJson : FieldsOfJson fields := by
  simpa [FieldsOfJson, fields] using Json.ofJson_text

/-- A message is the same however it is spelled, and so are the rules that it breaks. -/
theorem decode_eq_ok_iff_of_respelled {body body' : List UInt8}
    (h : grammar.Respelled body body') {m : Message} :
    decode body = .ok m ↔ decode body' = .ok m := by
  rw [← Json.Reader.toOption_eq_some_iff, ← Json.Reader.toOption_eq_some_iff, decode, decode,
    follows.decode_congr h]

end Message

/-! ## Requests -/

namespace ChatRequest

/-- The fields of a request, with the texts that they are read from. -/
def fields : List (String × Grammar) := [
  ("messages", ListGrammar Message.grammar), ("model", TextGrammar),
  ("temperature", NumberGrammar), ("max_tokens", NumberGrammar)]

/-- The texts of requests. -/
def grammar : Grammar := RecordGrammar fields

theorem followsAll : FollowsAll layout.slots fields :=
  .cons ⟨rfl, Json.follows_list Message.follows⟩ <| .cons ⟨rfl, Json.follows_string⟩ <|
    .cons ⟨rfl, Json.follows_float⟩ <| .cons ⟨rfl, Json.follows_numberOf _ _⟩ .nil

theorem follows : Follows reader grammar layout.ofTree? := by
  refine Json.follows_record layout followsAll ?_
  simp only [layout, slots, List.mem_cons, List.not_mem_nil, or_false]
  rintro s (rfl | rfl | rfl | rfl) draft c <;> rfl

theorem fieldsOfJson : FieldsOfJson fields := by
  have hmessages := Json.ofJson_list (Json.ofJson_record Message.fieldsOfJson)
  simpa [FieldsOfJson, fields] using ⟨hmessages, Json.ofJson_text, Json.ofJson_number⟩

/-- **How a request is spelled does not matter.**  Every body that is decoded is a body of the
grammar, and each of its respellings is decoded to the same request and relayed alike. -/
theorem decode_respelled {body : List UInt8} {r : ChatRequest} (h : decode body = .ok r) :
    grammar.Respelled body body ∧ ∀ body', grammar.Respelled body body' →
      decode body' = .ok r ∧ ∀ server replies,
        Relay.handleBody server replies body' = Relay.handleBody server replies body := by
  refine ⟨follows.respelled_self h, fun body' hrespelled => ?_⟩
  have hdecode : decode body' = .ok r := by
    rw [← Json.Reader.toOption_eq_some_iff, decode, ← follows.decode_congr hrespelled,
      Json.Reader.toOption_eq_some_iff]
    exact h
  refine ⟨hdecode, fun server replies => ?_⟩
  simp only [Relay.handleBody, h, hdecode]

/-- A request without blanks. -/
def plainRequest : List UInt8 := Utf8.bytes
  "\x7b\"messages\":[\x7b\"role\":\"user\",\"content\":\"/\"\x7d],\"model\":\"m\"\x7d"

/-- The same request, with members in another order, a member that is not asked for, blanks
and an escape. -/
def respelledRequest : List UInt8 := Utf8.bytes
  " \x7b\"stream\" :[\x7b\x7d],\"model\":\"m\",\n\"messages\":[\x7b\"content\":\"\\u002f\",\"role\":\"user\"\x7d]\x7d"

theorem isGap_space : Json.IsGap [0x20] := by simp [Json.IsGap, Json.isBlank]

/-- A member without blanks whose value is a text. -/
def textMember (name : String) (content : List UInt8) (s : String) : SpelledMember where
  key := .bare (Json.writtenChars name)
  name := name
  value := .bare (Json.quote :: (content ++ [Json.quote]))
  tree := .text s

theorem isMemberOf_textMember {fields : List (String × Grammar)} {name : String}
    (hname : fields.lookup name = some TextGrammar) {content : List UInt8} {s : String}
    (h : SpelledText content s) : IsMemberOf fields (textMember name content s) := by
  refine ⟨Json.spelledText_writtenChars name, ?_⟩
  rw [IsValueOf, textMember, hname]
  exact .spelled h

/-- The content of the message with an escape in it. -/
def escapedSlash : List UInt8 := Utf8.bytes "\\u002f"

theorem spelledText_escapedSlash : SpelledText escapedSlash "/" :=
  (Json.spelledChar_hex (show '/'.toNat < 0x100 by decide)).spelledText

/-- What the message of both requests says. -/
def sampleMessage : Tree := .object [("role", .text "user"), ("content", .text "/")]

/-- The message in the request without blanks. -/
def plainMessage : List UInt8 := Utf8.bytes "\x7b\"role\":\"user\",\"content\":\"/\"\x7d"

/-- The message in the other request. -/
def respelledMessage : List UInt8 :=
  Utf8.bytes "\x7b\"content\":\"\\u002f\",\"role\":\"user\"\x7d"

theorem grammar_plainMessage : Message.grammar plainMessage sampleMessage := by
  have hmembers : ∀ m ∈ [textMember "role" (Json.writtenChars "user") "user",
      textMember "content" (Json.writtenChars "/") "/"], IsMemberOf Message.fields m := by
    simpa using ⟨isMemberOf_textMember rfl (Json.spelledText_writtenChars "user"),
      isMemberOf_textMember rfl (Json.spelledText_writtenChars "/")⟩
  exact RecordGrammar.object Json.isGap_nil hmembers (by decide) (.refl _)

theorem grammar_respelledMessage : Message.grammar respelledMessage sampleMessage := by
  have hmembers : ∀ m ∈ [textMember "content" escapedSlash "/",
      textMember "role" (Json.writtenChars "user") "user"], IsMemberOf Message.fields m := by
    simpa using ⟨isMemberOf_textMember rfl spelledText_escapedSlash,
      isMemberOf_textMember rfl (Json.spelledText_writtenChars "user")⟩
  exact RecordGrammar.object Json.isGap_nil hmembers (by decide) (.swap _ _ _)

/-- The member with the messages, which are one message in the given text. -/
def messagesMember (before message : List UInt8) (hbefore : Json.IsGap before) :
    SpelledMember where
  key := { before, text := Json.writtenChars "messages", before_isGap := hbefore }
  name := "messages"
  value := .bare (Json.listText [message])
  tree := .array [sampleMessage]

theorem isMemberOf_messagesMember {before message : List UInt8} (hbefore : Json.IsGap before)
    (hmessage : Message.grammar message sampleMessage) :
    IsMemberOf fields (messagesMember before message hbefore) := by
  have hitems : ∀ i ∈ [(Padded.bare message, sampleMessage)], Message.grammar i.1.text i.2 :=
    List.forall_mem_singleton.mpr hmessage
  have hlist := ListGrammar.items Json.isGap_nil hitems
  exact ⟨Json.spelledText_writtenChars "messages", hlist⟩

/-- The member that is not asked for. -/
def streamMember : SpelledMember where
  key := { text := Json.writtenChars "stream", after := [0x20], after_isGap := isGap_space }
  name := "stream"
  value := .bare (Utf8.bytes "[\x7b\x7d]")
  tree := .null

theorem isMemberOf_streamMember : IsMemberOf fields streamMember := by
  have hempty : Json.IsJson (Utf8.bytes "\x7b\x7d") :=
    @Json.IsJson.object [] [] Json.isGap_nil (List.forall_mem_nil _) (List.forall_mem_nil _)
  have hlist : Json.IsJson (Utf8.bytes "[\x7b\x7d]") :=
    @Json.IsJson.array [.bare (Utf8.bytes "\x7b\x7d")] [] Json.isGap_nil
      (List.forall_mem_singleton.mpr hempty)
  exact ⟨Json.spelledText_writtenChars "stream", hlist⟩

theorem respelled_respelledRequest : grammar.Respelled plainRequest respelledRequest := by
  have hbreak : Json.IsGap [0x0A] := by simp [Json.IsGap, Json.isBlank]
  have hmodel : IsMemberOf fields (textMember "model" (Json.writtenChars "m") "m") :=
    isMemberOf_textMember rfl (Json.spelledText_writtenChars "m")
  have hmembers : ∀ m ∈ [messagesMember [] plainMessage Json.isGap_nil,
      textMember "model" (Json.writtenChars "m") "m"], IsMemberOf fields m := by
    simpa using ⟨isMemberOf_messagesMember Json.isGap_nil grammar_plainMessage, hmodel⟩
  have hmembers' : ∀ m ∈ [streamMember, textMember "model" (Json.writtenChars "m") "m",
      messagesMember [0x0A] respelledMessage hbreak], IsMemberOf fields m := by
    simpa using ⟨isMemberOf_streamMember, hmodel,
      isMemberOf_messagesMember hbreak grammar_respelledMessage⟩
  obtain ⟨t, hplain, hrespelled⟩ := RecordGrammar.exists_tree Json.isGap_nil Json.isGap_nil hmembers
    hmembers' (by decide) (.swap _ _ _)
  exact ⟨t, ⟨.bare _, hplain, by rfl⟩, { before := [0x20], text := _, before_isGap := isGap_space },
    hrespelled, by rfl⟩

theorem decode_respelledRequest :
    decode plainRequest = .ok { messages := [⟨"user", "/"⟩], model := "m" } ∧
      grammar.Respelled plainRequest respelledRequest ∧
      decode respelledRequest = .ok { messages := [⟨"user", "/"⟩], model := "m" } := by
  have hdecode : decode plainRequest = .ok { messages := [⟨"user", "/"⟩], model := "m" } := by rfl
  have hothers := (decode_respelled hdecode).2
  exact ⟨hdecode, respelled_respelledRequest, (hothers _ respelled_respelledRequest).1⟩

end ChatRequest

end ChatGateway
