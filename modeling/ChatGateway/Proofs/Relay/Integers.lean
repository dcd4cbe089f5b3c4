import ChatGateway.Proofs.Chat.MaxTokens
import ChatGateway.Proofs.Completion.Grammar
import ChatGateway.Proofs.Completion.Payload
import ChatGateway.Proofs.Json.Places
import ChatGateway.Proofs.Relay.Stable

/-!
# Integers are neither wrapped nor rounded

An integer passes the gateway in two ways.  On the way to the model server there is the
bound on tokens, which has to fit 64 bits with a sign and is forwarded with the same digits.
On the way back there are the integers in what the model server says, wherever they stand;
each that fits 64 bits, with a sign or without, is answered with the same digits at the same
place (`integers_kept`).
-/

namespace ChatGateway

open Json (Tree Value Whole IsJson IsFloatLiteral Carries)
open Json.Reader (maxDepth)

/-! ## What the model server is asked -/

namespace Completion.Payload

/-- The body for a request as a value, with its members as they are written. -/
def asWritten (r : ChatRequest) : Value := .object [
  ("model", .text r.model),
  ("messages", .array (r.messages.map Message.asWritten)),
  ("temperature", .number (.float r.temperature)),
  ("max_tokens", .number (.whole (.ofInt64 r.maxTokens))),
  ("stream", .bool false)]

theorem toJson_eq (r : ChatRequest) :
    (ofRequest r).toJson = Json.Writer.value (asWritten r) := by
  rw [asWritten, Json.Writer.value, Json.memberValues_eq_map, toJson]
  simp only [List.map_cons, List.map_nil, Json.Writer.value, Json.values_eq_map, List.map_map]
  rfl

theorem distinct_asWritten (r : ChatRequest) : (asWritten r).Distinct := by
  simp [asWritten, Value.Distinct, Message.asWritten]

/-- The body for a request carries its bound on tokens. -/
theorem carries_maxTokens (r : ChatRequest) :
    Carries (ofRequest r).toJson [.name "max_tokens"] r.maxTokens.toInt := by
  rw [toJson_eq]
  exact Json.carries_value (w := .ofInt64 r.maxTokens) (distinct_asWritten r) rfl

end Completion.Payload

/-! ## What the model server says -/

namespace Completion.Reply

/-- The part of a reply that is called `name`. -/
def Parts.part? (p : Parts) (name : String) : Option Tree :=
  ([("choices", some p.choices), ("usage", p.usage), ("model", p.model),
    ("created", p.created)].lookup name).join

/-- What a reply says at a place. -/
def Parts.at? (p : Parts) : Location → Option Tree
  | .name name :: path => (p.part? name).bind fun t => t.at? path
  | _ => none

theorem value?_of_choices? {t : Tree} {vs : List Value} (h : ChatResponse.choices? t = some vs) :
    t.value? (maxDepth - 1) = some (.array vs) := by
  cases t with
  | array items =>
      have hread : (items.mapM fun t : Tree => t.value? (maxDepth - 2)) = some vs := h
      have hdepth : maxDepth - 1 = maxDepth - 2 + 1 := by decide
      rw [hdepth, Tree.value?_array, hread, Option.map_some]
  | _ => contradiction

theorem value?_of_member? {t : Tree} {v? : Option Value} (h : ChatResponse.member? t = some v?) :
    t.value? (maxDepth - 1) = some (v?.getD .null) := by
  rw [ChatResponse.member?] at h
  by_cases hnull : t = .null
  · subst hnull
    obtain rfl := Option.some.inj h
    rfl
  · rw [Tree.nullable?_of_ne hnull] at h
    obtain ⟨v, hv, rfl⟩ := Option.map_eq_some_iff.mp h
    exact hv

theorem Parts.part?_cases {p : Parts} {name : String} {t : Tree} (h : p.part? name = some t) :
    (name = "choices" ∧ t = p.choices) ∨ (name = "usage" ∧ some t = p.usage) ∨
      (name = "model" ∧ some t = p.model) ∨ (name = "created" ∧ some t = p.created) := by
  have hmem := Json.mem_of_lookup (Option.join_eq_some_iff.mp h)
  simpa using hmem

/-- A part of a reply is read to the member of the response with its name. -/
theorem Parts.exists_member {p : Parts} {response : ChatResponse}
    (h : p.reply? = some response.reply) {name : String} {t : Tree} (ht : p.part? name = some t) :
    ∃ v, t.value? (maxDepth - 1) = some v ∧ response.members.lookup name = some v := by
  simp only [reply?, Option.bind_eq_some_iff, Option.some.injEq] at h
  obtain ⟨choices, hchoices, usage, husage, model, hmodel, created, hcreated, heq⟩ := h
  obtain ⟨rfl, rfl, rfl, rfl⟩ := Reply.mk.inj heq
  rcases part?_cases ht with ⟨rfl, rfl⟩ | ⟨rfl, hpart⟩ | ⟨rfl, hpart⟩ | ⟨rfl, hpart⟩
  · exact ⟨_, value?_of_choices? hchoices, rfl⟩
  · rw [← hpart] at husage
    exact ⟨_, value?_of_member? husage, rfl⟩
  · rw [← hpart] at hmodel
    exact ⟨_, value?_of_member? hmodel, rfl⟩
  · rw [← hpart] at hcreated
    exact ⟨_, value?_of_member? hcreated, rfl⟩

end Completion.Reply

namespace Relay

/-- **The integers of a reply are carried.** -/
theorem carries_of_answer {body : List UInt8} {response : ChatResponse}
    (h : answer (.ok body) = .ok response) {t : Tree}
    (hbody : Completion.Reply.grammar.Body body t) :
    ∃ parts, Completion.Reply.parts? t = some parts ∧ ∀ path n, -2 ^ 63 ≤ n → n ≤ 2 ^ 64 - 1 →
      parts.at? path = some (.number (Utf8.bytes (toString n))) →
        Carries response.toJson path n := by
  obtain ⟨hread, -⟩ := isRead_of_answer h
  have hread' := Completion.Reply.json_decode_of_decode (decode_of_answer h).1
  have hreply := Completion.Reply.follows.decode hbody
  rw [Json.Reader.toOption_eq_some_iff.mpr hread'] at hreply
  obtain ⟨parts, hparts, hreply⟩ := Option.bind_eq_some_iff.mp hreply.symm
  refine ⟨parts, hparts, fun path n hlower hupper hat => ?_⟩
  obtain ⟨w, rfl⟩ := Json.exists_whole hlower hupper
  cases path with
  | nil => contradiction
  | cons s path =>
      cases s with
      | index i => contradiction
      | name name =>
          obtain ⟨part, hpart, hat⟩ := Option.bind_eq_some_iff.mp hat
          obtain ⟨v, hv, hmember⟩ := Completion.Reply.Parts.exists_member hreply hpart
          have hplace : (Value.object response.members).at? (.name name :: path) =
              some (.number (.whole w)) := by
            rw [Value.at?_cons, Value.step?, hmember, Option.bind_some,
              Json.at?_value?_decimal hv hat]
          rw [ChatResponse.toJson_eq]
          exact Json.carries_value (ChatResponse.distinct_members hread) hplace

/-- Every post that a request leads to carries the body for it. -/
theorem body_of_mem_posts {server : ModelServer} {replies : List Exchange.Reply} {r : ChatRequest}
    {call : Exchange.Call} (hcall : call ∈ (handle server replies r).calls)
    (hpost : call.method = .post) : call.body = (Completion.Payload.ofRequest r).toJson := by
  by_cases hr : r.Admissible
  · rw [handle_of_admissible hr] at hcall
    exact Exchange.body_of_mem_post_calls hcall hpost
  · rw [handle_of_not_admissible hr] at hcall
    contradiction

/-- **Integers are neither wrapped nor rounded.**  Put the digits of an integer for the bound
on tokens of a body that is decoded with some value there: it is decoded again exactly if the
integer fits 64 bits with a sign.  Then the bound is that integer, the rest of the request is as
before, and what is posted for the request carries these digits.  No float is decoded there,
whatever stands around it.  An integer of 64 bits, with a sign or without, that stands at a place
of an answered reply is carried by the response at the same place. -/
theorem integers_kept :
    (∀ body, ChatRequest.TokensIn body →
      (∀ text r, IsJson text → ChatRequest.decode (body text) = .ok r → ∀ n : Int,
        ((∃ r', ChatRequest.decode (body (Utf8.bytes (toString n))) = .ok r') ↔
          -2 ^ 63 ≤ n ∧ n ≤ 2 ^ 63 - 1) ∧
        ∀ r', ChatRequest.decode (body (Utf8.bytes (toString n))) = .ok r' →
          r'.maxTokens.toInt = n ∧ r' = { r with maxTokens := r'.maxTokens } ∧
          Carries (Completion.Payload.ofRequest r').toJson [.name "max_tokens"] n ∧
          ∀ server replies, ∀ call ∈ (handle server replies r').calls, call.method = .post →
            Carries call.body [.name "max_tokens"] n) ∧
      ∀ literal, IsFloatLiteral literal → ∃ e, ChatRequest.decode (body literal) = .error e) ∧
    ∀ body response, answer (.ok body) = .ok response →
      (∃ t, Completion.Reply.grammar.Body body t) ∧
      ∀ t, Completion.Reply.grammar.Body body t → ∃ parts, Completion.Reply.parts? t = some parts ∧
        ∀ path n, -2 ^ 63 ≤ n → n ≤ 2 ^ 64 - 1 →
          parts.at? path = some (.number (Utf8.bytes (toString n))) →
            Carries response.toJson path n := by
  refine ⟨fun body hbody => ⟨fun text r htext hdecode n => ?_, fun literal hliteral => ?_⟩,
    fun body response hanswer => ?_⟩
  · have hiff := hbody.decode_integer_iff htext hdecode n
    constructor
    · rw [← ChatRequest.exists_int64]
      constructor
      · rintro ⟨r', hr'⟩
        exact ⟨r'.maxTokens, ((hiff r').mp hr').1⟩
      · rintro ⟨k, hk⟩
        exact ⟨{ r with maxTokens := k }, (hiff _).mpr ⟨hk, rfl⟩⟩
    · intro r' hr'
      obtain ⟨rfl, hsame⟩ := (hiff r').mp hr'
      have hcarries := Completion.Payload.carries_maxTokens r'
      refine ⟨rfl, hsame, hcarries, fun server replies call hcall hpost => ?_⟩
      rwa [body_of_mem_posts hcall hpost]
  · cases hdecode : ChatRequest.decode (body literal) with
    | error e => exact ⟨e, rfl⟩
    | ok r =>
        obtain ⟨e, he⟩ := hbody.exists_error_of_isFloatLiteral (.number hliteral.isLiteral) hdecode
          hliteral
        rw [hdecode] at he
        contradiction
  · have hread := Completion.Reply.json_decode_of_decode (decode_of_answer hanswer).1
    exact ⟨Completion.Reply.follows.exists_tree hread, fun t ht => carries_of_answer hanswer ht⟩

/-- A request with one message, written as a list, and a place for its bound on tokens. -/
def boundedRequest (text : List UInt8) : List UInt8 :=
  (ChatRequest.within (.bare []) (Json.membersText
    ([(.bare (Json.writtenChars "messages"), .bare (Utf8.bytes "[[\"user\",\"hi\"]]"))] ++
      (.bare (Json.writtenChars "max_tokens"), ChatRequest.within (.bare []) text) :: []) [])).bytes

theorem tokensIn_boundedRequest : ChatRequest.TokensIn boundedRequest := by
  have hmessages : IsJson (Utf8.bytes "[[\"user\",\"hi\"]]") :=
    (Json.spelled_value (v := .array [.array [.text "user", .text "hi"]])
      (by simp [Value.IsWhole])).isJson
  have hname := Json.spelledText_writtenChars "messages"
  exact .member (List.forall_mem_singleton.mpr ⟨hname.isLooseText, hmessages⟩)
    (List.forall_mem_nil _) (Json.spelledText_writtenChars "max_tokens") Json.isGap_nil

/-- A list with one item. -/
def singleton (text : List UInt8) : List UInt8 := Json.itemsText [.bare text] []

theorem valueGrammar_singleton {text : List UInt8} {t : Tree} (h : Json.ValueGrammar text t) :
    Json.ValueGrammar (singleton text) (.array [t]) :=
  @Json.ValueGrammar.array [(.bare text, t)] [] Json.isGap_nil (List.forall_mem_singleton.mpr h)

/-- The greatest integer of 64 bits. -/
def greatest : Int := 18446744073709551615

/-- A reply, written as a list, with that integer in its usage. -/
def greatestReply : List UInt8 :=
  Json.itemsText [.bare (singleton (singleton (singleton (Utf8.bytes "\"hi\"")))),
    .bare (singleton (Utf8.bytes (toString greatest)))] []

/-- What is seen in it. -/
def greatestTree : Tree :=
  .array [.array [.array [.array [.text "hi"]]], .array [.number (Utf8.bytes (toString greatest))]]

theorem body_greatestReply : Completion.Reply.grammar.Body greatestReply greatestTree := by
  have htext : Json.ValueGrammar (Utf8.bytes "\"hi\"") (.text "hi") :=
    .text (Json.spelledText_writtenChars "hi")
  have hchoice := valueGrammar_singleton (valueGrammar_singleton htext)
  have hchoices := @Json.ListGrammar.items Json.ValueGrammar
    [(.bare (singleton (singleton (Utf8.bytes "\"hi\""))), _)] [] Json.isGap_nil
    (List.forall_mem_singleton.mpr hchoice)
  have husage := valueGrammar_singleton (.number (Json.isLiteral_int greatest))
  have hreply := @Json.RecordGrammar.list Completion.Reply.fields [(.bare _, _), (.bare _, _)] []
    Json.isGap_nil (.cons hchoices (.cons husage (.nil _)))
  exact ⟨.bare greatestReply, hreply, by simp [Json.Padded.bare, Json.Padded.bytes]⟩

theorem lower_greatest : -9223372036854775808 ≤ greatest := by decide

theorem upper_greatest : greatest < 18446744073709551616 := by decide

/-- What it is answered with. -/
def greatestResponse : ChatResponse where
  choices := [.array [.array [.text "hi"]]]
  usage := some (.array [.number (.whole ⟨greatest, lower_greatest, upper_greatest⟩)])
  model := none
  created := none
  response := "hi"

/-- The greatest bound and one more, a float, and the greatest integer in a reply. -/
theorem integers_kept_limits :
    ChatRequest.TokensIn boundedRequest ∧ IsJson (Utf8.bytes "0") ∧
      ChatRequest.decode (boundedRequest (Utf8.bytes "0")) =
        .ok { messages := [⟨"user", "hi"⟩], maxTokens := 0 } ∧
      (∃ r, ChatRequest.decode (boundedRequest (Utf8.bytes (toString (2 ^ 63 - 1 : Int)))) =
        .ok r) ∧
      (¬ ∃ r, ChatRequest.decode (boundedRequest (Utf8.bytes (toString (2 ^ 63 : Int)))) = .ok r) ∧
      IsFloatLiteral (Utf8.bytes "1e2") ∧
      (∃ e, ChatRequest.decode (boundedRequest (Utf8.bytes "1e2")) = .error e) ∧
    answer (.ok greatestReply) = .ok greatestResponse ∧
      Completion.Reply.grammar.Body greatestReply greatestTree ∧
      Carries greatestResponse.toJson [.name "usage", .index 0] greatest := by
  have hjson : IsJson (Utf8.bytes "0") := .number (Json.isLiteral_nat 0)
  have hdecode : ChatRequest.decode (boundedRequest (Utf8.bytes "0")) =
      .ok { messages := [⟨"user", "hi"⟩], maxTokens := 0 } := by rfl
  have hexponent : Json.IsExponent (0x65 :: [2].map Utf8.digitByte) :=
    Or.inr ⟨0x65, [], _, rfl, Or.inl rfl,
      Json.isDigits_map (List.cons_ne_nil 2 []) (by decide), rfl⟩
  have hfloat : IsFloatLiteral (Utf8.bytes "1e2") :=
    .parts false (@Json.isWholePart_map 1 [] (by decide) fun _ => rfl) (Or.inl rfl)
      hexponent (Or.inr (List.cons_ne_nil _ _))
  have hanswer : answer (.ok greatestReply) = .ok greatestResponse := by rfl
  obtain ⟨hrequests, hreplies⟩ := integers_kept
  obtain ⟨hintegers, hfloats⟩ := hrequests boundedRequest tokensIn_boundedRequest
  have hfits := hintegers _ _ hjson hdecode
  obtain ⟨-, hparts⟩ := hreplies _ _ hanswer
  obtain ⟨parts, hseen, hcarries⟩ := hparts _ body_greatestReply
  obtain rfl := Option.some.inj hseen
  exact ⟨tokensIn_boundedRequest, hjson, hdecode, (hfits _).1.mpr (by decide),
    fun h => absurd ((hfits _).1.mp h) (by decide), hfloat, hfloats _ hfloat, hanswer,
    body_greatestReply, hcarries _ _ (by decide) (by decide) rfl⟩

end Relay

end ChatGateway
