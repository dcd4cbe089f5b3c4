import ChatGateway.Proofs.Exchange.Calls
import ChatGateway.Proofs.Json.Skipped
import ChatGateway.Proofs.Json.Written
import ChatGateway.Proofs.Relay.Gate

/-!
# What the model server is sent

The body for a request holds the whole request.  It is written in another order than a
request and has a member more, so that it is not the text of the request; but read as
a request it gives that request again.
-/

namespace ChatGateway

open Json Json.Reader

/-! ## Messages -/

namespace Message

/-- A message as a free-form value. -/
def toValue (m : Message) : Value :=
  .ofMembers [("role", .text m.role), ("content", .text m.content)]

/-- A message as it is written, with the role first. -/
def asWritten (m : Message) : Value := .object [("role", .text m.role), ("content", .text m.content)]

/-- The members of a written message. -/
def writtenMembers (m : Message) : List (String × List UInt8) := [
  ("role", Utf8.bytes (Writer.text m.role)),
  ("content", Utf8.bytes (Writer.text m.content))]

theorem bytes_toJson (m : Message) :
    Utf8.bytes m.toJson = objectText (m.writtenMembers.map fun m => memberText m.1 m.2) := by
  rw [toJson, bytes_object]
  rfl

theorem fills (m : Message) :
    Fills record record.empty m.writtenMembers ⟨some m.role, some m.content⟩ :=
  .cons (reads_memberValue rfl rfl ((reads_string m.role).map _)) <|
    .cons (reads_memberValue rfl rfl ((reads_string m.content).map _)) .nil

/-- A written message is read back. -/
theorem reads_toJson (m : Message) : Reads reader (Utf8.bytes m.toJson) m := by
  rw [bytes_toJson]
  exact reads_record m.fills rfl

theorem opens_toJson (m : Message) : Opens (Utf8.bytes m.toJson) := by
  rw [bytes_toJson]
  exact opens_cons (by decide) (by decide)

end Message

namespace Completion.Payload

/-- The members of the body for a request. -/
def writtenMembers (r : ChatRequest) : List (String × List UInt8) := [
  ("model", Utf8.bytes (Writer.text r.model)),
  ("messages", listText (r.messages.map fun m => Utf8.bytes m.toJson)),
  ("temperature", Utf8.bytes (Writer.float r.temperature)),
  ("max_tokens", Utf8.bytes (toString r.maxTokens.toInt)),
  ("stream", Utf8.bytes (Writer.value (.bool false)))]

theorem bytes_toJson (r : ChatRequest) :
    Utf8.bytes (ofRequest r).toJson =
      objectText ((writtenMembers r).map fun m => memberText m.1 m.2) := by
  rw [toJson, bytes_object]
  simp [ofRequest, bytes_array, writtenMembers, Function.comp_def]

theorem reads_messages (messages : List Message) :
    Reads (Reader.list Message.reader) (listText (messages.map fun m => Utf8.bytes m.toJson))
      messages := by
  have hread := reads_list fun m (_ : m ∈ messages) => ⟨m.opens_toJson, m.reads_toJson⟩
  rwa [List.map_id'] at hread

theorem reads_value_messages (depth : Nat) (messages : List Message) :
    Reads (value (depth + 1 + 1)) (listText (messages.map fun m => Utf8.bytes m.toJson))
      (.array (messages.map Message.toValue)) := by
  have hdistinct : (Value.array (messages.map Message.asWritten)).Distinct := by
    simp [Value.Distinct, Message.asWritten]
  have hwhole : (Value.array (messages.map Message.asWritten)).IsWhole := by
    simp [Value.IsWhole, Message.asWritten]
  have hdepth : (Value.array (messages.map Message.asWritten)).Within (depth + 1 + 1) := by
    simp [Message.asWritten]
  have hread := reads_value hdistinct hwhole hdepth
  rw [Writer.value, values_eq_map, bytes_array, Value.inOrder_array] at hread
  simp only [List.map_map] at hread
  exact hread

theorem fills {r : ChatRequest} {n : Number}
    (htemperature : SpellsNumber (Utf8.bytes (Writer.float r.temperature)) n)
    (hfloat : n.toFloat = r.temperature) :
    Fills ChatRequest.record ChatRequest.record.empty (writtenMembers r)
      ⟨some r.messages, some r.model, some r.temperature, some r.maxTokens⟩ := by
  refine .cons (reads_memberValue rfl rfl ((reads_string r.model).map _)) ?_
  refine .cons (reads_memberValue rfl rfl ((reads_messages r.messages).map _)) ?_
  refine .cons (reads_memberValue rfl rfl ((reads_float htemperature).map _)) ?_
  refine .cons (reads_memberValue rfl rfl ((reads_int64 r.maxTokens).map _)) ?_
  -- a request has no such member
  refine .cons (reads_memberValue_skipped rfl (reads_skipValue (.bool false)) _) ?_
  rw [hfloat]
  exact .nil

/-- The members of the body as free-form values, where the temperature is written as the
number `n`. -/
def toMembers (r : ChatRequest) (n : Number) : List (String × Value) := [
  ("model", .text r.model),
  ("messages", .array (r.messages.map Message.toValue)),
  ("temperature", .number n),
  ("max_tokens", .number (.whole (.ofInt64 r.maxTokens))),
  ("stream", .bool false)]

theorem reads_members {r : ChatRequest} {n : Number}
    (htemperature : SpellsNumber (Utf8.bytes (Writer.float r.temperature)) n) :
    Reads members (Utf8.bytes (ofRequest r).toJson) (toMembers r n) := by
  have hmembers : ∀ p ∈ [
      (Utf8.bytes (Writer.text r.model), "model", Value.text r.model),
      (listText (r.messages.map fun m => Utf8.bytes m.toJson), "messages",
        Value.array (r.messages.map Message.toValue)),
      (Utf8.bytes (Writer.float r.temperature), "temperature", Value.number n),
      (Utf8.bytes (toString r.maxTokens.toInt), "max_tokens",
        Value.number (.whole (.ofInt64 r.maxTokens))),
      (Utf8.bytes (Writer.value (.bool false)), "stream", Value.bool false)],
      Reads (value (maxDepth - 1)) p.1 p.2.2 := by
    have hmessages : Reads (value (maxDepth - 1)) _ _ := reads_value_messages 124 r.messages
    have htokens := reads_value_number (spellsNumber_whole (.ofInt64 r.maxTokens)) (maxDepth - 1)
    have hmodel := @reads_value (maxDepth - 1) (.text r.model) (.text _) (.text _) (.text _)
    have hstream := @reads_value (maxDepth - 1) (.bool false) (.bool _) (.bool _) (.bool _)
    simp only [List.forall_mem_cons, List.not_mem_nil, false_implies, implies_true, and_true]
    exact ⟨hmodel, hmessages, reads_value_number htemperature _, htokens, hstream⟩
  rw [bytes_toJson]
  exact Json.reads_members hmembers

/-! ## Forwarding -/

/-- **What is forwarded is the request.**  Let the written temperature be read back as
the float that it was.  Then the body for a request, read as a request, is that request
again; it is an object with five members, each there once, and `stream` is false; and
every post that the request leads to carries this body. -/
theorem forwards_request (r : ChatRequest)
    (htemperature : float (Utf8.bytes (Writer.float r.temperature)) = .ok (r.temperature, [])) :
    ChatRequest.decode (Utf8.bytes (ofRequest r).toJson) = .ok r ∧
      (∃ n : Number, n.toFloat = r.temperature ∧
        Json.decode members (Utf8.bytes (ofRequest r).toJson) = .ok (toMembers r n)) ∧
      ∀ (server : ModelServer) (replies : List Exchange.Reply),
        ∀ call ∈ (Relay.handle server replies r).calls, call.method = .post →
          call.body = (ofRequest r).toJson := by
  obtain ⟨n, hspells, hfloat⟩ := exists_spellsNumber_of_float htemperature
  refine ⟨?_, ⟨n, hfloat, (reads_members hspells).decode⟩, ?_⟩
  · refine Reads.decode ?_
    rw [bytes_toJson]
    exact reads_record (fills hspells hfloat) rfl
  · intro server replies call hcall hpost
    by_cases hr : r.Admissible
    · rw [Relay.handle_of_admissible hr] at hcall
      exact Exchange.body_of_mem_post_calls hcall hpost
    · rw [Relay.handle_of_not_admissible hr] at hcall
      contradiction

/-- A temperature of `0.7` is read back, and the message holds what has to be escaped. -/
theorem forwards_request_escaped :
    let r : ChatRequest := {
      messages := [⟨"user", "\"C:\\dir\"\n\x01\t😀"⟩]
      temperature := 0.7
      maxTokens := -9223372036854775808 }
    float (Utf8.bytes (Writer.float r.temperature)) = .ok (r.temperature, []) ∧
      ChatRequest.decode (Utf8.bytes (ofRequest r).toJson) = .ok r := by
  intro r
  have hread : (float (Utf8.bytes (Writer.float r.temperature))).toOption =
      some (r.temperature, []) := by decide +kernel
  have htemperature : float (Utf8.bytes (Writer.float r.temperature)) =
      .ok (r.temperature, []) := by
    generalize float (Utf8.bytes (Writer.float r.temperature)) = read at hread ⊢
    cases read with
    | error fault => simp [Except.toOption] at hread
    | ok read => simpa [Except.toOption] using hread
  exact ⟨htemperature, (forwards_request r htemperature).1⟩

end Completion.Payload

end ChatGateway
