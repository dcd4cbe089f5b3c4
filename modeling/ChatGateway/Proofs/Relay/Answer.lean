import ChatGateway.Proofs.Completion.Reply
import ChatGateway.Proofs.Json.Written
import ChatGateway.Proofs.Relay.Refusals

/-!
# What a reply is answered with

The response for a reply is made from what the reply says.  A body is read as its tree
(`toOption_answer`), so two bodies of one tree are answered alike (`answer_congr`): it
does not matter which blanks stand in them, in which order the members of their objects
come, at the top or inside, and how the characters of their texts and names are written.
-/

namespace ChatGateway.Relay

open Json (Tree Value Spelled SpelledBody SpelledText SpelledMember Padded)
open Completion (Reply)

/-! ## Answers -/

/-- **A body is answered by what its tree says.** -/
theorem toOption_answer {body : List UInt8} {t : Tree} (hbody : SpelledBody body t)
    (hdistinct : t.Distinct) :
    (answer (.ok body)).toOption =
      ((Reply.parts? t).bind Reply.Parts.reply?).bind fun reply => reply.normalize.toOption := by
  have hdecode : (Json.decode Reply.reader body).toOption = _ :=
    Reply.understands.decode hbody hdistinct
  rw [← hdecode, answer, Reply.decode]
  cases Json.decode Reply.reader body <;> rfl

/-- **How a reply is spelled does not matter.**  Two bodies of one tree, in which no
object has a name twice, are both refused, or both answered with the same response. -/
theorem answer_congr {t : Tree} (hdistinct : t.Distinct) {body body' : List UInt8}
    (hbody : SpelledBody body t) (hbody' : SpelledBody body' t) :
    (∃ text text', answer (.ok body) = .error (.unanswered text) ∧
        answer (.ok body') = .error (.unanswered text')) ∨
      ∃ response, answer (.ok body) = .ok response ∧ answer (.ok body') = .ok response := by
  have hsame : (answer (.ok body)).toOption = (answer (.ok body')).toOption :=
    (toOption_answer hbody hdistinct).trans (toOption_answer hbody' hdistinct).symm
  cases h : answer (.ok body) with
  | error failure =>
      rw [h] at hsame
      obtain ⟨failure', h'⟩ := Json.Reader.toOption_eq_none_iff.mp hsame.symm
      obtain ⟨text, rfl⟩ := exists_unanswered h
      obtain ⟨text', rfl⟩ := exists_unanswered h'
      exact Or.inl ⟨text, text', rfl, h'⟩
  | ok response =>
      rw [h] at hsame
      exact Or.inr ⟨response, rfl, Json.Reader.toOption_eq_some_iff.mp hsame.symm⟩

/-- A reply without blanks. -/
def plainReply : List UInt8 := Utf8.bytes
  "\x7b\"choices\":[\x7b\"message\":\x7b\"content\":\"/\"\x7d\x7d],\"model\":null\x7d"

/-- The same reply, with its members in another order, with blanks, and with an escape. -/
def respelledReply : List UInt8 := Utf8.bytes
  " \x7b\"model\" :null,\n\"choices\":[\x7b\"message\":\x7b\"content\":\"\\u002f\"\x7d\x7d]\x7d"

/-- What both say. -/
def sampleReply : Value := .object [
  ("choices", .array [.object [("message", .object [("content", .text "/")])]]), ("model", .null)]

theorem spelledBody_plainReply : SpelledBody plainReply (Tree.ofValue sampleReply) := by
  have hwhole : sampleReply.IsWhole := by simp [sampleReply, Value.IsWhole]
  exact ⟨.bare (Utf8.bytes (Json.Writer.value sampleReply)), Json.spelled_value hwhole, by decide⟩

/-- The choices of the sample with the escape in them. -/
def respelledChoices : String := Json.Writer.array [
  Json.Writer.object [("message", Json.Writer.object [("content", "\"\\u002f\"")])]]

theorem spelled_respelledChoices : Spelled (Utf8.bytes respelledChoices)
    (.array [.object [("message", .object [("content", .text "/")])]]) := by
  have hslash := Json.spelledChar_hex (show '/'.toNat < 0x100 by decide)
  have hbytes : Utf8.bytes "\"\\u002f\"" = Json.quote :: (Utf8.bytes ("\\u00" ++
      String.ofList [Nat.digitChar ('/'.toNat / 16), Nat.digitChar ('/'.toNat % 16)]) ++
        [Json.quote]) := by decide
  have hsingle : String.singleton '/' = "/" := by decide
  have hcontent : Spelled (Utf8.bytes "\"\\u002f\"") (.text "/") := by
    rw [hbytes, ← hsingle]
    exact Spelled.text hslash.spelledText
  have hmessage := @Json.spelled_object Unit (fun _ => "content") _ _ [()] fun _ _ => hcontent
  have hchoice := @Json.spelled_object Unit (fun _ => "message") _ _ [()] fun _ _ => hmessage
  have hchoices := @Json.spelled_array Unit _ _ [()] fun _ _ => hchoice
  simp only [List.map_cons, List.map_nil] at hchoices
  exact hchoices

theorem spelledBody_respelledReply : SpelledBody respelledReply (Tree.ofValue sampleReply) := by
  have hblank : Json.IsGap [0x20] := by simp [Json.IsGap, Json.isBlank]
  have hbreak : Json.IsGap [0x0A] := by simp [Json.IsGap, Json.isBlank]
  let model : SpelledMember := {
    key := { text := Json.writtenChars "model", after := [0x20], after_isGap := hblank }
    name := "model"
    value := .bare (Utf8.bytes "null")
    tree := .null }
  let choices : SpelledMember := {
    key := { before := [0x0A], text := Json.writtenChars "choices", before_isGap := hbreak }
    name := "choices"
    value := .bare (Utf8.bytes respelledChoices)
    tree := .array [.object [("message", .object [("content", .text "/")])]] }
  have hnames : ∀ m ∈ [model, choices], SpelledText m.key.text m.name := by
    simpa using ⟨Json.spelledText_writtenChars "model", Json.spelledText_writtenChars "choices"⟩
  have hvalues : ∀ m ∈ [model, choices], Spelled m.value.text m.tree := by
    simpa using ⟨Spelled.null, spelled_respelledChoices⟩
  have hreply := Spelled.object Json.isGap_nil hnames hvalues (List.Perm.swap _ _ _)
  exact ⟨{ before := [0x20], text := _, before_isGap := hblank }, hreply, by rfl⟩

theorem answer_respelled :
    SpelledBody plainReply (Tree.ofValue sampleReply) ∧
      SpelledBody respelledReply (Tree.ofValue sampleReply) ∧
      (Tree.ofValue sampleReply).Distinct ∧
      ∃ response, answer (.ok plainReply) = .ok response ∧
        answer (.ok respelledReply) = .ok response := by
  have hdistinct : (Tree.ofValue sampleReply).Distinct :=
    Tree.distinct_ofValue (by simp [sampleReply, Value.Distinct])
  refine ⟨spelledBody_plainReply, spelledBody_respelledReply, hdistinct, ?_⟩
  rcases answer_congr hdistinct spelledBody_plainReply spelledBody_respelledReply with
    ⟨text, -, h, -⟩ | h
  · have hanswered : (answer (.ok plainReply)).toOption.isSome := by decide +kernel
    rw [h] at hanswered
    contradiction
  · exact h

end ChatGateway.Relay
