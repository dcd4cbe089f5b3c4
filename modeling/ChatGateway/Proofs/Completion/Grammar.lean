import ChatGateway.Proofs.Completion.Reply
import ChatGateway.Proofs.Json.Forms
import ChatGateway.Proofs.Json.Taken.Value

/-!
# What is seen in a reply

A reply is looked for in a body: a list of choices, and up to three values beside it.  Every
body that is decoded as a reply is a body of `Reply.grammar`, and it is decoded to the reply
of the parts that are seen there (`Reply.follows`).
-/

namespace ChatGateway.Completion.Reply

open Json (Grammar ListGrammar RecordGrammar ValueGrammar Follows FollowsAll FieldsOfJson)

/-- The fields of a reply, with the texts that they are read from. -/
def fields : List (String × Grammar) := [
  ("choices", ListGrammar ValueGrammar), ("usage", ValueGrammar), ("model", ValueGrammar),
  ("created", ValueGrammar)]

/-- The texts of replies. -/
def grammar : Grammar := RecordGrammar fields

theorem followsAll : FollowsAll layout.slots fields :=
  .cons ⟨rfl, Json.follows_list (Json.follows_value _)⟩ <|
    .cons ⟨rfl, Json.follows_nullable_value _⟩ <| .cons ⟨rfl, Json.follows_nullable_value _⟩ <|
      .cons ⟨rfl, Json.follows_nullable_value _⟩ .nil

/-- A reply is read from its parts, and from no other text. -/
theorem follows : Follows reader grammar fun t => (parts? t).bind Parts.reply? := by
  have hgiven : ∀ s ∈ layout.slots, ∀ draft c, s.given (s.put draft c) = true := by
    simp only [layout, slots, List.mem_cons, List.not_mem_nil, or_false]
    rintro s (rfl | rfl | rfl | rfl) draft c <;> rfl
  have h := Json.follows_record layout followsAll hgiven
  rwa [funext ofTree?_eq] at h

theorem fieldsOfJson : FieldsOfJson fields := by
  have hvalue : Grammar.OfJson ValueGrammar := fun _ _ h => h.spelled.isJson
  simpa [FieldsOfJson, fields] using ⟨Json.ofJson_list hvalue, hvalue⟩

end ChatGateway.Completion.Reply
