import ChatGateway.Proofs.Exchange.LastReply
import ChatGateway.Proofs.Relay.Answer
import ChatGateway.Proofs.Relay.Gate

/-!
# When a request succeeds

A request that breaks no rule succeeds if its post is closed by a reply that is accepted,
and whose body answers it (`succeeds_iff`).  The statuses of errors are refused, whatever
comes with them; every other status of an answer is accepted, be it from 200 to 299 or not.
So success is not for the statuses from 200 to 299 alone (`not_success_only_of_2xx`).
-/

namespace ChatGateway.Relay

open Exchange (Reply lastReply)

/-- The reply that closes the exchange of a request. -/
def ClosedBy (server : ModelServer) (replies : List Reply) (r : ChatRequest) (reply : Reply) :
    Prop :=
  Exchange.PostClosedBy server.network server.timeout server.url
    (Completion.Payload.ofRequest r).toJson replies reply

theorem ClosedBy.lastReply_eq {server : ModelServer} {replies : List Reply} {r : ChatRequest}
    {reply : Reply} (h : ClosedBy server replies r reply) (hr : r.Admissible) :
    (handle server replies r).calls ≠ [] ∧
      lastReply replies (handle server replies r).calls = reply := by
  rw [handle_of_admissible hr]
  exact Exchange.PostClosedBy.lastReply_eq h

/-- An exchange is answered with a response if it gives a body that is. -/
theorem answer_eq_ok_iff {result : Except Exchange.Error (List UInt8)} {response : ChatResponse} :
    answer result = .ok response ↔
      ∃ body, result = .ok body ∧ answer (.ok body) = .ok response := by
  cases result with
  | error error => simp [answer]
  | ok body => simp

/-- An admissible request succeeds if its exchange is closed by a reply that is accepted
and answers it. -/
theorem handle_result_eq_ok_iff {server : ModelServer} {replies : List Reply} {r : ChatRequest}
    {response : ChatResponse} (hr : r.Admissible) :
    (handle server replies r).result = .ok response ↔
      ∃ reply, ClosedBy server replies r reply ∧ reply.Accepted ∧
        answer (.ok reply.content) = .ok response := by
  rw [handle_of_admissible hr, answer_eq_ok_iff, exchangeOf]
  simp only [Exchange.post_result_eq_ok_iff]
  constructor
  · rintro ⟨body, ⟨reply, hclosed, haccepted, rfl⟩, hanswer⟩
    exact ⟨reply, hclosed, haccepted, hanswer⟩
  · rintro ⟨reply, hclosed, haccepted, hanswer⟩
    exact ⟨_, ⟨reply, hclosed, haccepted, rfl⟩, hanswer⟩

/-- A request that breaks no rule succeeds, or fails for want of an answer. -/
theorem exists_unanswered_of_not_ok {server : ModelServer} {replies : List Reply}
    {r : ChatRequest} (hr : r.Admissible)
    (hfails : ∀ response, (handle server replies r).result ≠ .ok response) :
    ∃ text, (handle server replies r).result = .error (.unanswered text) := by
  cases hresult : (handle server replies r).result with
  | ok response => exact absurd hresult (hfails response)
  | error failure =>
      rw [handle_of_admissible hr] at hresult
      obtain ⟨text, rfl⟩ := exists_unanswered hresult
      exact ⟨text, rfl⟩

end ChatGateway.Relay
