import ChatGateway.Relay
import ChatGateway.Proofs.Chat.Reports

/-!
# The gate before the model server

Nothing leaves the gateway for a body that does not decode as a request, or that
decodes as one that breaks a rule.  What such a body is answered with is settled
before the model server comes into play, so it depends on the body alone: not on
the network, the address, the time allowed or the replies.
-/

namespace ChatGateway.Relay

open Exchange (Call Reply)

/-- The calls that are made for a body; for one that does not decode there are
none. -/
def callsOf : Except Json.DecodeError Outcome → List Call
  | .error _ => []
  | .ok outcome => outcome.calls

/-- A body that may be sent on: it decodes as a request that breaks no rule. -/
def Passes (body : List UInt8) : Prop :=
  ∃ r, ChatRequest.decode body = .ok r ∧ r.Admissible

/-! ## Relaying a request -/

/-- The exchange that a request is sent on with. -/
def exchangeOf (server : ModelServer) (replies : List Reply) (r : ChatRequest) :
    Exchange.Outcome :=
  Exchange.post server.network server.timeout server.url (Completion.Payload.ofRequest r).toJson
    replies

theorem handle_of_not_admissible {r : ChatRequest} (h : ¬ r.Admissible) (server : ModelServer)
    (replies : List Reply) :
    handle server replies r =
      ⟨.error (.invalid r.reports), [], [rejected (.invalid r.reports)]⟩ := by
  rw [handle, ChatRequest.check_of_not_admissible h]

theorem handle_of_admissible {r : ChatRequest} (h : r.Admissible) (server : ModelServer)
    (replies : List Reply) :
    handle server replies r =
      ⟨answer (exchangeOf server replies r).result, (exchangeOf server replies r).calls,
        [forwarding (Completion.Payload.ofRequest r),
          finished (answer (exchangeOf server replies r).result)]⟩ := by
  rw [handle, ChatRequest.check_of_admissible h]
  rfl

/-! ## Relaying a body -/

theorem handleBody_of_decode_error {body : List UInt8} {e : Json.DecodeError}
    (h : ChatRequest.decode body = .error e) (server : ModelServer) (replies : List Reply) :
    handleBody server replies body = .error e := by
  rw [handleBody, h]

theorem handleBody_of_decode_ok {body : List UInt8} {r : ChatRequest}
    (h : ChatRequest.decode body = .ok r) (server : ModelServer) (replies : List Reply) :
    handleBody server replies body = .ok (handle server replies r) := by
  rw [handleBody, h]

/-- What a body is answered with that does not pass: its decode error, or the
failure of the check with the entry that goes with it, and no calls. -/
inductive TurnedDown (body : List UInt8) : Except Json.DecodeError Outcome → Prop where
  | undecodable {e : Json.DecodeError} (h : ChatRequest.decode body = .error e) :
      TurnedDown body (.error e)
  | invalid {r : ChatRequest} {fields : List FieldError}
      (h : ChatRequest.decode body = .ok r) (hcheck : r.check = .error (.invalid fields)) :
      TurnedDown body (.ok ⟨.error (.invalid fields), [], [rejected (.invalid fields)]⟩)

theorem TurnedDown.callsOf_eq_nil {body : List UInt8} {answer : Except Json.DecodeError Outcome}
    (h : TurnedDown body answer) : callsOf answer = [] := by
  cases h with
  | undecodable => rfl
  | invalid => rfl

theorem exists_turnedDown {body : List UInt8} (h : ¬ Passes body) :
    ∃ answer, TurnedDown body answer ∧
      ∀ server replies, handleBody server replies body = answer := by
  cases hdecode : ChatRequest.decode body with
  | error e => exact ⟨_, .undecodable hdecode, handleBody_of_decode_error hdecode⟩
  | ok r =>
      have hbad : ¬ r.Admissible := fun hr => h ⟨r, hdecode, hr⟩
      refine ⟨_, .invalid hdecode (ChatRequest.check_of_not_admissible hbad), ?_⟩
      intro server replies
      rw [handleBody_of_decode_ok hdecode, handle_of_not_admissible hbad]

/-- **The gate.**  A body for which a call is made decodes as a request that breaks
no rule.  Any other body makes no call and has one answer, whatever the server and
its replies: the decode error, or the failure of the check.  A body that passes is
sent on: its calls are those of the exchange. -/
theorem gate (body : List UInt8) :
    (∀ server replies, callsOf (handleBody server replies body) ≠ [] → Passes body) ∧
      (¬ Passes body → ∃ answer, TurnedDown body answer ∧ callsOf answer = [] ∧
        ∀ server replies, handleBody server replies body = answer) ∧
      (∀ r, ChatRequest.decode body = .ok r → r.Admissible → ∀ server replies,
        callsOf (handleBody server replies body) = (exchangeOf server replies r).calls) := by
  refine ⟨fun server replies hcalls => ?_, fun h => ?_, fun r hdecode hr server replies => ?_⟩
  · by_contra h
    obtain ⟨answer, hdown, hsame⟩ := exists_turnedDown h
    rw [hsame server replies] at hcalls
    exact hcalls hdown.callsOf_eq_nil
  · obtain ⟨answer, hdown, hsame⟩ := exists_turnedDown h
    exact ⟨answer, hdown, hdown.callsOf_eq_nil, hsame⟩
  · rw [handleBody_of_decode_ok hdecode, handle_of_admissible hr]
    rfl

/-- A model server that can be called: the one that samples are sent to. -/
def reachableServer : ModelServer where
  network := .online
  url := {
    scheme := "http"
    authority := some { host := .name "llm.test" }
    path := .segments ["v1", "chat", "completions"] }

end ChatGateway.Relay
