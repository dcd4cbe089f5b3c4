import ChatGateway.Chat.Check
import ChatGateway.Completion.Payload
import ChatGateway.Completion.Reply
import ChatGateway.Exchange
import ChatGateway.Log

/-!
# Relaying a request

A request is checked, sent to the model server, and answered from its reply.  A
request that breaks a rule is never sent.  The log has one entry for a request
that is turned down, and two for one that is sent: that it was, and how it went.
-/

namespace ChatGateway

/-- The model server, as the gateway sees it. -/
structure ModelServer where
  network : Exchange.Network
  url : Url
  /-- How many milliseconds an exchange may take. -/
  timeout : Nat := 60000

namespace Relay

/-- What relaying a request comes to. -/
structure Outcome where
  result : Except Failure ChatResponse
  calls : List Exchange.Call
  log : List Log.Entry

/-- The entry for a request that is turned down. -/
def rejected (failure : Failure) : Log.Entry :=
  ⟨.warn, .relay, "Rejected chat request: " ++ failure.message⟩

/-- The entry for a request that is sent. -/
def forwarding (payload : Completion.Payload) : Log.Entry :=
  ⟨.info, .relay, "Forwarding " ++ toString payload.messages.length ++
    " message(s) to upstream (model: " ++ payload.model ++ ", max_tokens: " ++
    toString payload.maxTokens.toInt ++ ")"⟩

/-- The entry for how a request that was sent went. -/
def finished : Except Failure ChatResponse → Log.Entry
  | .ok response =>
    ⟨.info, .relay, "Response length: " ++ toString response.response.length ++ " characters"⟩
  | .error failure => ⟨.error, .relay, "Upstream error: " ++ failure.message⟩

/-- The response for what an exchange came to. -/
def answer (result : Except Exchange.Error (List UInt8)) : Except Failure ChatResponse :=
  match result with
  | .error error => .error (.unanswered error.message)
  | .ok body =>
    match Completion.Reply.decode body with
    | .error failure => .error failure
    | .ok reply => reply.normalize

/-- Relays a request to the model server. -/
def handle (server : ModelServer) (replies : List Exchange.Reply) (request : ChatRequest) :
    Outcome :=
  match request.check with
  | .error failure => ⟨.error failure, [], [rejected failure]⟩
  | .ok _ =>
    let payload := Completion.Payload.ofRequest request
    let exchange := Exchange.post server.network server.timeout server.url payload.toJson replies
    let result := answer exchange.result
    ⟨result, exchange.calls, [forwarding payload, finished result]⟩

/-- Relays a body: one that does not decode as a request is not sent. -/
def handleBody (server : ModelServer) (replies : List Exchange.Reply) (body : List UInt8) :
    Except Json.DecodeError Outcome :=
  match ChatRequest.decode body with
  | .error e => .error e
  | .ok request => .ok (handle server replies request)

end Relay

end ChatGateway
