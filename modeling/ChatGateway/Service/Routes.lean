import ChatGateway.Relay
import ChatGateway.RequestTarget
import ChatGateway.Service.Intake

/-!
# What clients can ask for

`POST /chat` relays a request to the model server, `GET /health` says that the
gateway is there, and everything else is not found.
-/

namespace ChatGateway.Service

/-- What a request is answered with. -/
structure HttpAnswer where
  status : Nat
  contentType : Option String
  body : String
deriving DecidableEq, Repr

/-- What serving a request comes to. -/
structure Served where
  answer : HttpAnswer
  calls : List Exchange.Call := []
  log : List Log.Entry := []

namespace HttpAnswer

/-- An answer in JSON. -/
def json (status : Nat) (body : String) : HttpAnswer := ⟨status, some "application/json", body⟩

/-- The answer to a request for something unknown. -/
def notFound : HttpAnswer := ⟨404, none, ""⟩

/-- The answer that says that the gateway is there. -/
def healthy : HttpAnswer := json 200 (Json.Writer.object [("status", Json.Writer.text "ok")])

/-- The answer for a failure. -/
def ofFailure (failure : Failure) : HttpAnswer := json failure.status failure.body

/-- The answer for what relaying a request came to. -/
def ofResult : Except Failure ChatResponse → HttpAnswer
  | .ok response => json 200 response.toJson
  | .error failure => ofFailure failure

end HttpAnswer

/-! ## Addresses -/

/-- What a request asks for. -/
inductive Route where
  | chat
  | health
deriving DecidableEq, Repr

/-- Bytes that stay percent-encoded in a path. -/
def staysEncoded (b : UInt8) : Bool := b == 0x25 || b == 0x2F || b == 0x2B

/-- The bytes of a path with the percent encoding undone, except where it hides a
percent sign, a slash or a plus sign. -/
def decodePath : List UInt8 → List UInt8
  | 0x25 :: high :: low :: rest =>
    match Ascii.hexDigit? high, Ascii.hexDigit? low with
    | some h, some l =>
      let b := (h * 16 + l).toUInt8
      if staysEncoded b then 0x25 :: decodePath (high :: low :: rest) else b :: decodePath rest
    | _, _ => 0x25 :: decodePath (high :: low :: rest)
  | b :: bytes => b :: decodePath bytes
  | [] => []

/-- The route of a request. -/
def HttpRequest.route? (r : HttpRequest) : Option Route :=
  let path := decodePath (Utf8.bytes (String.ofList (RequestTarget.pathOf r.target)))
  if path = Utf8.bytes "/chat" && r.method == "POST" then some .chat
  else if path = Utf8.bytes "/health" && r.method == "GET" then some .health
  else none

/-! ## Answers -/

/-- Serves a request for a chat. -/
def serveChat (server : ModelServer) (replies : List Exchange.Reply) (r : HttpRequest) : Served :=
  match r.chatRequest with
  | .error fault => { answer := .ofFailure fault.toFailure }
  | .ok request =>
    let outcome := Relay.handle server replies request
    ⟨.ofResult outcome.result, outcome.calls, outcome.log⟩

/-- Serves a request. -/
def serve (server : ModelServer) (replies : List Exchange.Reply) (r : HttpRequest) : Served :=
  match r.route? with
  | some .chat => serveChat server replies r
  | some .health => { answer := .healthy }
  | none => { answer := .notFound }

end ChatGateway.Service
