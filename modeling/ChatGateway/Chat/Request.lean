import ChatGateway.Chat.Message

/-!
# Chat requests

What a client asks for: the conversation so far, and how it is to be continued.
All but the messages may be left out and then has a default; `null` does not
stand for a default.
-/

namespace ChatGateway

/-- A request to continue a conversation. -/
structure ChatRequest where
  messages : List Message
  model : String := "mistral-7b-instruct-v0.3"
  temperature : Float := 0.7
  maxTokens : Int64 := 500

namespace ChatRequest

/-- A request that is being read. -/
structure Draft where
  messages : Option (List Message) := none
  model : Option String := none
  temperature : Option Float := none
  maxTokens : Option Int64 := none

/-- A request as it is read: with the given messages, and defaults for what was
not given. -/
def ofParts (messages : List Message) (model : Option String) (temperature : Option Float)
    (maxTokens : Option Int64) : ChatRequest :=
  let request : ChatRequest := { messages }
  { request with
    model := model.getD request.model
    temperature := temperature.getD request.temperature
    maxTokens := maxTokens.getD request.maxTokens }

/-- A request has messages, and may have a model, a temperature and a bound on
the number of tokens. -/
def record : Json.Reader.Record Draft ChatRequest where
  title := "struct ChatRequest"
  fields := [
    { name := "messages"
      given := fun draft => draft.messages.isSome
      read := fun draft =>
        Json.Reader.map (fun ms => { draft with messages := some ms })
          (Json.Reader.list Message.reader) },
    { name := "model"
      given := fun draft => draft.model.isSome
      read := fun draft =>
        Json.Reader.map (fun s => { draft with model := some s }) Json.Reader.string
      mayEnd := true },
    { name := "temperature"
      given := fun draft => draft.temperature.isSome
      read := fun draft =>
        Json.Reader.map (fun x => { draft with temperature := some x }) Json.Reader.float
      mayEnd := true },
    { name := "max_tokens"
      given := fun draft => draft.maxTokens.isSome
      read := fun draft =>
        Json.Reader.map (fun n => { draft with maxTokens := some n }) Json.Reader.int64
      mayEnd := true }]
  empty := {}
  complete := fun draft =>
    match draft.messages with
    | none => .error "messages"
    | some messages => .ok (ofParts messages draft.model draft.temperature draft.maxTokens)

/-- Reads a request. -/
def reader : Json.Reader ChatRequest := record.reader

/-- Decodes a body as a request. -/
def decode (body : List UInt8) : Except Json.DecodeError ChatRequest := Json.decode reader body

/-- The request as JSON. -/
def toJson (r : ChatRequest) : String :=
  Json.Writer.object [
    ("messages", Json.Writer.array (r.messages.map Message.toJson)),
    ("model", Json.Writer.text r.model),
    ("temperature", Json.Writer.float r.temperature),
    ("max_tokens", toString r.maxTokens.toInt)]

end ChatRequest

end ChatGateway
