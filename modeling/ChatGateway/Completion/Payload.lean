import ChatGateway.Chat.Request

/-!
# What the model server is asked

The body that is sent to the model server for a request: the same messages, and
no streaming.
-/

namespace ChatGateway.Completion

/-- The body that is sent for a request. -/
structure Payload where
  model : String
  messages : List Message
  temperature : Float
  maxTokens : Int64
  stream : Bool

namespace Payload

/-- The body for a request. -/
def ofRequest (r : ChatRequest) : Payload where
  model := r.model
  messages := r.messages
  temperature := r.temperature
  maxTokens := r.maxTokens
  stream := false

/-- The body as JSON. -/
def toJson (p : Payload) : String :=
  Json.Writer.object [
    ("model", Json.Writer.text p.model),
    ("messages", Json.Writer.array (p.messages.map Message.toJson)),
    ("temperature", Json.Writer.float p.temperature),
    ("max_tokens", toString p.maxTokens.toInt),
    ("stream", Json.Writer.value (.bool p.stream))]

end Payload

end ChatGateway.Completion
