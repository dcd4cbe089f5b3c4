import ChatGateway.Json.Decode
import ChatGateway.Json.Writer

/-!
# Chat responses

What a client gets: the text of the first choice, and with it everything the
model server said, unchanged.
-/

namespace ChatGateway

/-- An answer to a request. -/
structure ChatResponse where
  choices : List Json.Value
  usage : Option Json.Value
  model : Option Json.Value
  created : Option Json.Value
  response : String

namespace ChatResponse

/-- A response that is being read. -/
structure Draft where
  choices : Option (List Json.Value) := none
  usage : Option (Option Json.Value) := none
  model : Option (Option Json.Value) := none
  created : Option (Option Json.Value) := none
  response : Option String := none

/-- Reads a value inside the record. -/
def memberValue : Json.Reader Json.Value := Json.Reader.value (Json.Reader.maxDepth - 1)

/-- Reads a value inside a list of the record. -/
def itemValue : Json.Reader Json.Value := Json.Reader.value (Json.Reader.maxDepth - 2)

/-- A response has choices and a text; the other members may be left out of an
object, but not of a list. -/
def record : Json.Reader.Record Draft ChatResponse where
  title := "struct ChatResponse"
  fields := [
    { name := "choices"
      given := fun draft => draft.choices.isSome
      read := fun draft =>
        Json.Reader.map (fun vs => { draft with choices := some vs })
          (Json.Reader.list itemValue) },
    { name := "usage"
      given := fun draft => draft.usage.isSome
      read := fun draft =>
        Json.Reader.map (fun v => { draft with usage := some v })
          (Json.Reader.nullable memberValue) },
    { name := "model"
      given := fun draft => draft.model.isSome
      read := fun draft =>
        Json.Reader.map (fun v => { draft with model := some v })
          (Json.Reader.nullable memberValue) },
    { name := "created"
      given := fun draft => draft.created.isSome
      read := fun draft =>
        Json.Reader.map (fun v => { draft with created := some v })
          (Json.Reader.nullable memberValue) },
    { name := "response"
      given := fun draft => draft.response.isSome
      read := fun draft =>
        Json.Reader.map (fun s => { draft with response := some s }) Json.Reader.string }]
  empty := {}
  complete := fun draft =>
    match draft.choices, draft.response with
    | none, _ => .error "choices"
    | _, none => .error "response"
    | some choices, some response =>
      .ok ⟨choices, draft.usage.join, draft.model.join, draft.created.join, response⟩

/-- Reads a response. -/
def reader : Json.Reader ChatResponse := record.reader

/-- Decodes a body as a response. -/
def decode (body : List UInt8) : Except Json.DecodeError ChatResponse := Json.decode reader body

/-- The response as JSON. -/
def toJson (r : ChatResponse) : String :=
  Json.Writer.object [
    ("choices", Json.Writer.array (Json.Writer.values r.choices)),
    ("usage", Json.Writer.optional r.usage),
    ("model", Json.Writer.optional r.model),
    ("created", Json.Writer.optional r.created),
    ("response", Json.Writer.text r.response)]

end ChatResponse

end ChatGateway
