import ChatGateway.Json.Decode
import ChatGateway.Json.Writer

/-!
# Chat messages

A message of a conversation: who speaks, and what is said.
-/

namespace ChatGateway

/-- A message of a conversation. -/
structure Message where
  role : String
  content : String
deriving DecidableEq, Repr

namespace Message

/-- A message that is being read. -/
structure Draft where
  role : Option String := none
  content : Option String := none

/-- A message has a role and a content. -/
def record : Json.Reader.Record Draft Message where
  title := "struct ChatMessage"
  fields := [
    { name := "role"
      given := fun draft => draft.role.isSome
      read := fun draft =>
        Json.Reader.map (fun s => { draft with role := some s }) Json.Reader.string },
    { name := "content"
      given := fun draft => draft.content.isSome
      read := fun draft =>
        Json.Reader.map (fun s => { draft with content := some s }) Json.Reader.string }]
  empty := {}
  complete := fun draft =>
    match draft.role, draft.content with
    | none, _ => .error "role"
    | _, none => .error "content"
    | some role, some content => .ok ⟨role, content⟩

/-- Reads a message. -/
def reader : Json.Reader Message := record.reader

/-- Decodes a body as a message. -/
def decode (body : List UInt8) : Except Json.DecodeError Message := Json.decode reader body

/-- The message as JSON. -/
def toJson (m : Message) : String :=
  Json.Writer.object [
    ("role", Json.Writer.text m.role),
    ("content", Json.Writer.text m.content)]

end Message

end ChatGateway
