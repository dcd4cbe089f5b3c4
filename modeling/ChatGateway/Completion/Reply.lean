import ChatGateway.Chat.Response
import ChatGateway.Failure

/-!
# What the model server answers

A reply has a list of choices, and may say more.  Only the first choice is
looked into, for the text it holds; everything else is passed on as it came.
-/

namespace ChatGateway.Completion

open Json (Value Cause DecodeError)

/-- A reply of the model server. -/
structure Reply where
  choices : List Value
  usage : Option Value
  model : Option Value
  created : Option Value

namespace Reply

/-- A reply that is being read. -/
structure Draft where
  choices : Option (List Value) := none
  usage : Option (Option Value) := none
  model : Option (Option Value) := none
  created : Option (Option Value) := none

/-- A reply has choices, and may have a usage, a model and a time. -/
def record : Json.Reader.Record Draft Reply where
  title := "struct UpstreamReply"
  fields := [
    { name := "choices"
      given := fun draft => draft.choices.isSome
      read := fun draft =>
        Json.Reader.map (fun vs => { draft with choices := some vs })
          (Json.Reader.list ChatResponse.itemValue) },
    { name := "usage"
      given := fun draft => draft.usage.isSome
      read := fun draft =>
        Json.Reader.map (fun v => { draft with usage := some v })
          (Json.Reader.nullable ChatResponse.memberValue)
      mayEnd := true },
    { name := "model"
      given := fun draft => draft.model.isSome
      read := fun draft =>
        Json.Reader.map (fun v => { draft with model := some v })
          (Json.Reader.nullable ChatResponse.memberValue)
      mayEnd := true },
    { name := "created"
      given := fun draft => draft.created.isSome
      read := fun draft =>
        Json.Reader.map (fun v => { draft with created := some v })
          (Json.Reader.nullable ChatResponse.memberValue)
      mayEnd := true }]
  empty := {}
  complete := fun draft =>
    match draft.choices with
    | none => .error "choices"
    | some choices => .ok ⟨choices, draft.usage.join, draft.model.join, draft.created.join⟩

/-- Reads a reply. -/
def reader : Json.Reader Reply := record.reader

/-! ## The first choice -/

/-- The value of the only field of a record, from its object or its list form. -/
def onlyField {α : Type} (title field : String) (read : Value → Except Cause α) :
    Value → Except Cause α
  | .object members =>
    match Value.member? field members with
    | none => .error (.missing field)
    | some v => read v
  | .array [] => .error (.wrongLength 0 (title ++ " with 1 element"))
  | .array (v :: more) =>
    match read v with
    | .error cause => .error cause
    | .ok a =>
      if more.isEmpty then .ok a
      else .error (.wrongLength (more.length + 1) "fewer elements in array")
  | v => .error (.mistyped v.found title)

/-- A value that is a text. -/
def asText : Value → Except Cause String
  | .text s => .ok s
  | v => .error (.mistyped v.found "a string")

/-- The text that a choice holds. -/
def choiceText : Value → Except Cause String :=
  onlyField "struct CompletionChoice" "message"
    (onlyField "struct CompletionMessage" "content" asText)

/-- The response for a reply.  The first choice has to hold a text; it is a value
that has been read already, so a refusal of it has no place. -/
def normalize (reply : Reply) : Except Failure ChatResponse :=
  match reply.choices with
  | [] => .error (.unanswered "upstream reply contains no choices")
  | first :: _ =>
    match choiceText first with
    | .error cause => .error (.unanswered (DecodeError.mk cause none).message)
    | .ok response => .ok ⟨reply.choices, reply.usage, reply.model, reply.created, response⟩

/-- Decodes the body of a reply. -/
def decode (body : List UInt8) : Except Failure Reply :=
  match Json.decode reader body with
  | .error e => .error (.unanswered e.message)
  | .ok reply => .ok reply

end Reply

end ChatGateway.Completion
