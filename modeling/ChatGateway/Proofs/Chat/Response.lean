import ChatGateway.Chat.Response
import ChatGateway.Proofs.Json.Slots

/-!
# What a response is read from

A response is read from its tree: its choices are a list of values, its usage, its model
and its time are values that may be `null`, and its text is a text.  The slots for the
choices and for a member that may be `null` take the draft as a parameter, since a reply
of the model server is read by the same ones.
-/

namespace ChatGateway.ChatResponse

open Json (Slot Layout Tree Value Understands)
open Json.Reader (maxDepth)

/-- The choices of a tree. -/
def choices? (t : Tree) : Option (List Value) :=
  t.items? fun t : Tree => t.value? (maxDepth - 2)

/-- What a tree says of a member that may be `null`. -/
def member? (t : Tree) : Option (Option Value) :=
  t.nullable? fun t : Tree => t.value? (maxDepth - 1)

section

variable {σ : Type}

/-- The slot of the choices. -/
def choicesSlot (given : σ → Bool) (put : σ → List Value → σ) : Slot σ where
  name := "choices"
  Content := List Value
  reader := Json.Reader.list itemValue
  ofTree? := choices?
  understands := Json.understands_list (Json.understands_value _)
  given := given
  put := put

/-- The slot of a member that may be `null`. -/
def nullableSlot (name : String) (given : σ → Bool) (put : σ → Option Value → σ)
    (mayEnd : Bool) : Slot σ where
  name := name
  Content := Option Value
  reader := Json.Reader.nullable memberValue
  ofTree? := member?
  understands := Json.understands_nullable (Json.understands_value _)
  given := given
  put := put
  mayEnd := mayEnd

end

/-- What a response is made of, in the order of its list.  It is written as a whole, so nothing
may be missing at the end of a list. -/
def slots : List (Slot Draft) := [
  choicesSlot (fun draft => draft.choices.isSome) fun draft vs => { draft with choices := some vs },
  nullableSlot "usage" (fun draft => draft.usage.isSome)
    (fun draft v => { draft with usage := some v }) false,
  nullableSlot "model" (fun draft => draft.model.isSome)
    (fun draft v => { draft with model := some v }) false,
  nullableSlot "created" (fun draft => draft.created.isSome)
    (fun draft v => { draft with created := some v }) false,
  { name := "response"
    Content := String
    reader := Json.Reader.string
    ofTree? := Tree.text?
    understands := Json.understands_string
    given := fun draft => draft.response.isSome
    put := fun draft s => { draft with response := some s } }]

/-- The slots of a response. -/
def layout : Layout record where
  slots := slots
  fields_eq := rfl
  nodup := by decide
  given_empty := by
    simp only [slots, List.mem_cons, List.not_mem_nil, or_false]
    rintro s (rfl | rfl | rfl | rfl | rfl) <;> rfl
  given_put := by
    simp only [slots, List.mem_cons, List.not_mem_nil, or_false]
    rintro s (rfl | rfl | rfl | rfl | rfl) s' (rfl | rfl | rfl | rfl | rfl) hne draft c <;>
      first | rfl | exact absurd rfl hne
  commute := by
    simp only [slots, List.mem_cons, List.not_mem_nil, or_false]
    rintro s (rfl | rfl | rfl | rfl | rfl) s' (rfl | rfl | rfl | rfl | rfl) hne draft c c' <;>
      first | rfl | exact absurd rfl hne

/-- A response is read from its tree, however the tree is spelled. -/
theorem understands : Understands reader layout.ofTree? := layout.understands

end ChatGateway.ChatResponse
