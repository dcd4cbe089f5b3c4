import ChatGateway.Chat.Request
import ChatGateway.Proofs.Json.Slots

/-!
# What a request is read from

A request is read from its tree: its messages are a list of records with two texts each,
and its model, temperature and bound may be left out (`ChatRequest.understands`).  What
is left out has a default, which `ChatRequest.ofParts` puts in its place.
-/

namespace ChatGateway

open Json (Slot Layout Tree Value Number Understands)

/-! ## Messages -/

namespace Message

/-- The slot of a text. -/
def textSlot (name : String) (given : Draft → Bool) (put : Draft → String → Draft) :
    Slot Draft where
  name := name
  Content := String
  reader := Json.Reader.string
  ofTree? := Tree.text?
  understands := Json.understands_string
  given := given
  put := put

/-- What a message is made of, in the order of its list: a role and a content. -/
def slots : List (Slot Draft) := [
  textSlot "role" (fun draft => draft.role.isSome) fun draft s => { draft with role := some s },
  textSlot "content" (fun draft => draft.content.isSome)
    fun draft s => { draft with content := some s }]

/-- The slots of a message. -/
def layout : Layout record where
  slots := slots
  fields_eq := rfl
  nodup := by decide
  given_empty := by
    simp only [slots, List.mem_cons, List.not_mem_nil, or_false]
    rintro s (rfl | rfl) <;> rfl
  given_put := by
    simp only [slots, List.mem_cons, List.not_mem_nil, or_false]
    rintro s (rfl | rfl) s' (rfl | rfl) hne draft c <;>
      first | rfl | exact absurd rfl hne
  commute := by
    simp only [slots, List.mem_cons, List.not_mem_nil, or_false]
    rintro s (rfl | rfl) s' (rfl | rfl) hne draft c c' <;>
      first | rfl | exact absurd rfl hne

/-- The message that a tree comes to. -/
def ofTree? : Tree → Option Message
  | .object members =>
    (members.lookup "role").bind fun role => (members.lookup "content").bind fun content =>
      role.text?.bind fun role => content.text?.map fun content => ⟨role, content⟩
  | .array [role, content] =>
    role.text?.bind fun role => content.text?.map fun content => ⟨role, content⟩
  | _ => none

theorem layout_ofTree? (t : Tree) : layout.ofTree? t = ofTree? t := by
  have hslots : layout.slots = slots := rfl
  cases t with
  | object members =>
      simp only [Layout.ofTree?, hslots, slots, Slot.fill, textSlot, Slot.read?, ofTree?]
      cases members.lookup "role" <;> cases members.lookup "content" <;>
        simp [Option.bind_assoc, Option.map_eq_bind, Except.toOption, record]
  | array items =>
      simp only [Layout.ofTree?, hslots, slots]
      -- a list has exactly two items
      rcases items with _ | ⟨role, _ | ⟨content, _ | ⟨other, more⟩⟩⟩
      · rfl
      · simp [Slot.fillInOrder, textSlot, ofTree?]
      · simp [Slot.fillInOrder, textSlot, Slot.read?, ofTree?, Option.bind_assoc,
          Option.map_eq_bind, Except.toOption, record]
      · simp [Slot.fillInOrder, textSlot, ofTree?]
  | _ => rfl

/-- A message is read from its two texts, however it is spelled. -/
theorem understands : Understands reader ofTree? := by
  have h := layout.understands
  rwa [funext layout_ofTree?] at h

end Message

/-! ## Requests -/

namespace ChatRequest

/-- What a request is made of, in the order of its list: only the messages have no default. -/
def slots : List (Slot Draft) := [
  { name := "messages"
    Content := List Message
    reader := Json.Reader.list Message.reader
    ofTree? := Tree.items? Message.ofTree?
    understands := Json.understands_list Message.understands
    given := fun draft => draft.messages.isSome
    put := fun draft ms => { draft with messages := some ms } },
  { name := "model"
    Content := String
    reader := Json.Reader.string
    ofTree? := Tree.text?
    understands := Json.understands_string
    given := fun draft => draft.model.isSome
    put := fun draft s => { draft with model := some s }
    mayEnd := true },
  { name := "temperature"
    Content := Float
    reader := Json.Reader.float
    ofTree? := Tree.number? fun n => some n.toFloat
    understands := Json.understands_float
    given := fun draft => draft.temperature.isSome
    put := fun draft x => { draft with temperature := some x }
    mayEnd := true },
  { name := "max_tokens"
    Content := Int64
    reader := Json.Reader.int64
    ofTree? := Tree.number? fun n => (Json.Reader.toInt64 "i64" n).toOption
    understands := Json.understands_numberOf _ _
    given := fun draft => draft.maxTokens.isSome
    put := fun draft n => { draft with maxTokens := some n }
    mayEnd := true }]

/-- The slots of a request. -/
def layout : Layout record where
  slots := slots
  fields_eq := rfl
  nodup := by decide
  given_empty := by
    simp only [slots, List.mem_cons, List.not_mem_nil, or_false]
    rintro s (rfl | rfl | rfl | rfl) <;> rfl
  given_put := by
    simp only [slots, List.mem_cons, List.not_mem_nil, or_false]
    rintro s (rfl | rfl | rfl | rfl) s' (rfl | rfl | rfl | rfl) hne draft c <;>
      first | rfl | exact absurd rfl hne
  commute := by
    simp only [slots, List.mem_cons, List.not_mem_nil, or_false]
    rintro s (rfl | rfl | rfl | rfl) s' (rfl | rfl | rfl | rfl) hne draft c c' <;>
      first | rfl | exact absurd rfl hne

/-- The trees that a request is read from; all but the messages may be missing. -/
structure Parts where
  messages : Tree
  model : Option Tree
  temperature : Option Tree
  maxTokens : Option Tree

/-- The parts of a tree: members of an object, or items of a list in the order of the
members. -/
def parts? : Tree → Option Parts
  | .object members => (members.lookup "messages").map fun t =>
      ⟨t, members.lookup "model", members.lookup "temperature", members.lookup "max_tokens"⟩
  | .array (t :: ts) => if ts.length ≤ 3 then some ⟨t, ts[0]?, ts[1]?, ts[2]?⟩ else none
  | _ => none

/-- The request of its parts. -/
def Parts.request? (p : Parts) : Option ChatRequest :=
  (p.messages.items? Message.ofTree?).bind fun messages =>
    (Tree.given? Tree.text? p.model).bind fun model =>
      (Tree.given? (Tree.number? fun n => some n.toFloat) p.temperature).bind fun temperature =>
        (Tree.given? (Tree.number? fun n => (Json.Reader.toInt64 "i64" n).toOption)
          p.maxTokens).bind fun maxTokens =>
          some (ofParts messages model temperature maxTokens)

theorem layout_ofTree?_object (members : List (String × Tree)) :
    layout.ofTree? (.object members) = (parts? (.object members)).bind Parts.request? := by
  have hslots : layout.slots = slots := rfl
  simp only [Layout.ofTree?, hslots, slots, Slot.fill, Slot.read?, parts?]
  cases members.lookup "messages" <;> cases members.lookup "model" <;>
    cases members.lookup "temperature" <;> cases members.lookup "max_tokens" <;>
    simp [Option.bind_assoc, Option.bind_map, Except.toOption, record, Parts.request?, Tree.given?]

theorem layout_ofTree?_array (items : List Tree) :
    layout.ofTree? (.array items) = (parts? (.array items)).bind Parts.request? := by
  have hslots : layout.slots = slots := rfl
  simp only [Layout.ofTree?, hslots, slots]
  -- a list may have one to four items
  rcases items with _ | ⟨a, _ | ⟨b, _ | ⟨c, _ | ⟨d, _ | ⟨e, more⟩⟩⟩⟩⟩
  · rfl
  iterate 4
    · simp [Option.bind_assoc, Option.bind_map, Except.toOption, record, Slot.fillInOrder,
        Slot.read?, parts?, Parts.request?, Tree.given?]
  · have hlong : ¬ more.length + 1 + 1 + 1 < 3 := by omega
    simp [Slot.fillInOrder, parts?, hlong]

/-- **A tree comes to the request of its parts.** -/
theorem layout_ofTree? (t : Tree) : layout.ofTree? t = (parts? t).bind Parts.request? := by
  cases t with
  | array items => exact layout_ofTree?_array items
  | object members => exact layout_ofTree?_object members
  | _ => rfl

/-- A request is read from its parts, however it is spelled. -/
theorem understands : Understands reader fun t => (parts? t).bind Parts.request? := by
  have h := layout.understands
  rwa [funext layout_ofTree?] at h

end ChatRequest

end ChatGateway
