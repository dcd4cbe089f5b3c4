import ChatGateway.Completion.Reply
import ChatGateway.Proofs.Chat.Response

/-!
# What a reply comes to

A reply is read from its tree, through its four parts (`understands`): the choices, which
have to be there, and the usage, the model and the time.  In an object any of these three
may be left out; in a list, only the last ones may.
-/

namespace ChatGateway.Completion.Reply

open Json (Slot Layout Tree Value Understands)
open ChatResponse (choices? member? choicesSlot nullableSlot)

/-- What a reply is made of, in the order of its list, which may end after the choices. -/
def slots : List (Slot Draft) := [
  choicesSlot (fun draft => draft.choices.isSome) fun draft vs => { draft with choices := some vs },
  nullableSlot "usage" (fun draft => draft.usage.isSome)
    (fun draft v => { draft with usage := some v }) true,
  nullableSlot "model" (fun draft => draft.model.isSome)
    (fun draft v => { draft with model := some v }) true,
  nullableSlot "created" (fun draft => draft.created.isSome)
    (fun draft v => { draft with created := some v }) true]

/-- The slots of a reply. -/
def layout : Layout record where
  slots := slots
  fields_eq := rfl
  nodup := by decide
  given_empty := by
    simp only [slots, List.mem_cons, List.not_mem_nil, or_false]
    rintro s (rfl | rfl | rfl | rfl) <;> rfl
  given_put := by
    simp only [slots, List.mem_cons, List.not_mem_nil, or_false]
    rintro s (rfl | rfl | rfl | rfl) s' (rfl | rfl | rfl | rfl) hne draft c <;>
      first | rfl | exact absurd rfl hne
  commute := by
    simp only [slots, List.mem_cons, List.not_mem_nil, or_false]
    rintro s (rfl | rfl | rfl | rfl) s' (rfl | rfl | rfl | rfl) hne draft c c' <;>
      first | rfl | exact absurd rfl hne

/-! ## The four parts of a reply -/

/-- The trees that a reply is read from; all but the choices may be missing. -/
structure Parts where
  choices : Tree
  usage : Option Tree
  model : Option Tree
  created : Option Tree

/-- The parts of a tree: members of an object, or items of a list in the order of the
members. -/
def parts? : Tree → Option Parts
  | .object members => (members.lookup "choices").map fun t =>
      ⟨t, members.lookup "usage", members.lookup "model", members.lookup "created"⟩
  | .array (t :: ts) => if ts.length ≤ 3 then some ⟨t, ts[0]?, ts[1]?, ts[2]?⟩ else none
  | _ => none

/-- What is said by a part that may be missing. -/
def given? : Option Tree → Option (Option Value)
  | none => some none
  | some t => member? t

/-- The reply of its parts. -/
def Parts.reply? (p : Parts) : Option Reply :=
  (choices? p.choices).bind fun choices => (given? p.usage).bind fun usage =>
    (given? p.model).bind fun model => (given? p.created).bind fun created =>
      some ⟨choices, usage, model, created⟩

theorem fill_slots (members : List (String × Tree)) :
    layout.ofTree? (.object members) = (parts? (.object members)).bind Parts.reply? := by
  have hslots : layout.slots = slots := rfl
  simp only [Layout.ofTree?, hslots, slots, Slot.fill, choicesSlot, nullableSlot, Slot.read?, parts?]
  cases members.lookup "choices" <;> cases members.lookup "usage" <;>
    cases members.lookup "model" <;> cases members.lookup "created" <;>
    simp [Option.bind_assoc, Option.bind_map, Except.toOption, record, Parts.reply?, given?]

theorem fillInOrder_slots (items : List Tree) :
    layout.ofTree? (.array items) = (parts? (.array items)).bind Parts.reply? := by
  have hslots : layout.slots = slots := rfl
  simp only [Layout.ofTree?, hslots, slots]
  -- a list may have one to four items
  rcases items with _ | ⟨a, _ | ⟨b, _ | ⟨c, _ | ⟨d, _ | ⟨e, more⟩⟩⟩⟩⟩
  · rfl
  iterate 4
    · simp [Option.bind_assoc, Option.bind_map, Except.toOption, record, Slot.fillInOrder,
        Slot.read?, choicesSlot, nullableSlot, parts?, Parts.reply?, given?]
  · have hlong : ¬ more.length + 1 + 1 + 1 < 3 := by omega
    simp [Slot.fillInOrder, parts?, hlong]

/-- **A tree comes to the reply of its parts.** -/
theorem ofTree?_eq (t : Tree) : layout.ofTree? t = (parts? t).bind Parts.reply? := by
  cases t with
  | array items => exact fillInOrder_slots items
  | object members => exact fill_slots members
  | _ => rfl

/-- A reply is read from its parts, however it is spelled. -/
theorem understands : Understands reader fun t => (parts? t).bind Parts.reply? := by
  have h := layout.understands
  rwa [funext ofTree?_eq] at h

/-! ## Decoding -/

theorem decode_of_json_error {body : List UInt8} {e : Json.DecodeError}
    (h : Json.decode reader body = .error e) : decode body = .error (.unanswered e.message) := by
  rw [decode, h]

theorem json_decode_of_decode {body : List UInt8} {reply : Reply} (h : decode body = .ok reply) :
    Json.decode reader body = .ok reply := by
  unfold decode at h
  split at h
  · contradiction
  next reply' hdecode => rw [hdecode, Except.ok.inj h]

end ChatGateway.Completion.Reply
