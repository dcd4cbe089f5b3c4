import ChatGateway.Proofs.Completion.Accepted
import ChatGateway.Proofs.Json.Yields

/-!
# A response is read back

A response is written as an object, and this object is a reply as well: the choices of a
response are the choices of the reply that it is made from.  So a written response can be
decoded as a response, and it can be relayed as a reply.  Both give the response back
(`answer_toJson`), however deep its values nest.

Three facts carry this.  A value that has been read has its objects in order, so that
reading it once more does not change it.  It nests as deep as it did in the reply, where
it stood in the same place.  And a member that is `null` is read as nothing, which is
written as `null` again (`yields_reply`, `said_getD`).
-/

namespace ChatGateway.Completion

open Json (Value Tree Yields)
open Json.Reader (maxDepth)
open ChatResponse (choices? member?)

/-! ## What has been read -/

/-- A member that may be missing, as it is read: `null` is read as nothing. -/
def MemberRead (v? : Option Value) : Prop := ∀ v ∈ v?, v.Read (maxDepth - 1) ∧ v ≠ .null

theorem MemberRead.join {v?? : Option (Option Value)} (h : ∀ v? ∈ v??, MemberRead v?) :
    MemberRead v??.join := by
  cases v?? with
  | none => exact fun v hv => absurd hv (Option.not_mem_none v)
  | some v? => exact h v? rfl

namespace Reply

/-- The values of a reply, as they are read. -/
structure IsRead (reply : Reply) : Prop where
  choices : ∀ v ∈ reply.choices, v.Read (maxDepth - 2)
  usage : MemberRead reply.usage
  model : MemberRead reply.model
  created : MemberRead reply.created

/-- The values of a draft, as they are read. -/
structure Draft.IsRead (draft : Draft) : Prop where
  choices : ∀ vs ∈ draft.choices, ∀ v ∈ vs, v.Read (maxDepth - 2)
  usage : ∀ v? ∈ draft.usage, MemberRead v?
  model : ∀ v? ∈ draft.model, MemberRead v?
  created : ∀ v? ∈ draft.created, MemberRead v?

theorem Draft.isRead_empty : Draft.IsRead {} := by
  constructor <;> exact fun _ h => absurd h (Option.not_mem_none _)

/-- Every field of a reply keeps to what is read. -/
theorem yields_field {field : Json.Reader.Field Draft} (hfield : field ∈ record.fields)
    {draft : Draft} (hdraft : draft.IsRead) : Yields (field.read draft) Draft.IsRead := by
  obtain ⟨hchoices, husage, hmodel, hcreated⟩ := hdraft
  have hmember : Yields (Json.Reader.nullable ChatResponse.memberValue) MemberRead :=
    Json.yields_nullable_value _
  simp only [record, List.mem_cons, List.not_mem_nil, or_false] at hfield
  -- a field puts in its own part and leaves the other three as they are
  rcases hfield with rfl | rfl | rfl | rfl
  · refine Json.yields_map ((Json.yields_list (Json.yields_value _)).imp fun vs hvs => ?_)
    exact ⟨by rintro _ ⟨⟩; exact hvs, husage, hmodel, hcreated⟩
  · refine Json.yields_map (hmember.imp fun v? hv? => ?_)
    exact ⟨hchoices, by rintro _ ⟨⟩; exact hv?, hmodel, hcreated⟩
  · refine Json.yields_map (hmember.imp fun v? hv? => ?_)
    exact ⟨hchoices, husage, by rintro _ ⟨⟩; exact hv?, hcreated⟩
  · refine Json.yields_map (hmember.imp fun v? hv? => ?_)
    exact ⟨hchoices, husage, hmodel, by rintro _ ⟨⟩; exact hv?⟩

theorem yields_reply : Yields reader IsRead := by
  refine (Json.yields_record Draft.isRead_empty fun _ hfield _ hdraft =>
    yields_field hfield hdraft).imp ?_
  rintro reply ⟨draft, ⟨hchoices, husage, hmodel, hcreated⟩, hcomplete⟩
  cases hdraft : draft.choices with
  | none => simp [record, hdraft] at hcomplete
  | some vs =>
      simp only [record, hdraft, Except.ok.injEq] at hcomplete
      subst hcomplete
      exact ⟨hchoices vs hdraft, .join husage, .join hmodel, .join hcreated⟩

end Reply

end ChatGateway.Completion

namespace ChatGateway.ChatResponse

/-! ## A response as an object -/

open Json (Value Tree SpelledBody)
open Json.Reader (maxDepth)
open Completion (Reply MemberRead said)

/-- Every number in the response is an integer that fits 64 bits. -/
structure IsWhole (r : ChatResponse) : Prop where
  choices : ∀ v ∈ r.choices, v.IsWhole
  usage : ∀ v ∈ r.usage, v.IsWhole
  model : ∀ v ∈ r.model, v.IsWhole
  created : ∀ v ∈ r.created, v.IsWhole

/-- The reply that the response is made from. -/
def reply (r : ChatResponse) : Reply := ⟨r.choices, r.usage, r.model, r.created⟩

/-- The members that the response is written with. -/
def members (r : ChatResponse) : List (String × Value) := [
  ("choices", .array r.choices),
  ("usage", r.usage.getD .null),
  ("model", r.model.getD .null),
  ("created", r.created.getD .null),
  ("response", .text r.response)]

theorem optional_eq (v? : Option Value) :
    Json.Writer.optional v? = Json.Writer.value (v?.getD .null) := by
  cases v? <;> rfl

theorem toJson_eq (r : ChatResponse) : r.toJson = Json.Writer.value (.object r.members) := by
  rw [toJson, optional_eq, optional_eq, optional_eq]
  rfl

/-- What holds of the parts of a response holds of its members. -/
theorem forall_members {r : ChatResponse} {P : Value → Prop} (hchoices : P (.array r.choices))
    (husage : P (r.usage.getD .null)) (hmodel : P (r.model.getD .null))
    (hcreated : P (r.created.getD .null)) (hresponse : P (.text r.response)) :
    ∀ m ∈ r.members, P m.2 := by
  simpa [members] using ⟨hchoices, husage, hmodel, hcreated, hresponse⟩

theorem isWhole_getD {v? : Option Value} (h : ∀ v ∈ v?, v.IsWhole) : (v?.getD .null).IsWhole := by
  cases v? with
  | none => exact .null
  | some v => exact h v rfl

theorem read_getD {v? : Option Value} (h : MemberRead v?) :
    (v?.getD .null).Read (maxDepth - 1) := by
  cases v? with
  | none => exact ⟨.null, .null⟩
  | some v => exact (h v rfl).1

/-- Nothing is written as `null`, and `null` is read as nothing. -/
theorem said_getD {v? : Option Value} (h : MemberRead v?) :
    said (some (v?.getD .null).inOrder) = v? := by
  rw [(read_getD h).1.inOrder_eq]
  cases v? with
  | none => rfl
  | some v =>
      have hne := (h v rfl).2
      cases v with
      | null => contradiction
      | _ => rfl

theorem distinct_members {r : ChatResponse} (h : r.reply.IsRead) :
    (Value.object r.members).Distinct := by
  have hnames : (r.members.map Prod.fst).Nodup := by
    simp [members]
  have hchoices : (Value.array r.choices).Ordered := .array fun v hv => (h.choices v hv).1
  exact .object hnames (forall_members hchoices.distinct (read_getD h.usage).1.distinct
    (read_getD h.model).1.distinct (read_getD h.created).1.distinct (.text _))

theorem spelledBody_toJson {r : ChatResponse} (h : r.IsWhole) :
    SpelledBody (Utf8.bytes r.toJson) (Tree.ofValue (.object r.members)) := by
  have hmembers : ∀ m ∈ r.members, m.2.IsWhole :=
    forall_members (.array h.choices) (isWhole_getD h.usage) (isWhole_getD h.model)
      (isWhole_getD h.created) (.text _)
  rw [toJson_eq]
  exact Json.spelledBody_value (.object trivial hmembers)

/-! ## Both ways of reading it -/

theorem choices?_written {items : List Value} (hread : ∀ v ∈ items, v.Read (maxDepth - 2))
    (hwhole : ∀ v ∈ items, v.IsWhole) : choices? (Tree.ofValue (.array items)) = some items := by
  have hsame : ∀ v ∈ items, v.inOrder = v := fun v hv => (hread v hv).1.inOrder_eq
  rw [Reply.choices?_ofValue fun v hv => ⟨(hread v hv).2, hwhole v hv⟩,
    List.map_congr_left hsame, List.map_id']

theorem member?_written {v? : Option Value} (hread : MemberRead v?)
    (hwhole : ∀ v ∈ v?, v.IsWhole) : member? (Tree.ofValue (v?.getD .null)) = some v? := by
  rw [Reply.member?_ofValue (read_getD hread).2 (isWhole_getD hwhole), said_getD hread]

/-- A response is made of its members. -/
theorem ofTree?_members {r : ChatResponse} (hread : r.reply.IsRead) (hwhole : r.IsWhole) :
    layout.ofTree? (Tree.ofValue (.object r.members)) = some r := by
  have hslots : layout.slots = slots := rfl
  -- each slot finds its member by name, so their order does not matter here
  have hchoices := choices?_written hread.choices hwhole.choices
  have husage := member?_written hread.usage hwhole.usage
  have hmodel := member?_written hread.model hwhole.model
  have hcreated := member?_written hread.created hwhole.created
  have htext : Tree.text? (Tree.ofValue (.text r.response)) = some r.response := rfl
  simp only [reply] at hchoices husage hmodel hcreated
  rw [Tree.ofValue_object, Json.Layout.ofTree?]
  simp [hslots, slots, members, Json.Slot.fill, choicesSlot, nullableSlot, Json.Slot.read?, record,
    hchoices, husage, hmodel, hcreated, htext, Except.toOption, List.lookup_cons]

/-- The parts of the members are the parts of the reply. -/
theorem reply?_members {r : ChatResponse} (hread : r.reply.IsRead) (hwhole : r.IsWhole) :
    (Reply.parts? (Tree.ofValue (.object r.members))).bind Reply.Parts.reply? = some r.reply := by
  have hchoices := choices?_written hread.choices hwhole.choices
  have husage := member?_written hread.usage hwhole.usage
  have hmodel := member?_written hread.model hwhole.model
  have hcreated := member?_written hread.created hwhole.created
  simp only [reply] at hchoices husage hmodel hcreated
  rw [Tree.ofValue_object]
  simp [Reply.parts?, Reply.Parts.reply?, Reply.given?, members, hchoices, husage, hmodel,
    hcreated, List.lookup_cons, reply]

end ChatGateway.ChatResponse

namespace ChatGateway.Relay

open Json (Value Tree)
open Completion (Reply)

theorem exists_reply_of_answer {body : List UInt8} {r : ChatResponse}
    (h : answer (.ok body) = .ok r) :
    ∃ reply, Reply.decode body = .ok reply ∧ reply.normalize = .ok r := by
  rw [answer] at h
  cases hdecode : Reply.decode body with
  | error failure => simp [hdecode] at h
  | ok reply =>
      simp only [hdecode] at h
      exact ⟨reply, rfl, h⟩

/-- The response keeps the parts of its reply, so that the reply can be told from it. -/
theorem decode_of_answer {body : List UInt8} {r : ChatResponse} (h : answer (.ok body) = .ok r) :
    Reply.decode body = .ok r.reply ∧ r.reply.normalize = .ok r := by
  obtain ⟨reply, hdecode, hnormalize⟩ := exists_reply_of_answer h
  have hread := Reply.yields_reply.decode (Reply.json_decode_of_decode hdecode)
  have hdistinct : ∀ v ∈ reply.choices, v.Distinct := fun v hv => (hread.choices v hv).1.distinct
  obtain rfl : reply = r.reply := ((Reply.normalize_eq_ok_iff hdistinct).mp hnormalize).1
  exact ⟨hdecode, hnormalize⟩

/-- A response is made from a reply that has been read. -/
theorem isRead_of_answer {body : List UInt8} {r : ChatResponse} (h : answer (.ok body) = .ok r) :
    r.reply.IsRead ∧ r.reply.normalize = .ok r := by
  obtain ⟨hdecode, hnormalize⟩ := decode_of_answer h
  exact ⟨Reply.yields_reply.decode (Reply.json_decode_of_decode hdecode), hnormalize⟩

/-- **What the gateway answers is stable.**  The text of a response is decoded as this very
response, and taken as a reply of the model server it is answered with the same response
again. -/
theorem answer_toJson {body : List UInt8} {r : ChatResponse} (h : answer (.ok body) = .ok r)
    (hwhole : r.IsWhole) :
    ChatResponse.decode (Utf8.bytes r.toJson) = .ok r ∧
      answer (.ok (Utf8.bytes r.toJson)) = .ok r := by
  obtain ⟨hread, hnormalize⟩ := isRead_of_answer h
  have hbody := ChatResponse.spelledBody_toJson hwhole
  have hdistinct := Tree.distinct_ofValue (ChatResponse.distinct_members hread)
  constructor
  · have hdecode := ChatResponse.understands.decode hbody hdistinct
    rw [ChatResponse.ofTree?_members hread hwhole] at hdecode
    exact Json.Reader.toOption_eq_some_iff.mp hdecode
  · have hanswer := toOption_answer hbody hdistinct
    rw [ChatResponse.reply?_members hread hwhole, Option.bind_some, hnormalize] at hanswer
    exact Json.Reader.toOption_eq_some_iff.mp hanswer

/-- A reply with its members out of order, with `null`, and with a member that is not asked
for. -/
def looseReply : List UInt8 := Utf8.bytes
  "\x7b\"model\":null,\"id\":7,\"choices\": [[[\"h\\u0069\"]]],\"usage\":\x7b\"b\":-1,\"a\":[]\x7d\x7d"

theorem lower_minusOne : -9223372036854775808 ≤ (-1 : Int) := by decide

theorem upper_minusOne : (-1 : Int) < 18446744073709551616 := by decide

/-- What it is answered with. -/
def looseResponse : ChatResponse where
  choices := [.array [.array [.text "hi"]]]
  usage := some (.object [("a", .array []), ("b", .number (.whole ⟨-1, lower_minusOne, upper_minusOne⟩))])
  model := none
  created := none
  response := "hi"

theorem answer_looseResponse :
    answer (.ok looseReply) = .ok looseResponse ∧ looseResponse.IsWhole ∧
      ChatResponse.decode (Utf8.bytes looseResponse.toJson) = .ok looseResponse ∧
      answer (.ok (Utf8.bytes looseResponse.toJson)) = .ok looseResponse := by
  have hanswer : answer (.ok looseReply) = .ok looseResponse := by rfl
  have hwhole : looseResponse.IsWhole := by
    constructor <;> simp [looseResponse, Value.IsWhole]
  exact ⟨hanswer, hwhole, answer_toJson hanswer hwhole⟩

end ChatGateway.Relay
