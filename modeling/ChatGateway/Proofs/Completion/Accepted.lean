import ChatGateway.Proofs.Relay.Answer

/-!
# Which replies are accepted

`Answers v response` says when a value is a reply that can be answered, and with what.
A record may stand as an object, whose other members do not matter, or as a list of its
members in their order.  So a reply says its choices, usage, model and time in one of two
ways (`Says`), and so do the first choice and its message, which hold one value each
(`Holds`).

The relations are about values and do not mention readers.  That a written value is
accepted exactly if it `Answers` something (`answer_written_iff`) joins two decoders: a
reply is read from its text, and the text of its first choice is read off a value.
-/

namespace ChatGateway.Completion

open Json (Value Tree Cause)
open Json.Reader (maxDepth)
open ChatResponse (choices? member?)

/-! ## What a reply says -/

/-- The value that is held under `name`, by a member of an object or by the only item of
a list. -/
inductive Holds (name : String) : Value → Value → Prop where
  | member {members : List (String × Value)} {v : Value} (h : (name, v) ∈ members) :
      Holds name (.object members) v
  | item (v : Value) : Holds name (.array [v]) v

/-- What is said by a value that may be missing; `null` says nothing either. -/
def said : Option Value → Option Value
  | some .null => none
  | v? => v?

/-- The choices, the usage, the model and the time that a reply says. -/
inductive Says : Value → List Value → Option Value → Option Value → Option Value → Prop where
  | object {members : List (String × Value)} {choices : List Value}
      (h : members.lookup "choices" = some (.array choices)) :
      Says (.object members) choices (said (members.lookup "usage"))
        (said (members.lookup "model")) (said (members.lookup "created"))
  | list {choices more : List Value} (h : more.length ≤ 3) :
      Says (.array (.array choices :: more)) choices (said more[0]?) (said more[1]?)
        (said more[2]?)

theorem says_object_iff {members : List (String × Value)} {choices : List Value}
    {usage model created : Option Value} :
    Says (.object members) choices usage model created ↔
      members.lookup "choices" = some (.array choices) ∧ usage = said (members.lookup "usage") ∧
        model = said (members.lookup "model") ∧ created = said (members.lookup "created") := by
  constructor
  · intro h
    cases h with
    | object h => exact ⟨h, rfl, rfl, rfl⟩
  · rintro ⟨h, rfl, rfl, rfl⟩
    exact .object h

theorem says_array_iff {items choices : List Value} {usage model created : Option Value} :
    Says (.array items) choices usage model created ↔
      ∃ more, items = .array choices :: more ∧ more.length ≤ 3 ∧ usage = said more[0]? ∧
        model = said more[1]? ∧ created = said more[2]? := by
  constructor
  · intro h
    cases h with
    | list h => exact ⟨_, rfl, h, rfl, rfl, rfl⟩
  · rintro ⟨more, rfl, h, rfl, rfl, rfl⟩
    exact .list h

/-- What holds of a value inside holds of the choices. -/
theorem Says.distinct_choices {v : Value} {choices : List Value}
    {usage model created : Option Value} (h : Says v choices usage model created)
    (hdistinct : v.Distinct) : ∀ c ∈ choices, c.Distinct := by
  cases h with
  | @object members choices h =>
      obtain ⟨hnames, hvalues⟩ := Value.all_object_iff.mp hdistinct
      have hmem := (Json.lookup_eq_some_iff_mem hnames).mp h
      exact Value.all_array_iff.mp (hvalues _ hmem)
  | list h => exact Value.all_array_iff.mp (Value.all_array_iff.mp hdistinct _ List.mem_cons_self)

/-- The response to a reply: all that the reply says, and the text that its first choice
holds. -/
structure Answers (v : Value) (response : ChatResponse) : Prop where
  parts : Says v response.choices response.usage response.model response.created
  text : ∃ first more message, response.choices = first :: more ∧
    Holds "message" first message ∧ Holds "content" message (.text response.response)

/-! ## The first choice -/

theorem Holds.distinct {name : String} {v held : Value} (h : Holds name v held)
    (hdistinct : v.Distinct) : held.Distinct := by
  cases h with
  | member hmem => exact (Value.all_object_iff.mp hdistinct).2 _ hmem
  | item => exact Value.all_array_iff.mp hdistinct _ List.mem_cons_self

theorem member?_eq_lookup (name : String) (members : List (String × Value)) :
    Value.member? name members = members.lookup name := by
  induction members with
  | nil => rfl
  | cons m members ih =>
      obtain ⟨key, v⟩ := m
      rw [Value.member?] at ih ⊢
      by_cases hkey : name = key
      · subst hkey
        simp
      · have hbeq : (name == key) = false := by simpa using hkey
        have hbeq' : (key == name) = false := by simpa using Ne.symm hkey
        rw [List.find?_cons, List.lookup_cons, hbeq']
        simp only [hbeq, ih]

namespace Reply

theorem onlyField_eq_ok_iff {α : Type} {title name : String} {read : Value → Except Cause α}
    {v : Value} (hdistinct : v.Distinct) {a : α} :
    onlyField title name read v = .ok a ↔ ∃ held, Holds name v held ∧ read held = .ok a := by
  constructor
  · intro h
    cases v with
    | object members =>
        rw [onlyField, member?_eq_lookup] at h
        cases hfind : members.lookup name with
        | none => simp [hfind] at h
        | some held =>
            rw [hfind] at h
            obtain ⟨hnames, -⟩ := Value.all_object_iff.mp hdistinct
            exact ⟨held, .member ((Json.lookup_eq_some_iff_mem hnames).mp hfind), h⟩
    | array items =>
        rcases items with _ | ⟨held, _ | ⟨next, more⟩⟩
        · simp [onlyField] at h
        · refine ⟨held, .item held, ?_⟩
          cases hread : read held with
          | error cause => simp [onlyField, hread] at h
          | ok a' => simpa [onlyField, hread] using h
        · cases hread : read held <;> simp [onlyField, hread] at h
    | _ => simp [onlyField] at h
  · rintro ⟨held, hholds, hread⟩
    cases hholds with
    | member hmem =>
        obtain ⟨hnames, -⟩ := Value.all_object_iff.mp hdistinct
        have hfind := (Json.lookup_eq_some_iff_mem hnames).mpr hmem
        simp only [onlyField, member?_eq_lookup, hfind, hread]
    | item => simp [onlyField, hread]

theorem asText_eq_ok_iff {v : Value} {s : String} : asText v = .ok s ↔ v = .text s := by
  cases v <;> simp [asText]

theorem choiceText_eq_ok_iff {v : Value} (hdistinct : v.Distinct) {s : String} :
    choiceText v = .ok s ↔
      ∃ message, Holds "message" v message ∧ Holds "content" message (.text s) := by
  rw [choiceText, onlyField_eq_ok_iff hdistinct]
  constructor
  · rintro ⟨message, hmessage, hread⟩
    obtain ⟨content, hcontent, htext⟩ := (onlyField_eq_ok_iff (hmessage.distinct hdistinct)).mp hread
    rw [asText_eq_ok_iff] at htext
    exact ⟨message, hmessage, htext ▸ hcontent⟩
  · rintro ⟨message, hmessage, hcontent⟩
    refine ⟨message, hmessage, (onlyField_eq_ok_iff (hmessage.distinct hdistinct)).mpr ?_⟩
    exact ⟨.text s, hcontent, rfl⟩

theorem normalize_eq_ok_iff {reply : Reply} (hdistinct : ∀ v ∈ reply.choices, v.Distinct)
    {response : ChatResponse} :
    reply.normalize = .ok response ↔
      reply = ⟨response.choices, response.usage, response.model, response.created⟩ ∧
      ∃ first more message, response.choices = first :: more ∧
        Holds "message" first message ∧ Holds "content" message (.text response.response) := by
  constructor
  · intro h
    cases hchoices : reply.choices with
    | nil => simp [normalize, hchoices] at h
    | cons first more =>
        have hfirst : first.Distinct := hdistinct first (hchoices ▸ List.mem_cons_self)
        cases htext : choiceText first with
        | error cause => simp [normalize, hchoices, htext] at h
        | ok s =>
            simp only [normalize, hchoices, htext, Except.ok.injEq] at h
            subst h
            obtain ⟨message, hmessage, hcontent⟩ := (choiceText_eq_ok_iff hfirst).mp htext
            obtain ⟨choices, usage, model, created⟩ := reply
            obtain rfl : choices = first :: more := hchoices
            exact ⟨rfl, first, more, message, rfl, hmessage, hcontent⟩
  · rintro ⟨rfl, first, more, message, hchoices, hmessage, hcontent⟩
    have hfirst : first.Distinct := hdistinct first (hchoices ▸ List.mem_cons_self)
    have htext := (choiceText_eq_ok_iff hfirst).mpr ⟨message, hmessage, hcontent⟩
    obtain ⟨choices, usage, model, created, text⟩ := response
    obtain rfl : choices = first :: more := hchoices
    simp only [normalize, htext]

/-! ## The parts of a written reply -/

theorem member?_ofValue {v : Value} (hdepth : v.Within (maxDepth - 1)) (hwhole : v.IsWhole) :
    member? (Tree.ofValue v) = some (said (some v.inOrder)) := by
  have hread := Tree.value?_ofValue hdepth hwhole
  cases v with
  | null => rfl
  | _ =>
      rw [member?, Tree.nullable?_of_ne (by simp [Tree.ofValue]), hread]
      rfl

theorem given?_ofValue {v? : Option Value}
    (h : ∀ v ∈ v?, v.Within (maxDepth - 1) ∧ v.IsWhole) :
    given? (v?.map Tree.ofValue) = some (said (v?.map Value.inOrder)) := by
  cases v? with
  | none => rfl
  | some v => exact member?_ofValue (h v rfl).1 (h v rfl).2

theorem choices?_ofValue {items : List Value}
    (h : ∀ v ∈ items, v.Within (maxDepth - 2) ∧ v.IsWhole) :
    choices? (Tree.ofValue (.array items)) = some (items.map Value.inOrder) := by
  have hitems : ∀ v ∈ items, (Tree.ofValue v).value? (maxDepth - 2) = some v.inOrder :=
    fun v hv => Tree.value?_ofValue (h v hv).1 (h v hv).2
  rw [Tree.ofValue_array, choices?, Tree.items?, Json.Reader.mapM_map_eq,
    Json.Reader.mapM_eq_some hitems]

/-- Members in order are looked up like the members themselves. -/
theorem lookup_ordered {members : List (String × Value)} (hnames : (members.map Prod.fst).Nodup)
    (name : String) :
    (Value.ordered (members.map fun m => (m.1, m.2.inOrder))).lookup name =
      (members.lookup name).map Value.inOrder := by
  have hnames' : ((members.map fun m => (m.1, m.2.inOrder)).map Prod.fst).Nodup := by
    rwa [List.map_map]
  rw [← Json.lookup_perm (Value.ordered_perm hnames').symm hnames', Json.lookup_map]

/-- The reply of written parts: there is one if the choices are a list. -/
theorem reply?_eq_some_iff {c : Value} {usage? model? created? : Option Value}
    (hc : c.Within (maxDepth - 1) ∧ c.IsWhole)
    (husage : ∀ v ∈ usage?, v.Within (maxDepth - 1) ∧ v.IsWhole)
    (hmodel : ∀ v ∈ model?, v.Within (maxDepth - 1) ∧ v.IsWhole)
    (hcreated : ∀ v ∈ created?, v.Within (maxDepth - 1) ∧ v.IsWhole) {reply : Reply} :
    Parts.reply? ⟨Tree.ofValue c, usage?.map Tree.ofValue, model?.map Tree.ofValue,
        created?.map Tree.ofValue⟩ = some reply ↔
      c.inOrder = .array reply.choices ∧ reply.usage = said (usage?.map Value.inOrder) ∧
        reply.model = said (model?.map Value.inOrder) ∧
        reply.created = said (created?.map Value.inOrder) := by
  obtain ⟨hdepth, hwhole⟩ := hc
  rw [Parts.reply?, given?_ofValue husage, given?_ofValue hmodel, given?_ofValue hcreated]
  cases c with
  | array items =>
      have hitems : ∀ v ∈ items, v.Within (maxDepth - 2) ∧ v.IsWhole := fun v hv =>
        ⟨Value.within_array_iff.mp hdepth v hv, Value.all_array_iff.mp hwhole v hv⟩
      obtain ⟨choices, usage, model, created⟩ := reply
      rw [choices?_ofValue hitems, Value.inOrder_array]
      simp [eq_comm]
  | object members =>
      rw [Value.inOrder_object, Tree.ofValue_object]
      simp [choices?, Tree.items?, Value.ofMembers]
  | _ => simp [choices?, Tree.ofValue, Tree.items?, Value.inOrder]

theorem reply?_ofValue_object_iff {members : List (String × Value)}
    (hdistinct : (Value.object members).Distinct) (hwhole : (Value.object members).IsWhole)
    (hdepth : (Value.object members).Within maxDepth) {reply : Reply} :
    (parts? (Tree.ofValue (.object members))).bind Parts.reply? = some reply ↔
      Says (Value.object members).inOrder reply.choices reply.usage reply.model reply.created := by
  obtain ⟨hnames, -⟩ := Value.all_object_iff.mp hdistinct
  have hmember : ∀ name, ∀ v ∈ members.lookup name, v.Within (maxDepth - 1) ∧ v.IsWhole := by
    intro name v hv
    have hmem := (Json.lookup_eq_some_iff_mem hnames).mp hv
    exact ⟨Value.within_object_iff.mp hdepth _ hmem, (Value.all_object_iff.mp hwhole).2 _ hmem⟩
  rw [Tree.ofValue_object, parts?, Value.inOrder_object, Value.ofMembers, says_object_iff]
  simp only [Json.lookup_map, lookup_ordered hnames]
  cases hchoices : members.lookup "choices" with
  | none => simp
  | some c =>
      rw [Option.map_some, Option.map_some, Option.bind_some,
        reply?_eq_some_iff (hmember "choices" c hchoices) (hmember "usage") (hmember "model")
          (hmember "created"), Option.map_some, Option.some_inj]

theorem reply?_ofValue_array_iff {items : List Value} (hwhole : (Value.array items).IsWhole)
    (hdepth : (Value.array items).Within maxDepth) {reply : Reply} :
    (parts? (Tree.ofValue (.array items))).bind Parts.reply? = some reply ↔
      Says (Value.array items).inOrder reply.choices reply.usage reply.model reply.created := by
  rw [Tree.ofValue_array, Value.inOrder_array, says_array_iff]
  cases items with
  | nil => simp [parts?]
  | cons c more =>
      have hitem : ∀ v ∈ c :: more, v.Within (maxDepth - 1) ∧ v.IsWhole := fun v hv =>
        ⟨Value.within_array_iff.mp hdepth v hv, Value.all_array_iff.mp hwhole v hv⟩
      have hmore : ∀ i : Nat, ∀ v ∈ more[i]?, v.Within (maxDepth - 1) ∧ v.IsWhole :=
        fun i v hv => hitem v (List.mem_cons_of_mem _ (List.mem_of_getElem? hv))
      rw [List.map_cons, List.map_cons, parts?, List.length_map]
      by_cases hlength : more.length ≤ 3
      · simp only [if_pos hlength, Option.bind_some, List.getElem?_map]
        rw [reply?_eq_some_iff (hitem c List.mem_cons_self) (hmore 0) (hmore 1) (hmore 2)]
        constructor
        · rintro ⟨hchoices, husage, hmodel, hcreated⟩
          refine ⟨more.map Value.inOrder, by rw [hchoices], ?_, ?_⟩
          · rwa [List.length_map]
          · simpa only [List.getElem?_map] using ⟨husage, hmodel, hcreated⟩
        · rintro ⟨more', hitems, -, hparts⟩
          obtain ⟨hchoices, rfl⟩ := List.cons.inj hitems
          simp only [List.getElem?_map] at hparts
          exact ⟨hchoices, hparts⟩
      -- a list of more items than a reply has parts says nothing
      · rw [if_neg hlength]
        constructor
        · intro h
          contradiction
        · rintro ⟨more', hitems, hlength', -⟩
          obtain ⟨-, rfl⟩ := List.cons.inj hitems
          rw [List.length_map] at hlength'
          contradiction

/-- **The parts of a written value say what the value says**, its objects being in order. -/
theorem reply?_ofValue_iff {v : Value} (hdistinct : v.Distinct) (hwhole : v.IsWhole)
    (hdepth : v.Within maxDepth) {reply : Reply} :
    (parts? (Tree.ofValue v)).bind Parts.reply? = some reply ↔
      Says v.inOrder reply.choices reply.usage reply.model reply.created := by
  cases v with
  | object members => exact reply?_ofValue_object_iff hdistinct hwhole hdepth
  | array items => exact reply?_ofValue_array_iff hwhole hdepth
  | _ =>
      constructor
      · intro h
        contradiction
      · intro h
        cases h

end Reply

end ChatGateway.Completion

namespace ChatGateway.Relay

open Json (Value Tree)
open Completion (Answers Reply)

/-- **Which replies are accepted, and what comes of them.**  The compact text of a value,
whose objects have no name twice, whose numbers are integers of 64 bits, and which does
not nest too deep, is answered with a response exactly if the value asks for that
response; otherwise the model server is said to be at fault. -/
theorem answer_written_iff {v : Value} (hdistinct : v.Distinct) (hwhole : v.IsWhole)
    (hdepth : v.Within Json.Reader.maxDepth) :
    (∀ response, answer (.ok (Utf8.bytes (Json.Writer.value v))) = .ok response ↔
      Answers v.inOrder response) ∧
    ((∀ response, ¬ Answers v.inOrder response) →
      ∃ text, answer (.ok (Utf8.bytes (Json.Writer.value v))) = .error (.unanswered text)) := by
  have hanswer := toOption_answer (Json.spelledBody_value hwhole) (Tree.distinct_ofValue hdistinct)
  have hiff : ∀ response, answer (.ok (Utf8.bytes (Json.Writer.value v))) = .ok response ↔
      Answers v.inOrder response := by
    intro response
    rw [← Json.Reader.toOption_eq_some_iff, hanswer, Option.bind_eq_some_iff]
    simp only [Json.Reader.toOption_eq_some_iff, Reply.reply?_ofValue_iff hdistinct hwhole hdepth]
    constructor
    · rintro ⟨reply, hparts, hnormalize⟩
      have hchoices := hparts.distinct_choices hdistinct.inOrder_ordered.distinct
      obtain ⟨rfl, htext⟩ := (Reply.normalize_eq_ok_iff hchoices).mp hnormalize
      exact ⟨hparts, htext⟩
    · rintro ⟨hparts, htext⟩
      have hchoices := hparts.distinct_choices hdistinct.inOrder_ordered.distinct
      exact ⟨_, hparts, (Reply.normalize_eq_ok_iff hchoices).mpr ⟨rfl, htext⟩⟩
  refine ⟨hiff, fun hnone => ?_⟩
  cases h : answer (.ok (Utf8.bytes (Json.Writer.value v))) with
  | ok response => exact absurd ((hiff response).mp h) (hnone response)
  | error failure =>
      obtain ⟨text, rfl⟩ := exists_unanswered h
      exact ⟨text, rfl⟩

/-- A reply whose first choice is a list, with members that are not asked for. -/
def mixedReply : Value := .object [
  ("usage", .null),
  ("id", .text "x"),
  ("choices", .array [
    .array [.object [("role", .text "assistant"), ("content", .text "hi")]],
    .number (.whole ⟨-1, by decide, by decide⟩)]),
  ("created", .number (.whole ⟨18446744073709551615, by decide, by decide⟩))]

theorem answer_mixedReply :
    mixedReply.Distinct ∧ mixedReply.IsWhole ∧ mixedReply.Within Json.Reader.maxDepth ∧
      answer (.ok (Utf8.bytes (Json.Writer.value mixedReply))) = .ok {
        choices := [
          .array [.object [("content", .text "hi"), ("role", .text "assistant")]],
          .number (.whole ⟨-1, by decide, by decide⟩)]
        usage := none
        model := none
        created := some (.number (.whole ⟨18446744073709551615, by decide, by decide⟩))
        response := "hi" } := by
  have hdistinct : mixedReply.Distinct := by simp [mixedReply, Value.Distinct]
  have hwhole : mixedReply.IsWhole := by simp [mixedReply, Value.IsWhole]
  have hdepth : mixedReply.Within Json.Reader.maxDepth := by
    simp [mixedReply, Json.Reader.maxDepth]
  refine ⟨hdistinct, hwhole, hdepth, ?_⟩
  refine ((answer_written_iff hdistinct hwhole hdepth).1 _).mpr ⟨.object rfl, ?_⟩
  exact ⟨_, _, _, rfl, .item _, .member List.mem_cons_self⟩

end ChatGateway.Relay
