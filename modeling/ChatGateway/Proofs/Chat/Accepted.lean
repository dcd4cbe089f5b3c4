import ChatGateway.Proofs.Chat.Request
import ChatGateway.Proofs.Json.Written

/-!
# Which requests are accepted

`ChatRequest.Asks v r` says when a value asks for a request, and for which one.  A request
may stand as an object, whose other members do not matter, or as a list of up to four
items; a message likewise, as an object or as a list of two texts (`Message.Stands`).
What is left out has a default, and `null` is not left out (`Given`).

The relations are about values and do not mention readers.  The compact text of a value
is accepted exactly if the value asks for a request (`ChatRequest.decode_written_iff`).
-/

namespace ChatGateway

open Json (Value Tree Number Whole)

/-! ## What a value asks for -/

/-- The value stands for the message: as an object with two texts, whose other members do
not matter, or as a list of the two texts. -/
inductive Message.Stands : Value → Message → Prop where
  | object {members : List (String × Value)} {role content : String}
      (hrole : ("role", .text role) ∈ members) (hcontent : ("content", .text content) ∈ members) :
      Stands (.object members) ⟨role, content⟩
  | list (role content : String) : Stands (.array [.text role, .text content]) ⟨role, content⟩

/-- What is said by a value that may be missing: the default if it is. -/
inductive Given {α : Type} (Says : Value → α → Prop) (default : α) : Option Value → α → Prop where
  | missing : Given Says default none default
  | said {v : Value} {a : α} (h : Says v a) : Given Says default (some v) a

namespace ChatRequest

/-- The text is what the value says. -/
def SaysText (v : Value) (s : String) : Prop := v = .text s

/-- The float is what the value says: the one nearest to its number. -/
def SaysFloat (v : Value) (x : Float) : Prop := ∃ n : Number, v = .number n ∧ x = n.toFloat

/-- The integer is what the value says. -/
def SaysInteger (v : Value) (k : Int64) : Prop :=
  ∃ n : Whole, v = .number (.whole n) ∧ n.toInt = k.toInt

/-- The four values ask for the request; all but the messages may be missing. -/
structure AskedBy (messages : Value) (model temperature maxTokens : Option Value)
    (r : ChatRequest) : Prop where
  messages : ∃ items, messages = .array items ∧ List.Forall₂ Message.Stands items r.messages
  model : Given SaysText "mistral-7b-instruct-v0.3" model r.model
  temperature : Given SaysFloat 0.7 temperature r.temperature
  maxTokens : Given SaysInteger 500 maxTokens r.maxTokens

/-- The value asks for the request: as an object with its parts, whose other members do
not matter, or as a list of its parts, whose last ones may be missing. -/
inductive Asks : Value → ChatRequest → Prop where
  | object {members : List (String × Value)} {messages : Value} {r : ChatRequest}
      (hmessages : members.lookup "messages" = some messages)
      (h : AskedBy messages (members.lookup "model") (members.lookup "temperature")
        (members.lookup "max_tokens") r) : Asks (.object members) r
  | list {messages : Value} {more : List Value} {r : ChatRequest} (hlength : more.length ≤ 3)
      (h : AskedBy messages more[0]? more[1]? more[2]? r) : Asks (.array (messages :: more)) r

end ChatRequest

/-! ## The tree of a value -/

namespace Message

theorem text?_ofValue_iff {v : Value} {s : String} :
    (Tree.ofValue v).text? = some s ↔ v = .text s := by
  cases v <;> simp [Tree.ofValue, Tree.text?]

theorem ofTree?_texts_iff {role content : Value} {m : Message} :
    ((Tree.ofValue role).text?.bind fun role =>
        (Tree.ofValue content).text?.map fun content => Message.mk role content) = some m ↔
      role = .text m.role ∧ content = .text m.content := by
  obtain ⟨r, c⟩ := m
  simp [Option.bind_eq_some_iff, text?_ofValue_iff]

/-- The tree of a value comes to the message that the value stands for. -/
theorem ofTree?_ofValue_iff {v : Value} (hdistinct : v.Distinct) {m : Message} :
    ofTree? (Tree.ofValue v) = some m ↔ Stands v m := by
  cases v with
  | object members =>
      obtain ⟨hnames, -⟩ := Value.all_object_iff.mp hdistinct
      rw [Tree.ofValue_object, ofTree?]
      simp only [Json.lookup_map]
      constructor
      · intro h
        cases hrole : members.lookup "role" with
        | none => simp [hrole] at h
        | some role =>
            cases hcontent : members.lookup "content" with
            | none => simp [hcontent] at h
            | some content =>
                simp only [hrole, hcontent, Option.map_some, Option.bind_some] at h
                obtain ⟨rfl, rfl⟩ := ofTree?_texts_iff.mp h
                exact .object ((Json.lookup_eq_some_iff_mem hnames).mp hrole)
                  ((Json.lookup_eq_some_iff_mem hnames).mp hcontent)
      · rintro ⟨hrole, hcontent⟩
        rw [(Json.lookup_eq_some_iff_mem hnames).mpr hrole,
          (Json.lookup_eq_some_iff_mem hnames).mpr hcontent]
        exact (ofTree?_texts_iff (m := ⟨_, _⟩)).mpr ⟨rfl, rfl⟩
  | array items =>
      rw [Tree.ofValue_array]
      constructor
      · intro h
        rcases items with _ | ⟨role, _ | ⟨content, _ | ⟨other, more⟩⟩⟩
        · contradiction
        · contradiction
        · obtain ⟨rfl, rfl⟩ := ofTree?_texts_iff.mp h
          exact .list m.role m.content
        · contradiction
      · intro h
        cases h with
        | list role content => exact (ofTree?_texts_iff (m := ⟨_, _⟩)).mpr ⟨rfl, rfl⟩
  | _ =>
      constructor
      · intro h
        contradiction
      · intro h
        cases h

theorem items?_ofValue_iff {v : Value} (hdistinct : v.Distinct) {ms : List Message} :
    (Tree.ofValue v).items? ofTree? = some ms ↔
      ∃ items, v = .array items ∧ List.Forall₂ Stands items ms := by
  cases v with
  | array items =>
      have hitems := Value.all_array_iff.mp hdistinct
      have hstands (R : Value → Message → Prop) : List.Forall₂ R items ms ↔
          List.Forall₂ (fun v m => v.Distinct ∧ R v m) items ms := by
        rw [List.forall₂_and_left]
        exact (and_iff_right hitems).symm
      have hread : (fun (v : Value) m => v.Distinct ∧ ofTree? (Tree.ofValue v) = some m) =
          fun v m => v.Distinct ∧ Stands v m :=
        funext fun v => funext fun m => propext (and_congr_right fun hv => ofTree?_ofValue_iff hv)
      rw [Tree.ofValue_array, Tree.items?, Json.Reader.mapM_eq_some_iff,
        List.forall₂_map_left_iff, hstands, hread, ← hstands]
      simp
  | _ => simp [Tree.ofValue, Tree.items?]

end Message

namespace ChatRequest

theorem number?_ofValue_iff {α : Type} {convert : Number → Option α} {v : Value}
    (hwhole : v.IsWhole) {a : α} :
    (Tree.ofValue v).number? convert = some a ↔ ∃ n, v = .number n ∧ convert n = some a := by
  cases v with
  | number n =>
      obtain ⟨w, rfl⟩ := Value.all_number_iff.mp hwhole
      rw [Tree.ofValue, Json.Writer.number, Tree.number?, Json.numberOf?_whole, Option.bind_some]
      simp
  | _ => simp [Tree.ofValue, Tree.number?]

theorem float_ofValue_iff {v : Value} (hwhole : v.IsWhole) {x : Float} :
    ((Tree.ofValue v).number? fun n => some n.toFloat) = some x ↔ SaysFloat v x := by
  rw [number?_ofValue_iff hwhole, SaysFloat]
  simp [eq_comm]

theorem toInt64_eq_some_iff {expected : String} {n : Number} {k : Int64} :
    (Json.Reader.toInt64 expected n).toOption = some k ↔
      ∃ w : Whole, n = .whole w ∧ w.toInt = k.toInt := by
  cases n with
  | float x => simp [Json.Reader.toInt64, Except.toOption]
  | whole w =>
      have hlower := w.lower
      simp only [Json.Reader.toInt64, Number.whole.injEq, exists_eq_left']
      split
      next hfits =>
        have hint : (Int64.ofInt w.toInt).toInt = w.toInt :=
          Int64.toInt_ofInt_of_le (by omega) (by omega)
        rw [← hint, Int64.toInt_inj, hint]
        exact Option.some_inj
      next hlarge =>
        have hupper := k.toInt_lt
        simp only [Except.toOption, reduceCtorEq, false_iff]
        omega

theorem integer_ofValue_iff {v : Value} (hwhole : v.IsWhole) {k : Int64} :
    ((Tree.ofValue v).number? fun n => (Json.Reader.toInt64 "i64" n).toOption) = some k ↔
      SaysInteger v k := by
  rw [number?_ofValue_iff hwhole, SaysInteger]
  simp only [toInt64_eq_some_iff]
  constructor
  · rintro ⟨n, rfl, w, rfl, hint⟩
    exact ⟨w, rfl, hint⟩
  · rintro ⟨w, rfl, hint⟩
    exact ⟨_, rfl, w, rfl, hint⟩

/-- A part that may be missing comes to what it says, or to the default. -/
theorem given?_ofValue_iff {α : Type} {f : Tree → Option α} {Says : Value → α → Prop}
    {v? : Option Value} (h : ∀ v ∈ v?, ∀ a, f (Tree.ofValue v) = some a ↔ Says v a)
    (default a : α) :
    (∃ a?, Tree.given? f (v?.map Tree.ofValue) = some a? ∧ a?.getD default = a) ↔
      Given Says default v? a := by
  cases v? with
  | none =>
      constructor
      · rintro ⟨a?, ha, rfl⟩
        obtain rfl := Option.some.inj ha
        exact .missing
      · intro hgiven
        cases hgiven with
        | missing => exact ⟨none, rfl, rfl⟩
  | some v =>
      constructor
      · rintro ⟨a?, ha, rfl⟩
        obtain ⟨a, hread, rfl⟩ := Option.map_eq_some_iff.mp ha
        exact .said ((h v rfl a).mp hread)
      · intro hgiven
        cases hgiven with
        | said hsays =>
            exact ⟨some a, Option.map_eq_some_iff.mpr ⟨a, (h v rfl a).mpr hsays, rfl⟩, rfl⟩

theorem ofParts_eq_iff {messages : List Message} {model : Option String}
    {temperature : Option Float} {maxTokens : Option Int64} {r : ChatRequest} :
    ofParts messages model temperature maxTokens = r ↔
      messages = r.messages ∧ model.getD "mistral-7b-instruct-v0.3" = r.model ∧
        temperature.getD 0.7 = r.temperature ∧ maxTokens.getD 500 = r.maxTokens := by
  obtain ⟨ms, s, x, k⟩ := r
  simp [ofParts]

/-- The parts of a written value come to the requests that the values ask for. -/
theorem request?_ofValue_iff {messages : Value} {model temperature maxTokens : Option Value}
    (hmessages : messages.Distinct) (htemperature : ∀ v ∈ temperature, v.IsWhole)
    (hmaxTokens : ∀ v ∈ maxTokens, v.IsWhole) {r : ChatRequest} :
    Parts.request? ⟨Tree.ofValue messages, model.map Tree.ofValue, temperature.map Tree.ofValue,
        maxTokens.map Tree.ofValue⟩ = some r ↔ AskedBy messages model temperature maxTokens r := by
  have hmodel := @given?_ofValue_iff _ Tree.text? SaysText model
    fun v _ s => Message.text?_ofValue_iff
  have hfloat := given?_ofValue_iff fun v hv x => float_ofValue_iff (htemperature v hv)
  have hinteger := given?_ofValue_iff fun v hv k => integer_ofValue_iff (hmaxTokens v hv)
  simp only [Parts.request?, Option.bind_eq_some_iff, Option.some.injEq, ofParts_eq_iff,
    Message.items?_ofValue_iff hmessages]
  constructor
  · rintro ⟨ms, hitems, s?, hs, x?, hx, k?, hk, rfl, hs', hx', hk'⟩
    exact ⟨hitems, (hmodel _ _).mp ⟨s?, hs, hs'⟩, (hfloat _ _).mp ⟨x?, hx, hx'⟩,
      (hinteger _ _).mp ⟨k?, hk, hk'⟩⟩
  · rintro ⟨hitems, hs, hx, hk⟩
    obtain ⟨s?, hs, hs'⟩ := (hmodel _ _).mpr hs
    obtain ⟨x?, hx, hx'⟩ := (hfloat _ _).mpr hx
    obtain ⟨k?, hk, hk'⟩ := (hinteger _ _).mpr hk
    exact ⟨_, hitems, s?, hs, x?, hx, k?, hk, rfl, hs', hx', hk'⟩

/-- The parts of a written object are its members. -/
theorem request?_ofValue_object_iff {members : List (String × Value)}
    (hdistinct : (Value.object members).Distinct) (hwhole : (Value.object members).IsWhole)
    {r : ChatRequest} :
    (parts? (Tree.ofValue (.object members))).bind Parts.request? = some r ↔
      Asks (.object members) r := by
  obtain ⟨hnames, hvalues⟩ := Value.all_object_iff.mp hdistinct
  have hmember (name : String) (v : Value) (hv : v ∈ members.lookup name) :
      v.Distinct ∧ v.IsWhole := by
    have hmem := (Json.lookup_eq_some_iff_mem hnames).mp hv
    exact ⟨hvalues _ hmem, (Value.all_object_iff.mp hwhole).2 _ hmem⟩
  rw [Tree.ofValue_object, parts?]
  simp only [Json.lookup_map]
  cases hmessages : members.lookup "messages" with
  | none =>
      refine iff_of_false (by simp) fun h => ?_
      cases h with
      | object hmessages' => simp [hmessages] at hmessages'
  | some messages =>
      rw [Option.map_some, Option.map_some, Option.bind_some,
        request?_ofValue_iff (hmember _ _ hmessages).1 (fun v hv => (hmember _ v hv).2)
          fun v hv => (hmember _ v hv).2]
      constructor
      · exact .object hmessages
      · intro h
        cases h with
        | object hmessages' h =>
            obtain rfl := Option.some.inj (hmessages.symm.trans hmessages')
            exact h

/-- The parts of a written list are its items. -/
theorem request?_ofValue_array_iff {items : List Value} (hdistinct : (Value.array items).Distinct)
    (hwhole : (Value.array items).IsWhole) {r : ChatRequest} :
    (parts? (Tree.ofValue (.array items))).bind Parts.request? = some r ↔
      Asks (.array items) r := by
  rw [Tree.ofValue_array]
  cases items with
  | nil =>
      refine iff_of_false (by simp [parts?]) fun h => ?_
      cases h
  | cons messages more =>
      have hmore (i : Nat) (v : Value) (hv : v ∈ more[i]?) : v.IsWhole :=
        Value.all_array_iff.mp hwhole v (List.mem_cons_of_mem _ (List.mem_of_getElem? hv))
      rw [List.map_cons, parts?, List.length_map]
      by_cases hlength : more.length ≤ 3
      · rw [if_pos hlength, Option.bind_some, List.getElem?_map, List.getElem?_map,
          List.getElem?_map, request?_ofValue_iff
            (Value.all_array_iff.mp hdistinct _ List.mem_cons_self) (hmore 1) (hmore 2)]
        constructor
        · exact .list hlength
        · intro h
          cases h with
          | list _ h => exact h
      · refine iff_of_false (by simp [hlength]) fun h => ?_
        cases h with
        | list hlength' _ => exact hlength hlength'

/-- **The parts of a written value** come to the requests that the value asks for. -/
theorem request?_ofValue_iff_asks {v : Value} (hdistinct : v.Distinct) (hwhole : v.IsWhole)
    {r : ChatRequest} :
    (parts? (Tree.ofValue v)).bind Parts.request? = some r ↔ Asks v r := by
  cases v with
  | object members => exact request?_ofValue_object_iff hdistinct hwhole
  | array items => exact request?_ofValue_array_iff hdistinct hwhole
  | _ =>
      refine iff_of_false (by simp [Tree.ofValue, parts?]) fun h => ?_
      cases h

/-! ## Written requests -/

/-- **Which requests are accepted.**  The compact text of a value, whose objects have no name
twice and whose numbers are integers of 64 bits, is decoded as a request exactly if the value
asks for it; if the value asks for none, the text is refused. -/
theorem decode_written_iff {v : Value} (hdistinct : v.Distinct) (hwhole : v.IsWhole) :
    (∀ r, decode (Utf8.bytes (Json.Writer.value v)) = .ok r ↔ Asks v r) ∧
      ((∀ r, ¬ Asks v r) → ∃ e, decode (Utf8.bytes (Json.Writer.value v)) = .error e) := by
  have hiff (r : ChatRequest) :
      decode (Utf8.bytes (Json.Writer.value v)) = .ok r ↔ Asks v r := by
    rw [← Json.Reader.toOption_eq_some_iff, decode,
      understands.decode (Json.spelledBody_value hwhole) (Tree.distinct_ofValue hdistinct),
      request?_ofValue_iff_asks hdistinct hwhole]
  refine ⟨hiff, fun hnone => ?_⟩
  cases h : decode (Utf8.bytes (Json.Writer.value v)) with
  | ok r => exact absurd ((hiff r).mp h) (hnone r)
  | error e => exact ⟨e, rfl⟩

/-- A request with a message in each form, and with members that are not asked for. -/
def mixedRequest : Value := .object [
  ("max_tokens", .number (.whole ⟨-5, by decide, by decide⟩)),
  ("stream", .bool true),
  ("messages", .array [
    .object [("content", .text "hi"), ("name", .null), ("role", .text "user")],
    .array [.text "assistant", .text "hello"]])]

theorem decode_mixedRequest :
    mixedRequest.Distinct ∧ mixedRequest.IsWhole ∧
      decode (Utf8.bytes (Json.Writer.value mixedRequest)) = .ok {
        messages := [⟨"user", "hi"⟩, ⟨"assistant", "hello"⟩]
        maxTokens := -5 } := by
  have hdistinct : mixedRequest.Distinct := by simp [mixedRequest, Value.Distinct]
  have hwhole : mixedRequest.IsWhole := by simp [mixedRequest, Value.IsWhole]
  refine ⟨hdistinct, hwhole, ((decode_written_iff hdistinct hwhole).1 _).mpr (.object rfl ?_)⟩
  exact {
    messages := ⟨_, rfl, .cons (.object (by simp) (by simp)) (.cons (.list _ _) .nil)⟩
    model := .missing
    temperature := .missing
    maxTokens := .said ⟨_, rfl, by decide⟩ }

end ChatRequest

end ChatGateway
