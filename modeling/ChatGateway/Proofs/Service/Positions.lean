import ChatGateway.Proofs.Json.Located.Record
import ChatGateway.Proofs.Service.Ending

/-!
# Where a body is refused

A body that does not decode is refused with a place, in whatever way it is wrong.  The
readers leave the end of the body unread, so the place is the one behind the bytes before
it: its line is told by the line feeds among these, and its column by what stands behind the
last of them (`Json.Position.after_eq`).  A client who is answered 422 for such a body is
told this place (`refusals_point_into_body`).

Normalizing a reply reads no bytes.  Its refusals end in words, and never in a number, so
none of them can be taken for one with a place (`Completion.Reply.endsInWords_of_normalize`).
-/

namespace ChatGateway

/-! ## Places -/

namespace Json

/-- The byte that ends a line. -/
def lineFeed : UInt8 := 0x0A

/-- The bytes behind the last line feed. -/
def lastLine (bytes : List UInt8) : List UInt8 := bytes.rtakeWhile (· != lineFeed)

/-- The words for a place. -/
def placeWords (line column : Nat) : String :=
  " at line " ++ toString line ++ " column " ++ toString column

/-- The words for the place behind the bytes. -/
def placeBehind (bytes : List UInt8) : String :=
  placeWords (bytes.count lineFeed + 1) (lastLine bytes).length

theorem Position.next_eq (p : Position) (b : UInt8) :
    p.next b = if b = lineFeed then ⟨p.line + 1, 0⟩ else ⟨p.line, p.column + 1⟩ := rfl

theorem Position.after_append (bytes : List UInt8) (b : UInt8) :
    Position.after (bytes ++ [b]) = (Position.after bytes).next b := by
  rw [Position.after, Position.after, List.foldl_append]
  rfl

theorem lastLine_append (bytes : List UInt8) (b : UInt8) :
    lastLine (bytes ++ [b]) = if b = lineFeed then [] else lastLine bytes ++ [b] := by
  rw [lastLine, List.rtakeWhile_concat]
  by_cases hb : b = lineFeed
  · simp [hb]
  · simp [hb, lastLine]

/-- The line counts the line feeds, and the column counts what stands behind the last one. -/
theorem Position.after_eq (bytes : List UInt8) :
    Position.after bytes = ⟨bytes.count lineFeed + 1, (lastLine bytes).length⟩ := by
  induction bytes using List.reverseRecOn with
  | nil => rfl
  | append_singleton bytes b ih =>
      rw [after_append, ih, next_eq, lastLine_append, List.count_append]
      by_cases hb : b = lineFeed
      · simp only [hb, if_true, List.count_singleton_self, List.length_nil]
      · have hnone : [b].count lineFeed = 0 :=
          List.count_eq_zero_of_not_mem (by simpa using Ne.symm hb)
        rw [if_neg hb, if_neg hb, hnone, List.length_append]
        rfl

/-- **A body is refused at a place in it**, by a reader that keeps to what it reads. -/
theorem exists_place_of_decode {α : Type} {reader : Reader α} (hreader : Reader.Keeps reader)
    {body : List UInt8} {e : DecodeError} (h : decode reader body = .error e) :
    ∃ fault read, reader.entire body = .error fault ∧ body = read ++ fault.unread ∧
      e.message = fault.cause.message ++ placeBehind read := by
  unfold decode at h
  split at h
  next fault hentire =>
    obtain ⟨read, hbody⟩ := Reader.suffix_of_entire hreader hentire
    have htake : body.take (body.length - fault.unread.length) = read := by
      rw [← hbody, List.length_append, Nat.add_sub_cancel, List.take_left]
    obtain rfl := Except.error.inj h
    refine ⟨fault, read, hentire, hbody.symm, ?_⟩
    simp only [Fault.locate, htake, DecodeError.message, Position.after_eq, placeBehind,
      placeWords, String.append_assoc]
  · contradiction

end Json

/-! ## Requests -/

theorem Message.keeps_reader : Json.Reader.Keeps Message.reader := by
  refine Json.Reader.Record.keeps_reader fun field hfield draft => ?_
  have hcases : field ∈ Message.record.fields := hfield
  simp only [Message.record, List.mem_cons, List.not_mem_nil, or_false] at hcases
  rcases hcases with rfl | rfl
  · exact Json.Reader.keeps_map Json.Reader.keeps_string _
  · exact Json.Reader.keeps_map Json.Reader.keeps_string _

theorem ChatRequest.keeps_reader : Json.Reader.Keeps ChatRequest.reader := by
  refine Json.Reader.Record.keeps_reader fun field hfield draft => ?_
  have hcases : field ∈ ChatRequest.record.fields := hfield
  simp only [ChatRequest.record, List.mem_cons, List.not_mem_nil, or_false] at hcases
  rcases hcases with rfl | rfl | rfl | rfl
  · exact Json.Reader.keeps_map (Json.Reader.keeps_list Message.keeps_reader) _
  · exact Json.Reader.keeps_map Json.Reader.keeps_string _
  · exact Json.Reader.keeps_map (Json.Reader.keeps_numberOf _ _) _
  · exact Json.Reader.keeps_map (Json.Reader.keeps_numberOf _ _) _

/-! ## Normalizing -/

namespace Text

/-- The text ends in words for a place. -/
def EndsInPlace (text : String) : Prop :=
  ∃ before line column, text = before ++ Json.placeWords line column

/-- The last character of the text is no digit. -/
def EndsInWords (text : String) : Prop := ∃ c ∈ text.toList.getLast?, c.isDigit = false

theorem EndsInWords.append {text : String} (h : EndsInWords text) (before : String) :
    EndsInWords (before ++ text) := by
  obtain ⟨c, hlast, hdigit⟩ := h
  have hne : text.toList ≠ [] := List.ne_nil_of_mem (List.mem_of_getLast? hlast)
  refine ⟨c, ?_, hdigit⟩
  rw [String.toList_append, List.getLast?_append_of_ne_nil _ hne]
  exact hlast

theorem not_endsInWords_toString (n : Nat) : ¬ EndsInWords (toString n) := by
  rintro ⟨c, hlast, hdigit⟩
  have hmem := List.mem_of_getLast? hlast
  rw [Nat.toString_eq_ofList_toDigits, String.toList_ofList] at hmem
  have hisDigit := Nat.isDigit_of_mem_toDigits (by decide) (by decide) hmem
  rw [hisDigit] at hdigit
  contradiction

/-- What ends in words does not end in the number of a column. -/
theorem EndsInWords.not_endsInPlace {text : String} (h : EndsInWords text) :
    ¬ EndsInPlace text := by
  rintro ⟨before, line, column, rfl⟩
  obtain ⟨c, hlast, hdigit⟩ := h
  have hne : (toString column).toList ≠ [] := by
    rw [Nat.toString_eq_ofList_toDigits, String.toList_ofList]
    exact Nat.toDigits_ne_nil
  refine not_endsInWords_toString column ⟨c, ?_, hdigit⟩
  rw [Json.placeWords, ← String.append_assoc, String.toList_append,
    List.getLast?_append_of_ne_nil _ hne] at hlast
  exact hlast

end Text

namespace Completion.Reply

open Json (Cause Value)
open Text (EndsInWords)

/-- Whatever a value is refused with ends in words. -/
def RefusesInWords {α : Type} (read : Value → Except Cause α) : Prop :=
  ∀ {v cause}, read v = .error cause → EndsInWords cause.message

theorem refusesInWords_asText : RefusesInWords asText := by
  intro v cause h
  unfold asText at h
  split at h
  · contradiction
  · obtain rfl := Except.error.inj h
    exact EndsInWords.append ⟨'g', by decide, by decide⟩ _

theorem refusesInWords_onlyField {α : Type} {title field : String}
    {read : Value → Except Cause α} (htitle : EndsInWords title) (hread : RefusesInWords read) :
    RefusesInWords (onlyField title field read) := by
  intro v cause h
  unfold onlyField at h
  split at h
  · split at h
    · obtain rfl := Except.error.inj h
      exact EndsInWords.append ⟨'`', by decide, by decide⟩ _
    · exact hread h
  · obtain rfl := Except.error.inj h
    exact EndsInWords.append (EndsInWords.append ⟨'t', by decide, by decide⟩ title) _
  · split at h
    next cause' hfirst =>
      obtain rfl := Except.error.inj h
      exact hread hfirst
    · split at h
      · contradiction
      · obtain rfl := Except.error.inj h
        exact EndsInWords.append ⟨'y', by decide, by decide⟩ _
  · obtain rfl := Except.error.inj h
    exact htitle.append _

theorem refusesInWords_choiceText : RefusesInWords choiceText :=
  refusesInWords_onlyField ⟨'e', by decide, by decide⟩
    (refusesInWords_onlyField ⟨'e', by decide, by decide⟩ refusesInWords_asText)

/-- A reply that is not normalized is refused in words, without a place. -/
theorem endsInWords_of_normalize {reply : Reply} {failure : Failure}
    (h : reply.normalize = .error failure) :
    ∃ text, failure = .unanswered text ∧ EndsInWords text := by
  unfold normalize at h
  split at h
  · exact ⟨_, (Except.error.inj h).symm, 's', by decide, by decide⟩
  · split at h
    next cause hchoice =>
      exact ⟨_, (Except.error.inj h).symm, refusesInWords_choiceText hchoice⟩
    · contradiction

end Completion.Reply

namespace Service

open Relay (reachableServer)

/-! ## Answers -/

/-- The body of the request is announced as JSON, and is not longer than it may be, whatever
was announced. -/
structure HttpRequest.Arrives (r : HttpRequest) : Prop where
  json : r.isJson = true
  announced : ∀ length ∈ r.announcedLength?, length ≤ HttpRequest.bodyLimit
  received : r.body.length ≤ HttpRequest.bodyLimit

theorem HttpRequest.Arrives.chatRequest {r : HttpRequest} (h : r.Arrives) {e : Json.DecodeError}
    (hdecode : ChatRequest.decode r.body = .error e) : r.chatRequest = .error (.undecodable e) := by
  have hannounced : ¬ bodyLimit < r.announcedLength?.getD 0 := by
    have hlength := h.announced
    cases hannounce : r.announcedLength? with
    | none => exact Nat.not_lt_zero _
    | some length => exact Nat.not_lt_of_le (hlength length hannounce)
  have hreceived : ¬ bodyLimit < r.body.length := Nat.not_lt_of_le h.received
  simp only [HttpRequest.chatRequest, h.json, hannounced, hreceived, hdecode, Bool.not_true,
    Bool.false_eq_true, if_false]

theorem serve_undecodable (server : ModelServer) (replies : List Exchange.Reply)
    {r : HttpRequest} {e : Json.DecodeError} (hroute : r.route? = some .chat)
    (harrives : r.Arrives) (hdecode : ChatRequest.decode r.body = .error e) :
    serve server replies r = { answer := .ofFailure (BodyFault.undecodable e).toFailure } := by
  rw [serve, hroute]
  simp only [serveChat, harrives.chatRequest hdecode]

/-- The one report on a body that does not decode. -/
def undecodableReport (message : String) : FieldError :=
  ⟨Location.body, "Json deserialize error: " ++ message, "value_error"⟩

/-- **Refusals of a body point into it.**  Whatever is wrong with a body that does not
decode, its refusal ends in the place behind the bytes that had been read, and what was left
unread is the rest of the body.  A client who sends such a body is told this place in the
only report of the answer.  Normalizing a reply is never refused with a place. -/
theorem refusals_point_into_body :
    (∀ body e, ChatRequest.decode body = .error e →
      ∃ fault read, ChatRequest.reader.entire body = .error fault ∧ body = read ++ fault.unread ∧
        e.message = fault.cause.message ++ Json.placeBehind read) ∧
    (∀ server replies (r : HttpRequest) e, r.route? = some .chat → r.Arrives →
      ChatRequest.decode r.body = .error e →
      ∃ fault read, ChatRequest.reader.entire r.body = .error fault ∧
        r.body = read ++ fault.unread ∧ (serve server replies r).answer.status = 422 ∧
        ReportsOn (serve server replies r).answer.body
          [undecodableReport (fault.cause.message ++ Json.placeBehind read)]) ∧
    (∀ (reply : Completion.Reply) failure, reply.normalize = .error failure →
      ∃ text, failure = .unanswered text ∧ ¬ Text.EndsInPlace text) := by
  refine ⟨?_, ?_, ?_⟩
  · intro body e hdecode
    exact Json.exists_place_of_decode ChatRequest.keeps_reader hdecode
  · intro server replies r e hroute harrives hdecode
    obtain ⟨fault, read, hentire, hbody, hmessage⟩ :=
      Json.exists_place_of_decode ChatRequest.keeps_reader hdecode
    have hserve := serve_undecodable server replies hroute harrives hdecode
    have hreports : ReportsOn (BodyFault.undecodable e).toFailure.body
        [undecodableReport e.message] := reportsOn_fault (.undecodable e)
    rw [hserve]
    rw [hmessage] at hreports
    exact ⟨fault, read, hentire, hbody, rfl, hreports⟩
  · intro reply failure hnormalize
    obtain ⟨text, hfailure, hwords⟩ := Completion.Reply.endsInWords_of_normalize hnormalize
    exact ⟨text, hfailure, hwords.not_endsInPlace⟩

/-- A request with a number where a message should stand, in the second line of its body. -/
def misplacedNumber : HttpRequest where
  method := "POST"
  target := "/chat"
  headers := [("Content-Type", "application/json")]
  body := Utf8.bytes "\x7b\"messages\":\n [7]\x7d"

/-- A reply without choices. -/
def withoutChoices : Completion.Reply where
  choices := []
  usage := none
  model := none
  created := none

/-- The number is pointed at, and the reply is refused without a place. -/
theorem refusals_point_into_body_misplacedNumber :
    ∃ e failure, ChatRequest.decode misplacedNumber.body = .error e ∧
      misplacedNumber.route? = some .chat ∧ misplacedNumber.Arrives ∧
      withoutChoices.normalize = .error failure ∧
      (∃ (fault : Json.Fault) (read : List UInt8), misplacedNumber.body = read ++ fault.unread ∧
        e.message = fault.cause.message ++ Json.placeBehind read) ∧
      (serve reachableServer [] misplacedNumber).answer.status = 422 ∧
      (serve reachableServer [] misplacedNumber).answer.body =
        "\x7b\"detail\":[\x7b\"loc\":[\"body\"]," ++
        "\"msg\":\"Json deserialize error: invalid type: integer `7`, expected struct " ++
        "ChatMessage at line 2 column 3\",\"type\":\"value_error\"\x7d]\x7d" ∧
      ∃ text, failure = .unanswered text ∧ ¬ Text.EndsInPlace text := by
  have hrefused : (ChatRequest.decode misplacedNumber.body).toOption.isNone = true := by
    decide +kernel
  have hroute : misplacedNumber.route? = some .chat := HttpRequest.route?_chat _ _
  have hannounced : misplacedNumber.announcedLength? = none := by decide +kernel
  have harrives : misplacedNumber.Arrives :=
    ⟨by decide +kernel, by simp [hannounced], by decide +kernel⟩
  obtain ⟨e, hdecode⟩ :=
    Json.Reader.toOption_eq_none_iff.mp (Option.isNone_iff_eq_none.mp hrefused)
  obtain ⟨hbody, hanswer, hnormalize⟩ := refusals_point_into_body
  obtain ⟨fault, read, -, hread, hmessage⟩ := hbody _ e hdecode
  obtain ⟨-, -, -, -, hstatus, -⟩ := hanswer reachableServer [] _ e hroute harrives hdecode
  exact ⟨e, _, hdecode, hroute, harrives, rfl, ⟨fault, read, hread, hmessage⟩, hstatus,
    by decide +kernel, hnormalize withoutChoices _ rfl⟩

end Service

end ChatGateway
