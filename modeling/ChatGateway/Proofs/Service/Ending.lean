import ChatGateway.Proofs.Relay.Answer
import ChatGateway.Proofs.Relay.Gate
import ChatGateway.Proofs.Report.Detail
import ChatGateway.Service.Routes

/-!
# How a request for a chat ends

There are three endings: the request is answered, the request is at fault, or the model
server is (`Ending`).  Two ways lead to a fault of the request.  Its body may not be taken
at all, and then there is one report, on the body as a whole.  Or it is taken and breaks
a rule, and then the reports are those of the check.  What goes wrong later is never
reported as a fault of the request, since `Relay.answer` puts everything down to the model
server.

A request whose body is taken is served like the body is relayed.  `serve_chat` puts all
of this together.
-/

namespace ChatGateway

open Json (Tree SpelledBody)

/-! ## Places of reports -/

/-- A place in the body of a request. -/
def Location.InBody (loc : Location) : Prop := loc.head? = some (.name "body")

theorem ChatRequest.inBody_of_mem_reports {r : ChatRequest} {e : FieldError}
    (he : e ∈ r.reports) : e.loc.InBody := by
  rcases List.mem_append.mp he with he | he
  · unfold countReports at he
    split at he
    · contradiction
    · rw [List.mem_singleton.mp he]
      rfl
  · obtain ⟨⟨m, index⟩, -, he⟩ := List.mem_flatMap.mp he
    obtain ⟨field, hloc⟩ := Message.exists_loc_of_mem_reports he
    rw [hloc]
    rfl

namespace Service

open Relay (reachableServer)

/-- A body that reports on fields of a request, in the order of their places. -/
structure ReportsOn (body : String) (fields : List FieldError) : Prop where
  ne_nil : fields ≠ []
  inBody : ∀ e ∈ fields, e.loc.InBody
  ordered : fields.Pairwise fun d e => d.loc.le e.loc
  spelled : SpelledBody (Utf8.bytes body)
    (.object [("detail", .array (fields.map FieldError.tree))])

/-- A body that says something in a text. -/
def States (body text : String) : Prop :=
  SpelledBody (Utf8.bytes body) (.object [("detail", .text text)])

theorem reportsOn_check {r : ChatRequest} (h : ¬ r.Admissible) :
    ReportsOn (Failure.invalid r.reports).body r.reports where
  ne_nil hnil := h (r.reports_eq_nil_iff.mp hnil)
  inBody _ he := ChatRequest.inBody_of_mem_reports he
  ordered := r.reports_pairwise.imp Location.le_of_compare_lt
  spelled := Failure.spelledBody_body _

theorem reportsOn_fault (fault : BodyFault) :
    ReportsOn fault.toFailure.body [⟨Location.body, fault.message, fault.kind⟩] where
  ne_nil := List.cons_ne_nil _ _
  inBody e he := by
    rw [List.mem_singleton.mp he]
    rfl
  ordered := List.pairwise_singleton _ _
  spelled := Failure.spelledBody_body _

/-! ## Taking in a request -/

/-- The body of the request is announced as JSON, is not longer than it may be, whatever
was announced, and decodes. -/
structure HttpRequest.Takes (r : HttpRequest) (request : ChatRequest) : Prop where
  json : r.isJson = true
  announced : ∀ length ∈ r.announcedLength?, length ≤ HttpRequest.bodyLimit
  received : r.body.length ≤ HttpRequest.bodyLimit
  decoded : ChatRequest.decode r.body = .ok request

theorem HttpRequest.chatRequest_eq_ok_iff {r : HttpRequest} {request : ChatRequest} :
    r.chatRequest = .ok request ↔ r.Takes request := by
  have hannounced : r.announcedLength?.getD 0 ≤ bodyLimit ↔
      ∀ length ∈ r.announcedLength?, length ≤ bodyLimit := by
    cases r.announcedLength? <;> simp
  constructor
  · intro h
    unfold chatRequest at h
    split at h
    · contradiction
    next hjson =>
      simp only at h
      split at h
      · contradiction
      next hlength =>
        split at h
        · contradiction
        next hbody =>
          cases hdecode : ChatRequest.decode r.body with
          | error e => simp [hdecode] at h
          | ok request' =>
              simp only [hdecode, Except.ok.injEq] at h
              subst h
              refine ⟨by simpa using hjson, hannounced.mp (Nat.le_of_not_lt hlength),
                Nat.le_of_not_lt hbody, hdecode⟩
  · rintro ⟨hjson, hlength, hbody, hdecode⟩
    have hlength' := Nat.not_lt_of_le (hannounced.mpr hlength)
    have hbody' := Nat.not_lt_of_le hbody
    simp [chatRequest, hjson, hlength', hbody', hdecode]

/-- A post to `/chat` is a request for a chat, whatever its headers and its body are. -/
theorem HttpRequest.route?_chat (headers : List (String × String)) (body : List UInt8) :
    HttpRequest.route? ⟨"POST", "/chat", headers, body⟩ = some .chat := by
  have hroute : HttpRequest.route? ⟨"POST", "/chat", [], []⟩ = some .chat := by rfl
  exact hroute

/-! ## The endings -/

/-- The three ways in which a request for a chat may end. -/
inductive Ending (server : ModelServer) (replies : List Exchange.Reply) (r : HttpRequest) :
    Served → Prop where
  | answered {served : Served} {request : ChatRequest} {response : ChatResponse}
      (htakes : r.Takes request) (hcheck : request.check = .ok ())
      (hresult : (Relay.handle server replies request).result = .ok response)
      (hanswer : served.answer = .json 200 response.toJson) : Ending server replies r served
  | faulty {served : Served} {fields : List FieldError}
      (hstatus : served.answer.status = 422) (hbody : ReportsOn served.answer.body fields)
      (hcalls : served.calls = []) : Ending server replies r served
  | unanswered {served : Served} {request : ChatRequest} {text : String}
      (htakes : r.Takes request) (hcheck : request.check = .ok ())
      (hresult : (Relay.handle server replies request).result = .error (.unanswered text))
      (hstatus : served.answer.status = 500) (hbody : States served.answer.body text) :
      Ending server replies r served

section

variable (server : ModelServer) (replies : List Exchange.Reply)

theorem serveChat_of_takes {r : HttpRequest} {request : ChatRequest} (h : r.Takes request) :
    serveChat server replies r =
      ⟨.ofResult (Relay.handle server replies request).result,
        (Relay.handle server replies request).calls,
        (Relay.handle server replies request).log⟩ := by
  rw [serveChat, HttpRequest.chatRequest_eq_ok_iff.mpr h]

theorem exists_fault {r : HttpRequest} (h : ∀ request, ¬ r.Takes request) :
    ∃ fault : BodyFault,
      serveChat server replies r = { answer := .ofFailure fault.toFailure } := by
  cases hrequest : r.chatRequest with
  | error fault => exact ⟨fault, by rw [serveChat, hrequest]⟩
  | ok request => exact absurd (HttpRequest.chatRequest_eq_ok_iff.mp hrequest) (h request)

/-- A request that is taken is answered, or it breaks a rule, or the model server gives no
usable answer. -/
theorem ending_of_takes {r : HttpRequest} {request : ChatRequest} (h : r.Takes request) :
    Ending server replies r (serveChat server replies r) := by
  rw [serveChat_of_takes server replies h]
  by_cases hadmissible : request.Admissible
  · have hcheck := ChatRequest.check_of_admissible hadmissible
    cases hresult : (Relay.handle server replies request).result with
    | ok response => exact .answered h hcheck hresult rfl
    | error failure =>
        -- the request has been sent, so the failure cannot be one of the request
        have hanswer := hresult
        rw [Relay.handle_of_admissible hadmissible] at hanswer
        obtain ⟨text, rfl⟩ := Relay.exists_unanswered hanswer
        exact .unanswered h hcheck hresult rfl (Failure.spelledBody_body _)
  · rw [Relay.handle_of_not_admissible hadmissible]
    exact .faulty rfl (reportsOn_check hadmissible) rfl

theorem ending_serveChat (r : HttpRequest) :
    Ending server replies r (serveChat server replies r) := by
  by_cases h : ∃ request, r.Takes request
  · obtain ⟨request, hrequest⟩ := h
    exact ending_of_takes server replies hrequest
  · obtain ⟨fault, hfault⟩ := exists_fault server replies (not_exists.mp h)
    rw [hfault]
    exact .faulty rfl (reportsOn_fault fault) rfl

/-- Whatever is not an answer has the body of a failure. -/
theorem exists_failure {r : HttpRequest} (h : (serveChat server replies r).answer.status ≠ 200) :
    ∃ failure : Failure, (serveChat server replies r).answer = .ofFailure failure := by
  by_cases htakes : ∃ request, r.Takes request
  · obtain ⟨request, hrequest⟩ := htakes
    rw [serveChat_of_takes server replies hrequest] at h ⊢
    cases hresult : (Relay.handle server replies request).result with
    | ok response =>
        rw [hresult] at h
        exact absurd rfl h
    | error failure => exact ⟨failure, rfl⟩
  · obtain ⟨fault, hfault⟩ := exists_fault server replies (not_exists.mp htakes)
    exact ⟨fault.toFailure, by rw [hfault]⟩

/-- **How a request for a chat ends.**  There are three endings.  If the body is taken,
the request is served like the body is relayed, and otherwise there is one report, on the
body as a whole, nothing is called and nothing is logged.  Whatever is read from a body
with another status than 200, there is only `detail` in it. -/
theorem serve_chat {r : HttpRequest} (hroute : r.route? = some .chat) :
    Ending server replies r (serve server replies r) ∧
    ((∃ request, r.Takes request) → ∃ outcome,
      Relay.handleBody server replies r.body = .ok outcome ∧
        serve server replies r = ⟨.ofResult outcome.result, outcome.calls, outcome.log⟩) ∧
    ((∀ request, ¬ r.Takes request) → ∃ msg kind,
      (serve server replies r).answer.status = 422 ∧
        ReportsOn (serve server replies r).answer.body [⟨Location.body, msg, kind⟩] ∧
        (serve server replies r).calls = [] ∧ (serve server replies r).log = []) ∧
    ((serve server replies r).answer.status ≠ 200 → ∀ t,
      SpelledBody (Utf8.bytes (serve server replies r).answer.body) t →
        ∃ content, t = .object [("detail", content)]) := by
  have hserve : serve server replies r = serveChat server replies r := by
    rw [serve, hroute]
  rw [hserve]
  refine ⟨ending_serveChat server replies r, ?_, ?_, ?_⟩
  · rintro ⟨request, hrequest⟩
    exact ⟨_, Relay.handleBody_of_decode_ok hrequest.decoded server replies,
      serveChat_of_takes server replies hrequest⟩
  · intro hnone
    obtain ⟨fault, hfault⟩ := exists_fault server replies hnone
    rw [hfault]
    exact ⟨fault.message, fault.kind, rfl, reportsOn_fault fault, rfl, rfl⟩
  · intro hstatus t ht
    obtain ⟨failure, hfailure⟩ := exists_failure server replies hstatus
    rw [hfailure] at ht
    exact Failure.eq_detail ht

end

/-- A request whose announced length is not the true one. -/
def misannounced : HttpRequest where
  method := "POST"
  target := "/chat"
  headers := [("Content-Type", "application/json; charset=utf-8"), ("Content-Length", " 7 ")]
  body := Utf8.bytes
    "\x7b\"messages\":[\x7b\"role\":\"user\",\"content\":\"hi\"\x7d]\x7d"

/-- The request is taken, and the reply to it is refused for what its body is. -/
theorem serve_misannounced :
    misannounced.route? = some .chat ∧
      (serve reachableServer [{ body := Utf8.bytes "[]" }] misannounced).answer.status = 500 ∧
      Ending reachableServer [{ body := Utf8.bytes "[]" }] misannounced
        (serve reachableServer [{ body := Utf8.bytes "[]" }] misannounced) := by
  have hroute : misannounced.route? = some .chat := HttpRequest.route?_chat _ _
  have hstatus :
      (serve reachableServer [{ body := Utf8.bytes "[]" }] misannounced).answer.status = 500 := by
    decide +kernel
  exact ⟨hroute, hstatus, (serve_chat reachableServer _ hroute).1⟩

end Service

end ChatGateway
