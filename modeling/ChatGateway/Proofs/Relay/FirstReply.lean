import ChatGateway.Proofs.Relay.Once
import ChatGateway.Proofs.Relay.Success

/-!
# What the first reply comes to

Where the first reply is not followed elsewhere, it alone settles what an admissible
request comes to (`first_reply_settles`).  A reply from 200 to 299 that arrives as a whole
gives what its body gives when it is decoded and normalized.  An error status, a closed
connection, a body cut short and an answer that is late all leave the request unanswered,
and a valid reply in the body does not help.  Whatever goes wrong after the check is never
put down to the request, and is said in words.
-/

namespace ChatGateway

/-- Where nothing stands, there is no reply. -/
theorem Completion.Reply.decode_nil : ∃ failure, decode [] = .error failure := ⟨_, rfl⟩

namespace Exchange

/-! ## A reply that is not followed -/

theorem Step.next?_eq_none_of_status {reply : Reply} (h : reply.status < 300) (idna : Url.Idna)
    (step : Step) : step.next? idna reply = none := by
  cases hnext : step.next? idna reply with
  | none => rfl
  | some next =>
      rcases (Step.followedBy_of_next? hnext).asked with ⟨hget, -, -⟩ | ⟨hrepeat, -, -⟩
      · simp only [Status.asksToGet, Bool.or_eq_true, beq_iff_eq] at hget
        omega
      · simp only [Status.asksToRepeat, Bool.or_eq_true, beq_iff_eq] at hrepeat
        omega

variable {network : Network} {redirects time : Nat} {step : Step} {replies : List Reply}
  {reply : Reply}

theorem ClosedBy.connected (h : ClosedBy network redirects time step replies reply) :
    network.connect step.url = none := by
  cases h with
  | first hconnected => exact hconnected
  | onward hconnected => exact hconnected

/-- An exchange that is not sent on is closed by its first reply, or by none. -/
theorem ClosedBy.eq_nextReply (h : ClosedBy network redirects time step replies reply)
    (hstays : ¬ ∃ target, SendsOn network time step.url (nextReply replies) target) :
    reply = nextReply replies ∧ reply.delay < time ∧ reply.Answers := by
  cases h with
  | first _ hintime hanswers _ => exact ⟨rfl, hintime, hanswers⟩
  | @onward _ _ _ next _ _ _ honward hmore =>
      exact absurd ⟨next.url, sendsOn_iff.mpr ⟨next, honward, rfl, hmore.connected⟩⟩ hstays

end Exchange

namespace Relay

open Exchange (Reply Callable SendsOn nextReply plainUrl)

variable {server : ModelServer} {replies : List Reply} {r : ChatRequest}

/-- The first reply arrives: the model server can be called, and answers in time and with
the whole of its body. -/
structure Arrives (server : ModelServer) (reply : Reply) : Prop where
  callable : Callable server.network (plainUrl server.url)
  inTime : reply.delay < server.timeout
  answered : reply.hangsUp = false
  whole : reply.missingBytes = 0

/-- What makes a first reply worthless: an error status, a connection that is closed without
an answer, a body shorter than announced, or an answer that is late. -/
inductive Worthless (server : ModelServer) (reply : Reply) : Prop where
  | badStatus (h : 400 ≤ reply.status ∧ reply.status < 600)
  | hungUp (h : reply.hangsUp)
  | cutShort (h : 0 < reply.missingBytes)
  | late (h : server.timeout ≤ reply.delay)

/-! ## The two ways it goes -/

theorem isUnanswered_of_handle_error (hr : r.Admissible) {failure : Failure}
    (h : (handle server replies r).result = .error failure) : failure.IsUnanswered := by
  rw [handle_of_admissible hr] at h
  exact isUnanswered_of_answer_error h

/-- A first reply that arrives with a status from 200 to 299 closes the exchange. -/
theorem Arrives.closedBy (h : Arrives server (nextReply replies))
    (hstatus : 200 ≤ (nextReply replies).status ∧ (nextReply replies).status < 300)
    (r : ChatRequest) : ClosedBy server replies r (nextReply replies) :=
  ⟨⟨h.callable.allowed, h.callable.requestable⟩,
    .first h.callable.connected h.inTime ⟨h.answered, by omega⟩
      (Exchange.Step.next?_eq_none_of_status hstatus.2 _ _)⟩

theorem Arrives.result_eq (h : Arrives server (nextReply replies)) (hr : r.Admissible)
    (hstatus : 200 ≤ (nextReply replies).status ∧ (nextReply replies).status < 300) :
    (handle server replies r).result =
      Completion.Reply.decode (nextReply replies).content >>= Completion.Reply.normalize := by
  have haccepted : (nextReply replies).Accepted := ⟨by omega, Or.inl h.whole⟩
  have hbody : (exchangeOf server replies r).result = .ok (nextReply replies).content :=
    Exchange.post_result_eq_ok_iff.mpr ⟨_, h.closedBy hstatus r, haccepted, rfl⟩
  rw [handle_of_admissible hr, ← answer_ok, ← hbody]

/-- A worthless reply that is not followed gives no response: it is not accepted, or its
status leaves it without a body. -/
theorem Worthless.not_ok (h : Worthless server (nextReply replies)) (hr : r.Admissible)
    (hstays : ¬ Redirects server replies) (response : ChatResponse) :
    (handle server replies r).result ≠ .ok response := by
  intro hok
  obtain ⟨reply, ⟨⟨hallowed, hfits⟩, hclosed⟩, haccepted, hanswer⟩ :=
    (handle_result_eq_ok_iff hr).mp hok
  have hcallable : Callable server.network (plainUrl server.url) :=
    ⟨hallowed, hfits, hclosed.connected⟩
  obtain ⟨rfl, hintime, hanswers⟩ :=
    hclosed.eq_nextReply fun hsends => hstays ⟨hcallable, hsends⟩
  cases h with
  | badStatus h =>
      have hstatus := haccepted.status
      omega
  | hungUp h => simp [hanswers.answered] at h
  | cutShort h =>
      rcases haccepted.whole with hwhole | hnone
      · omega
      -- nothing is missed of a body that is never sent, but nothing is there to decode
      · have hempty : (nextReply replies).content = [] := if_pos hnone
        obtain ⟨failure, hdecode⟩ := Completion.Reply.decode_nil
        rw [hempty, answer_ok, hdecode] at hanswer
        contradiction
  | late h => omega

/-- **What the first reply comes to.**  Let a request pass the check.  If its first reply is
not followed elsewhere, the request comes to what the body of that reply gives, when it
arrives with a status from 200 to 299, and is unanswered when the reply is worthless.
Whatever the replies, a failure is put down to the model server and said in words. -/
theorem first_reply_settles {r : ChatRequest} (hr : r.check = .ok ()) (server : ModelServer)
    (replies : List Reply) :
    (¬ Redirects server replies →
      (Arrives server (nextReply replies) → 200 ≤ (nextReply replies).status →
        (nextReply replies).status < 300 →
        (handle server replies r).result =
          Completion.Reply.decode (nextReply replies).content >>= Completion.Reply.normalize) ∧
      (Worthless server (nextReply replies) →
        ∃ text, text ≠ "" ∧ (handle server replies r).result = .error (.unanswered text))) ∧
    ∀ failure, (handle server replies r).result = .error failure →
      ∃ text, text ≠ "" ∧ failure = .unanswered text := by
  have hadmissible : r.Admissible := (ChatRequest.check_eq_ok_iff r).mp hr
  refine ⟨fun hstays => ⟨fun harrives hlow hhigh => ?_, fun hworthless => ?_⟩,
    fun failure => isUnanswered_of_handle_error hadmissible⟩
  · exact harrives.result_eq hadmissible ⟨hlow, hhigh⟩
  · cases hresult : (handle server replies r).result with
    | ok response => exact absurd hresult (hworthless.not_ok hadmissible hstays response)
    | error failure =>
        obtain ⟨text, htext, rfl⟩ := isUnanswered_of_handle_error hadmissible hresult
        exact ⟨text, htext, rfl⟩

/-- A completion, sent with a status. -/
def completionWith (status : Nat) : Reply := {
  status := status
  body := Utf8.bytes
    "\x7b\"choices\":[\x7b\"message\":\x7b\"content\":\"hi\"\x7d\x7d]\x7d" }

theorem not_redirects_completionWith {status : Nat} (h : status < 300 ∨ 400 ≤ status) :
    ¬ Redirects reachableServer [completionWith status] := by
  rintro ⟨-, target, hsends⟩
  have hstatus := hsends.redirection
  simp only [nextReply, List.headD_cons, completionWith, Exchange.Status.asksToGet,
    Exchange.Status.asksToRepeat, Bool.or_eq_true, beq_iff_eq] at hstatus
  omega

/-- The same completion answers a request with one status, and does not with another. -/
theorem first_reply_settles_by_status :
    ChatRequest.check { messages := [{ role := "user", content := "hi" }] } = .ok () ∧
      ¬ Redirects reachableServer [completionWith 201] ∧
      Arrives reachableServer (completionWith 201) ∧
      (∃ response, (handle reachableServer [completionWith 201]
        { messages := [{ role := "user", content := "hi" }] }).result = .ok response ∧
          response.response = "hi") ∧
      Worthless reachableServer (completionWith 503) ∧
      ∃ text, text ≠ "" ∧ (handle reachableServer [completionWith 503]
        { messages := [{ role := "user", content := "hi" }] }).result =
          .error (.unanswered text) := by
  have hcheck : ChatRequest.check { messages := [{ role := "user", content := "hi" }] } = .ok () :=
    ChatRequest.check_of_admissible (by decide +kernel)
  have harrives : Arrives reachableServer (completionWith 201) :=
    ⟨⟨by decide +kernel, by decide +kernel, by decide +kernel⟩, by decide, rfl, rfl⟩
  have hworthless : Worthless reachableServer (completionWith 503) := .badStatus (by decide)
  have hgood : ¬ Redirects reachableServer [completionWith 201] :=
    not_redirects_completionWith (by decide)
  have hbad : ¬ Redirects reachableServer [completionWith 503] :=
    not_redirects_completionWith (by decide)
  refine ⟨hcheck, hgood, harrives, ?_, hworthless, ?_⟩
  · have hresult := ((first_reply_settles hcheck reachableServer [completionWith 201]).1
      hgood).1 harrives (by decide) (by decide)
    exact ⟨_, hresult, rfl⟩
  · exact ((first_reply_settles hcheck reachableServer [completionWith 503]).1 hbad).2 hworthless

end Relay

end ChatGateway
