import ChatGateway.Proofs.Relay.Answer
import ChatGateway.Proofs.Relay.Gate

/-!
# What the log tells

The log of a request, its calls and its result are put together in different places, but
they tell one story (`log_truthful`).  There are three stories (`Told`): the request was
turned down, it was sent and answered, or it was sent and came to nothing.  Each of them has
a log of its own kind, so that the kind of the result can be told from the log.

The texts are written out here as they stand in the log.  Two of them with different
beginnings are never the same, whatever a client or a model server puts into them
(`Log.Entry.not_begins`).
-/

namespace ChatGateway

/-! ## How entries begin -/

/-- Texts come apart whose beginnings do. -/
theorem Text.append_ne_append {s t : String} (hs : ¬ s.toList <+: t.toList)
    (ht : ¬ t.toList <+: s.toList) (more rest : String) : s ++ more ≠ t ++ rest := by
  intro hsame
  have hlists : s.toList ++ more.toList = t.toList ++ rest.toList := by
    rw [← String.toList_append, ← String.toList_append, hsame]
  have hleft : s.toList <+: s.toList ++ more.toList := List.prefix_append _ _
  have hright : t.toList <+: s.toList ++ more.toList := hlists ▸ List.prefix_append _ _
  rcases List.prefix_or_prefix_of_prefix hleft hright with h | h
  · exact hs h
  · exact ht h

namespace Log.Entry

/-- The message of an entry begins with a text. -/
def Begins (e : Entry) (text : String) : Prop := ∃ rest, e.message = text ++ rest

theorem not_begins {text start : String} (ht : ¬ text.toList <+: start.toList)
    (hs : ¬ start.toList <+: text.toList) (level : Level) (source : Source) (rest : String) :
    ¬ Begins ⟨level, source, start ++ rest⟩ text :=
  fun ⟨more, h⟩ => Text.append_ne_append hs ht rest more h

end Log.Entry

namespace Relay

open Exchange (Reply)
open Completion (Payload)

/-! ## The texts -/

/-- Reports in words: the place of each with dots between its steps, and what is wrong. -/
def wording (fields : List FieldError) : String :=
  String.intercalate "; " (fields.map fun e =>
    String.intercalate "." (e.loc.map Segment.render) ++ ": " ++ e.msg)

/-- What is said of a request that is turned down. -/
def rejectionText (fields : List FieldError) : String :=
  "Rejected chat request: " ++ ("invalid chat request: " ++ wording fields)

/-- What is said of a payload that is sent. -/
def forwardingText (p : Payload) : String :=
  "Forwarding " ++ (toString p.messages.length ++ " message(s) to upstream (model: " ++ p.model ++
    ", max_tokens: " ++ toString p.maxTokens.toInt ++ ")")

/-- What is said of a response. -/
def responseText (response : ChatResponse) : String :=
  "Response length: " ++ (toString response.response.length ++ " characters")

/-- What is said of a request that is not answered. -/
def failureText (text : String) : String := "Upstream error: " ++ text

/-- The entry for a request that is sent. -/
def sent (r : ChatRequest) : Log.Entry := ⟨.info, .relay, forwardingText (.ofRequest r)⟩

/-- The entry for a request that is turned down is not taken for another one. -/
theorem not_begins_rejection (fields : List FieldError) {text : String}
    (ht : ¬ text.toList <+: "Rejected chat request: ".toList)
    (hs : ¬ "Rejected chat request: ".toList <+: text.toList) :
    ¬ ∃ e ∈ [(⟨.warn, .relay, rejectionText fields⟩ : Log.Entry)], e.Begins text := by
  rintro ⟨e, he, hbegins⟩
  rw [List.mem_singleton.mp he] at hbegins
  exact Log.Entry.not_begins ht hs _ _ _ hbegins

theorem rejected_invalid (fields : List FieldError) :
    rejected (.invalid fields) = ⟨.warn, .relay, rejectionText fields⟩ := rfl

theorem forwarding_ofRequest (r : ChatRequest) : forwarding (.ofRequest r) = sent r := by
  simp [forwarding, sent, forwardingText, String.append_assoc]

theorem finished_ok (response : ChatResponse) :
    finished (.ok response) = ⟨.info, .relay, responseText response⟩ :=
  congrArg (Log.Entry.mk .info .relay) String.append_assoc

theorem finished_unanswered (text : String) :
    finished (.error (.unanswered text)) = ⟨.error, .relay, failureText text⟩ := rfl

/-! ## Three stories -/

/-- The result of a request with the log that goes with it. -/
inductive Told (r : ChatRequest) : Except Failure ChatResponse → List Log.Entry → Prop where
  | rejected (fields : List FieldError) :
      Told r (.error (.invalid fields)) [⟨.warn, .relay, rejectionText fields⟩]
  | answered (response : ChatResponse) :
      Told r (.ok response) [sent r, ⟨.info, .relay, responseText response⟩]
  | unanswered (text : String) :
      Told r (.error (.unanswered text)) [sent r, ⟨.error, .relay, failureText text⟩]

theorem told_handle (server : ModelServer) (replies : List Reply) (r : ChatRequest) :
    Told r (handle server replies r).result (handle server replies r).log := by
  by_cases hr : r.Admissible
  · rw [handle_of_admissible hr, forwarding_ofRequest]
    cases hanswer : answer (exchangeOf server replies r).result with
    | ok response =>
        rw [finished_ok]
        exact .answered response
    | error failure =>
        -- what goes wrong after the check is never put down to the request
        obtain ⟨text, rfl⟩ := exists_unanswered hanswer
        rw [finished_unanswered]
        exact .unanswered text
  · rw [handle_of_not_admissible hr, rejected_invalid]
    exact .rejected r.reports

section

variable {r : ChatRequest} {result : Except Failure ChatResponse} {log : List Log.Entry}

theorem Told.rejected_iff (h : Told r result log) (m : String) :
    log = [⟨.warn, .relay, m⟩] ↔ ∃ fields, result = .error (.invalid fields) ∧
      m = rejectionText fields := by
  cases h with
  | rejected fields => simp [eq_comm]
  | answered response => simp
  | unanswered text => simp

theorem Told.answered_iff (h : Told r result log) (m : String) :
    log = [sent r, ⟨.info, .relay, m⟩] ↔ ∃ response, result = .ok response ∧
      m = responseText response := by
  cases h with
  | rejected fields => simp
  | answered response => simp [eq_comm]
  | unanswered text => simp

theorem Told.unanswered_iff (h : Told r result log) (m : String) :
    log = [sent r, ⟨.error, .relay, m⟩] ↔ ∃ text, result = .error (.unanswered text) ∧
      m = failureText text := by
  cases h with
  | rejected fields => simp
  | answered response => simp
  | unanswered text => simp [eq_comm]

/-- A request was sent if there is an entry that says so. -/
theorem Told.begins_forwarding_iff (h : Told r result log) :
    (∃ e ∈ log, e.Begins "Forwarding ") ↔ ∀ fields, result ≠ .error (.invalid fields) := by
  have hsent : (sent r).Begins "Forwarding " := ⟨_, rfl⟩
  cases h with
  | rejected fields =>
      exact iff_of_false (not_begins_rejection fields (by decide +kernel) (by decide +kernel))
        fun hother => hother fields rfl
  | answered response => exact iff_of_true ⟨sent r, List.mem_cons_self, hsent⟩ (by simp)
  | unanswered text => exact iff_of_true ⟨sent r, List.mem_cons_self, hsent⟩ (by simp)

/-- A request was answered if there is an entry on the length of the response. -/
theorem Told.begins_response_iff (h : Told r result log) :
    (∃ e ∈ log, e.Begins "Response length: ") ↔ ∃ response, result = .ok response := by
  cases h with
  | rejected fields =>
      exact iff_of_false (not_begins_rejection fields (by decide +kernel) (by decide +kernel))
        (by simp)
  | answered response =>
      have hresponse : Log.Entry.Begins ⟨.info, .relay, responseText response⟩
          "Response length: " := ⟨_, rfl⟩
      exact iff_of_true ⟨_, List.mem_pair.mpr (Or.inr rfl), hresponse⟩ ⟨response, rfl⟩
  | unanswered text =>
      have hsent : ¬ (sent r).Begins "Response length: " :=
        Log.Entry.not_begins (by decide +kernel) (by decide +kernel) _ _ _
      have hfailure : ¬ Log.Entry.Begins ⟨.error, .relay, failureText text⟩ "Response length: " :=
        Log.Entry.not_begins (by decide +kernel) (by decide +kernel) _ _ _
      refine iff_of_false ?_ (by simp)
      rintro ⟨e, he, hbegins⟩
      rcases List.mem_pair.mp he with rfl | rfl
      · exact hsent hbegins
      · exact hfailure hbegins

end

/-! ## Attempts -/

/-- The request is tried on the model server: its calls are those of an exchange, and its
result is what this exchange comes to. -/
structure Attempted (server : ModelServer) (replies : List Reply) (r : ChatRequest) : Prop where
  calls : (handle server replies r).calls = (exchangeOf server replies r).calls
  result : (handle server replies r).result = answer (exchangeOf server replies r).result

/-- A request is tried unless it is turned down. -/
theorem attempted_iff (server : ModelServer) (replies : List Reply) (r : ChatRequest) :
    Attempted server replies r ↔
      ∀ fields, (handle server replies r).result ≠ .error (.invalid fields) := by
  constructor
  · rintro ⟨-, hresult⟩ fields hinvalid
    obtain ⟨text, htext⟩ := exists_unanswered (hresult.symm.trans hinvalid)
    contradiction
  · intro hsent
    by_cases hr : r.Admissible
    · rw [handle_of_admissible hr] at hsent
      constructor <;> rw [handle_of_admissible hr]
    · rw [handle_of_not_admissible hr] at hsent
      exact absurd rfl (hsent r.reports)

/-- **The log tells the truth.**  There is one warning with the reports exactly if the
request was turned down.  There is an entry with the number of messages, the model and the
limit of the payload, and one with the length of the response behind it, exactly if the
request was answered; and the same entry with an error behind it, which has the text that
is returned, exactly if it was not.  An entry says that a request was sent exactly if it
was tried on the model server, and an entry gives the length of a response exactly if there
is one. -/
theorem log_truthful (server : ModelServer) (replies : List Reply) (r : ChatRequest) :
    (∀ m, (handle server replies r).log = [⟨.warn, .relay, m⟩] ↔
      ∃ fields, (handle server replies r).result = .error (.invalid fields) ∧
        m = rejectionText fields) ∧
    (∀ m, (handle server replies r).log = [sent r, ⟨.info, .relay, m⟩] ↔
      ∃ response, (handle server replies r).result = .ok response ∧ m = responseText response) ∧
    (∀ m, (handle server replies r).log = [sent r, ⟨.error, .relay, m⟩] ↔
      ∃ text, (handle server replies r).result = .error (.unanswered text) ∧
        m = failureText text) ∧
    ((∃ e ∈ (handle server replies r).log, e.Begins "Forwarding ") ↔
      Attempted server replies r) ∧
    ((∃ e ∈ (handle server replies r).log, e.Begins "Response length: ") ↔
      ∃ response, (handle server replies r).result = .ok response) := by
  have h := told_handle server replies r
  refine ⟨h.rejected_iff, h.answered_iff, h.unanswered_iff, ?_, h.begins_response_iff⟩
  rw [h.begins_forwarding_iff, attempted_iff]

/-- The reports are not all that a warning says: the kind of failure comes before them. -/
theorem not_always_reports_alone :
    ¬ ∀ (server : ModelServer) (replies : List Reply) (r : ChatRequest) (fields : List FieldError),
      (handle server replies r).result = .error (.invalid fields) →
        (handle server replies r).log =
          [⟨.warn, .relay, "Rejected chat request: " ++ wording fields⟩] := by
  intro halone
  let r : ChatRequest := { messages := [] }
  have hr : ¬ r.Admissible := by decide +kernel
  have hlog := halone reachableServer [] r r.reports (by rw [handle_of_not_admissible hr])
  rw [handle_of_not_admissible hr] at hlog
  have hdiffers : [rejected (.invalid r.reports)] ≠
      [⟨.warn, .relay, "Rejected chat request: " ++ wording r.reports⟩] := by decide +kernel
  exact hdiffers hlog

end Relay

end ChatGateway
