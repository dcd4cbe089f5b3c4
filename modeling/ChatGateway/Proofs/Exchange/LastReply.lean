import ChatGateway.Proofs.Exchange.Calls

/-!
# The last reply of an exchange

An exchange gives a body only if some reply closes it: every reply before that one sends
the exchange on, and this one comes in time, is an answer, and does not (`ClosedBy`).  A
head that only announces an answer closes nothing.  A reply that closes an exchange answers
its last call (`ClosedBy.lastReply_eq`).  It gives its body if its status is no error and
nothing of the body is missing (`follow_result_eq_ok_iff`).  No other status matters here: a
redirection that leads nowhere gives its body, too.
-/

namespace ChatGateway.Exchange

/-- The reply to the last one of the calls that have been made. -/
def lastReply (replies : List Reply) (calls : List Call) : Reply :=
  nextReply (replies.drop (calls.length - 1))

/-- A reply whose body is taken: its status is that of an answer and none of the errors,
which go from 400 to 599, and the body has come as a whole. -/
structure Reply.Accepted (reply : Reply) : Prop where
  status : reply.status = 101 ∨ 200 ≤ reply.status ∧ reply.status < 400 ∨
    600 ≤ reply.status ∧ reply.status < 1000
  whole : reply.missingBytes = 0 ∨ Status.hasNoBody reply.status

/-- The replies lead an exchange from call to call, and `reply` closes it. -/
inductive ClosedBy (network : Network) :
    (redirects time : Nat) → Step → List Reply → Reply → Prop where
  | first {redirects time : Nat} {step : Step} {replies : List Reply}
      (hconnected : network.connect step.url = none)
      (hintime : (nextReply replies).delay < time) (hanswers : (nextReply replies).Answers)
      (hends : step.next? network.idna (nextReply replies) = none) :
      ClosedBy network redirects time step replies (nextReply replies)
  | onward {redirects time : Nat} {step next : Step} {replies : List Reply} {reply : Reply}
      (hconnected : network.connect step.url = none)
      (honward : onward? network.idna time step (nextReply replies) = some next)
      (hmore : ClosedBy network redirects (time - (nextReply replies).delay) next replies.tail
        reply) :
      ClosedBy network (redirects + 1) time step replies reply

variable {network : Network} {redirects time : Nat} {step : Step} {replies : List Reply}
  {reply : Reply}

/-! ## The last call -/

theorem onward?_of_next?_eq_none {idna : Url.Idna} (h : step.next? idna reply = none) :
    onward? idna time step reply = none := by
  rw [onward?, h]
  split <;> rfl

/-- A reply that closes an exchange is the one to its last call. -/
theorem ClosedBy.lastReply_eq (h : ClosedBy network redirects time step replies reply) :
    ∃ call calls, (follow network redirects time step replies).calls = call :: calls ∧
      lastReply replies (call :: calls) = reply := by
  induction h with
  | @first redirects time step replies hconnected _ _ hends =>
      refine ⟨step.call, [], ?_, rfl⟩
      cases redirects with
      | zero => simp [follow_calls_zero, hconnected]
      | succ redirects => simp [follow_calls, hconnected, onward?_of_next?_eq_none hends]
  | @onward redirects time step next replies reply hconnected honward _ ih =>
      obtain ⟨call, calls, hcalls, hlast⟩ := ih
      refine ⟨step.call, call :: calls, by simp [follow_calls, hconnected, honward, hcalls], ?_⟩
      -- one call more has been made, and one reply more has been used up
      rw [← hlast]
      simp [lastReply]

/-! ## The body of an exchange -/

theorem isError_eq_false_iff (status : Nat) :
    Status.isError status = false ↔ status < 400 ∨ 600 ≤ status := by
  simp only [Status.isError, Status.isClientError, Status.isServerError, Bool.or_eq_false_iff,
    Bool.and_eq_false_iff, decide_eq_false_iff_not]
  omega

theorem Reply.Answers.conclude_eq_ok_iff (h : reply.Answers) {body : List UInt8} :
    conclude step reply = .ok body ↔ reply.Accepted ∧ reply.content = body := by
  have hanswer := h.status
  constructor
  · intro h
    unfold conclude at h
    split at h
    · contradiction
    next hstatus =>
      rw [Bool.not_eq_true, isError_eq_false_iff] at hstatus
      split at h
      · contradiction
      next hwhole =>
        refine ⟨⟨by omega, ?_⟩, Except.ok.inj h⟩
        simp only [Bool.and_eq_true, decide_eq_true_eq, Bool.not_eq_true'] at hwhole
        by_cases hnone : Status.hasNoBody reply.status
        · exact Or.inr hnone
        · exact Or.inl (by simp_all)
  · rintro ⟨⟨hstatus, hwhole⟩, rfl⟩
    rw [conclude, (isError_eq_false_iff _).mpr (by omega)]
    rcases hwhole with hwhole | hwhole <;> simp [hwhole]

theorem ending_eq_ok_iff {idna : Url.Idna} {body : List UInt8} :
    ending idna redirects time step reply = .ok body ↔
      (reply.delay < time ∧ reply.Answers ∧ step.next? idna reply = none) ∧
        reply.Accepted ∧ reply.content = body := by
  unfold ending
  by_cases hlate : time ≤ reply.delay
  · simp [hlate, Nat.not_lt.mpr hlate]
  cases hrefusal : refusal? step.url reply with
  | some error =>
      have hanswers : ¬ reply.Answers := by rw [← @refusal?_eq_none_iff step.url, hrefusal]; simp
      simp [hlate, hanswers]
  | none =>
      have hanswers : reply.Answers := refusal?_eq_none_iff.mp hrefusal
      cases hnext : step.next? idna reply with
      | none => simp [hlate, hanswers, hanswers.conclude_eq_ok_iff, Nat.not_le.mp hlate]
      | some next => simp [hlate]

/-- Where the exchange cannot go on, it is the first reply that may close it. -/
theorem closedBy_iff_of_last (hconnected : network.connect step.url = none)
    (hlast : redirects = 0 ∨ onward? network.idna time step (nextReply replies) = none) :
    ClosedBy network redirects time step replies reply ↔
      ((nextReply replies).delay < time ∧ (nextReply replies).Answers ∧
        step.next? network.idna (nextReply replies) = none) ∧ nextReply replies = reply := by
  constructor
  · intro h
    cases h with
    | first _ hintime hanswers hends => exact ⟨⟨hintime, hanswers, hends⟩, rfl⟩
    | onward _ honward _ => simp [honward] at hlast
  · rintro ⟨⟨hintime, hanswers, hends⟩, rfl⟩
    exact .first hconnected hintime hanswers hends

/-- Where the exchange goes on, it is the rest of it that has to be closed. -/
theorem closedBy_iff_of_onward?_eq_some {next : Step}
    (hconnected : network.connect step.url = none)
    (honward : onward? network.idna time step (nextReply replies) = some next) :
    ClosedBy network (redirects + 1) time step replies reply ↔
      ClosedBy network redirects (time - (nextReply replies).delay) next replies.tail reply := by
  constructor
  · intro h
    cases h with
    | first _ _ _ hends =>
        rw [onward?_of_next?_eq_none hends] at honward
        contradiction
    | onward _ honward' hmore =>
        rw [honward', Option.some.injEq] at honward
        exact honward ▸ hmore
  · exact .onward hconnected honward

theorem not_closedBy_of_unconnected {error : ConnectError}
    (h : network.connect step.url = some error) :
    ¬ ClosedBy network redirects time step replies reply := by
  rintro (⟨hconnected, -, -, -⟩ | ⟨hconnected, -, -⟩) <;> simp [h] at hconnected

/-- **When an exchange gives a body.**  It is closed by a reply whose body is taken. -/
theorem follow_result_eq_ok_iff {body : List UInt8} :
    (follow network redirects time step replies).result = .ok body ↔
      ∃ reply, ClosedBy network redirects time step replies reply ∧ reply.Accepted ∧
        reply.content = body := by
  induction redirects generalizing time step replies with
  | zero =>
      rw [follow_zero]
      cases hconnected : network.connect step.url with
      | some error => simp [Outcome.failed, not_closedBy_of_unconnected hconnected]
      | none =>
          simp [ending_eq_ok_iff, closedBy_iff_of_last hconnected (.inl rfl), and_assoc]
  | succ redirects ih =>
      rw [follow_succ]
      cases hconnected : network.connect step.url with
      | some error => simp [Outcome.failed, not_closedBy_of_unconnected hconnected]
      | none =>
          cases honward : onward? network.idna time step (nextReply replies) with
          | none =>
              simp [ending_eq_ok_iff, closedBy_iff_of_last hconnected (.inr honward), and_assoc]
          | some next =>
              simp only [closedBy_iff_of_onward?_eq_some hconnected honward]
              exact ih

/-! ## Posting -/

/-- A post is closed by a reply if it can be made to its address, and the reply closes the
exchange that its first step begins. -/
def PostClosedBy (network : Network) (timeout : Nat) (url : Url) (body : String)
    (replies : List Reply) (reply : Reply) : Prop :=
  IsPostable url ∧ ClosedBy network maxRedirects timeout (firstStep url body) replies reply

variable {timeout : Nat} {url : Url} {text : String}

theorem PostClosedBy.lastReply_eq (h : PostClosedBy network timeout url text replies reply) :
    (post network timeout url text replies).calls ≠ [] ∧
      lastReply replies (post network timeout url text replies).calls = reply := by
  obtain ⟨hpostable, hclosed⟩ := h
  obtain ⟨call, calls, hcalls, hlast⟩ := hclosed.lastReply_eq
  rw [post_of_postable hpostable, hcalls]
  exact ⟨List.cons_ne_nil call calls, hlast⟩

theorem post_result_eq_ok_iff {body : List UInt8} :
    (post network timeout url text replies).result = .ok body ↔
      ∃ reply, PostClosedBy network timeout url text replies reply ∧ reply.Accepted ∧
        reply.content = body := by
  unfold PostClosedBy
  by_cases hpostable : IsPostable url
  · simp [post_of_postable hpostable, hpostable, follow_result_eq_ok_iff]
  · obtain ⟨error, hfailed⟩ := post_of_not_postable hpostable network timeout text replies
    simp [hfailed, hpostable, Outcome.failed]

end ChatGateway.Exchange
