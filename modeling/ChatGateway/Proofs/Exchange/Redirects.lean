import ChatGateway.Proofs.Exchange.Calls

/-!
# Where an exchange is sent on

An exchange makes a second call exactly when the reply to its first one sends it on:
the reply comes in time, is a redirection, and its location is an address that can be
called (`SendsOn`).  Whether the second call posts again is up to the status alone.
A redirection that asks to get the answer ends all posting; one that asks to repeat
posts the same body once more.

What a location leads to depends on how the network writes the names of hosts; it may
write them in any way.
-/

namespace ChatGateway.Exchange

open Step (isAllowed isRequestable)

/-- An address that can be called: its scheme and its text are ones that requests are
made to, and a connection comes about. -/
structure Callable (network : Network) (url : Url) : Prop where
  allowed : isAllowed url
  requestable : isRequestable url
  connected : network.connect url = none

/-- The reply to a call at `url`, with `time` milliseconds left, sends the exchange on
to a call at `target`. -/
structure SendsOn (network : Network) (time : Nat) (url : Url) (reply : Reply) (target : Url) :
    Prop where
  inTime : reply.delay < time
  answered : reply.hangsUp = false
  redirection : Status.asksToGet reply.status ∨ Status.asksToRepeat reply.status
  location : ∃ location, reply.header? "location" = some location ∧
    Url.join network.idna url location = .ok target
  callable : Callable network target

/-! ## The next step -/

theorem Step.target?_eq_some_iff {idna : Url.Idna} {step : Step} {reply : Reply} {target : Url} :
    step.target? idna reply = some target ↔
      (∃ location, reply.header? "location" = some location ∧
        Url.join idna step.url location = .ok target) ∧ isRequestable target := by
  unfold Step.target?
  cases reply.header? "location" with
  | none => simp
  | some location =>
      cases hjoin : Url.join idna step.url location with
      | error e => simp [hjoin]
      | ok url =>
          by_cases hfits : isRequestable url
          · simp only [hjoin, hfits, if_true, Option.some.injEq, exists_eq_left', Except.ok.injEq]
            exact ⟨fun h => ⟨h, h ▸ hfits⟩, fun h => h.1⟩
          · simp only [hjoin, hfits, Bool.false_eq_true, if_false, reduceCtorEq, Option.some.injEq,
              exists_eq_left', Except.ok.injEq, false_iff, not_and]
            rintro rfl
            exact hfits

theorem not_asksToGet_of_asksToRepeat {status : Nat} (h : Status.asksToRepeat status) :
    ¬ Status.asksToGet status := by
  simp only [Status.asksToRepeat, Bool.or_eq_true, beq_iff_eq] at h
  rcases h with rfl | rfl <;> decide

/-- A reply that asks for another call is an answer unless the connection is closed instead. -/
theorem Reply.answers_of_redirection {reply : Reply} (hanswered : reply.hangsUp = false)
    (hstatus : Status.asksToGet reply.status ∨ Status.asksToRepeat reply.status) :
    reply.Answers := by
  simp only [Status.asksToGet, Status.asksToRepeat, Bool.or_eq_true, beq_iff_eq] at hstatus
  exact ⟨hanswered, by omega⟩

theorem Step.exists_next?_of_target? {idna : Url.Idna} {step : Step} {reply : Reply} {target : Url}
    (htarget : step.target? idna reply = some target)
    (hstatus : Status.asksToGet reply.status ∨ Status.asksToRepeat reply.status) :
    ∃ next, step.next? idna reply = some next := by
  unfold Step.next?
  simp only [htarget]
  rcases hstatus with hget | hrepeat
  · exact ⟨_, if_pos hget⟩
  · exact ⟨_, by rw [if_neg (not_asksToGet_of_asksToRepeat hrepeat), if_pos hrepeat]⟩

/-- A reply sends an exchange on exactly when the exchange goes on with a step that a
connection comes about for. -/
theorem sendsOn_iff {network : Network} {time : Nat} {step : Step} {reply : Reply}
    {target : Url} :
    SendsOn network time step.url reply target ↔
      ∃ next, onward? network.idna time step reply = some next ∧ next.url = target ∧
        network.connect target = none := by
  constructor
  · intro h
    have htarget := Step.target?_eq_some_iff.mpr ⟨h.location, h.callable.requestable⟩
    obtain ⟨next, hnext⟩ := Step.exists_next?_of_target? htarget h.redirection
    have hurl : next.url = target := by
      have hsame := (Step.followedBy_of_next? hnext).target
      rw [htarget, Option.some.injEq] at hsame
      exact hsame.symm
    refine ⟨next, ?_, hurl, h.callable.connected⟩
    have hanswers : refusal? step.url reply = none :=
      refusal?_eq_none_iff.mpr (Reply.answers_of_redirection h.answered h.redirection)
    rw [onward?, if_neg (by simp [h.inTime, hanswers]), hnext]
    simp [Option.filter, hurl, h.callable.allowed]
  · rintro ⟨next, honward, rfl, hconnected⟩
    have hfollowed := Step.followedBy_of_next? (next?_of_onward? honward)
    obtain ⟨hlocation, hfits⟩ := Step.target?_eq_some_iff.mp hfollowed.target
    unfold onward? at honward
    split at honward
    · contradiction
    next hcame =>
      rw [not_or, Nat.not_le, not_not, refusal?_eq_none_iff] at hcame
      have hallowed := (Option.filter_eq_some_iff.mp honward).2
      exact ⟨hcame.1, hcame.2.answered, hfollowed.asked.imp And.left And.left, hlocation,
        ⟨hallowed, hfits, hconnected⟩⟩

/-! ## The second call -/

/-- With a connection, an exchange begins with the call of its step. -/
theorem exists_follow_calls_eq_cons {network : Network} {step : Step}
    (hconnected : network.connect step.url = none) (redirects time : Nat) (replies : List Reply) :
    ∃ calls, (follow network redirects time step replies).calls = step.call :: calls := by
  cases redirects with
  | zero => exact ⟨[], by rw [follow_calls_zero, hconnected]; rfl⟩
  | succ redirects => exact ⟨_, by rw [follow_calls, hconnected]; rfl⟩

theorem follow_calls_of_unconnected {network : Network} {step : Step}
    (hunconnected : network.connect step.url ≠ none) (redirects time : Nat)
    (replies : List Reply) : (follow network redirects time step replies).calls = [] := by
  have hsome := Option.isSome_iff_ne_none.mpr hunconnected
  cases redirects with
  | zero => rw [follow_calls_zero, if_pos hsome]
  | succ redirects => rw [follow_calls, if_pos hsome]

/-- A post is a call with the method for it. -/
def isPost (call : Call) : Bool := call.method == .post

/-- No post comes after a step that gets. -/
theorem filter_isPost_follow_of_gets {step : Step} (hgets : step.Gets) (network : Network)
    (redirects time : Nat) (replies : List Reply) :
    (follow network redirects time step replies).calls.filter isPost = [] := by
  rw [List.filter_eq_nil_iff]
  intro call hcall
  obtain ⟨steps, htrail, -, hcalls⟩ := exists_trail network redirects time step replies
  rw [hcalls] at hcall
  obtain ⟨made, hmade, rfl⟩ := List.mem_map.mp hcall
  have hmadeGets : made.Gets := htrail.forall_mem (fun h => h.gets) hgets made hmade
  simp [isPost, Step.call, hmadeGets.method]

theorem filter_isPost_follow_of_post {network : Network} {step : Step}
    (hconnected : network.connect step.url = none) (hpost : step.method = .post)
    (redirects time : Nat) (replies : List Reply) :
    (follow network redirects time step replies).calls.filter isPost ≠ [] := by
  obtain ⟨calls, hcalls⟩ := exists_follow_calls_eq_cons hconnected redirects time replies
  simp [hcalls, isPost, Step.call, hpost]

/-- An exchange makes one call at most unless the reply to the first sends it on. -/
theorem follow_calls_length_le_one_iff {network : Network} {step : Step}
    (hconnected : network.connect step.url = none) (redirects time : Nat)
    (replies : List Reply) :
    (follow network (redirects + 1) time step replies).calls.length ≤ 1 ↔
      ¬ ∃ target, SendsOn network time step.url (nextReply replies) target := by
  rw [follow_calls, hconnected, if_neg (by simp)]
  simp only [sendsOn_iff, List.length_cons, add_le_iff_nonpos_left, nonpos_iff_eq_zero,
    List.length_eq_zero_iff]
  cases honward : onward? network.idna time step (nextReply replies) with
  | none => simp
  | some next =>
      simp only [Option.elim_some, Option.some.injEq, exists_eq_left']
      by_cases hnext : network.connect next.url = none
      · obtain ⟨calls, hcalls⟩ := exists_follow_calls_eq_cons hnext redirects
          (time - (nextReply replies).delay) replies.tail
        simp [hcalls, hnext]
      · simp [follow_calls_of_unconnected hnext, hnext]

/-- A body is posted once at most unless the reply to the first call sends the exchange
on and asks to repeat it. -/
theorem follow_posts_length_le_one_iff {network : Network} {step : Step}
    (hconnected : network.connect step.url = none) (hpost : step.method = .post)
    (redirects time : Nat) (replies : List Reply) :
    ((follow network (redirects + 1) time step replies).calls.filter isPost).length ≤ 1 ↔
      ¬ ((∃ target, SendsOn network time step.url (nextReply replies) target) ∧
        Status.asksToRepeat (nextReply replies).status) := by
  rw [follow_calls, hconnected, if_neg (by simp),
    List.filter_cons_of_pos (by simp [isPost, Step.call, hpost])]
  simp only [sendsOn_iff, List.length_cons, add_le_iff_nonpos_left, nonpos_iff_eq_zero,
    List.length_eq_zero_iff]
  cases honward : onward? network.idna time step (nextReply replies) with
  | none => simp
  | some next =>
      simp only [Option.elim_some, Option.some.injEq, exists_eq_left']
      -- a redirection that gets ends the posting, one that repeats goes on with it
      rcases (Step.followedBy_of_next? (next?_of_onward? honward)).asked with
        ⟨hget, hmethod, hbody⟩ | ⟨hrepeat, hmethod, -⟩
      · have hnot : ¬ Status.asksToRepeat (nextReply replies).status := fun h =>
          not_asksToGet_of_asksToRepeat h hget
        simp [filter_isPost_follow_of_gets ⟨hmethod, hbody⟩, hnot]
      by_cases hnext : network.connect next.url = none
      · simp [filter_isPost_follow_of_post hnext (hmethod.trans hpost), hnext, hrepeat]
      · simp [follow_calls_of_unconnected hnext, hnext]

/-! ## Posting -/

theorem plainUrl_eq_or_eq (url : Url) :
    plainUrl url = url ∨ plainUrl url = url.withoutCredentials := by
  unfold plainUrl takeCredentials
  split
  · exact Or.inl rfl
  split
  · exact Or.inl rfl
  dsimp only
  rw [apply_ite Prod.fst]
  exact ite_eq_or_eq _ _ _

theorem withoutCredentials_plainUrl (url : Url) :
    (plainUrl url).withoutCredentials = url.withoutCredentials := by
  rcases plainUrl_eq_or_eq url with h | h
  · rw [h]
  · rw [h]
    simp [Url.withoutCredentials, Function.comp_def]

theorem firstStep_call (url : Url) (body : String) :
    (firstStep url body).call.method = .post ∧
      (firstStep url body).call.url = url.withoutCredentials.withoutFragment :=
  ⟨rfl, congrArg Url.withoutFragment (withoutCredentials_plainUrl url)⟩

theorem post_calls_of_callable {network : Network} {url : Url}
    (h : Callable network (plainUrl url)) (timeout : Nat) (body : String) (replies : List Reply) :
    (post network timeout url body replies).calls =
      (follow network maxRedirects timeout (firstStep url body) replies).calls := by
  rw [post_calls, if_pos (by simp [h.allowed, h.requestable])]

theorem post_calls_of_not_callable {network : Network} {url : Url}
    (h : ¬ Callable network (plainUrl url)) (timeout : Nat) (body : String)
    (replies : List Reply) : (post network timeout url body replies).calls = [] := by
  rw [post_calls]
  split
  next hsound =>
    rw [Bool.and_eq_true] at hsound
    exact follow_calls_of_unconnected (fun hc => h ⟨hsound.1, hsound.2, hc⟩) _ _ _
  · rfl

/-- A post to an address that can be called begins with the call to that address. -/
theorem exists_post_calls_eq_cons {network : Network} {url : Url}
    (h : Callable network (plainUrl url)) (timeout : Nat) (body : String) (replies : List Reply) :
    ∃ calls, (post network timeout url body replies).calls =
      (firstStep url body).call :: calls := by
  rw [post_calls_of_callable h]
  exact exists_follow_calls_eq_cons h.connected _ _ _

theorem post_calls_length_le_one_iff {network : Network} {url : Url}
    (h : Callable network (plainUrl url)) (timeout : Nat) (body : String) (replies : List Reply) :
    (post network timeout url body replies).calls.length ≤ 1 ↔
      ¬ ∃ target, SendsOn network timeout (plainUrl url) (nextReply replies) target := by
  rw [post_calls_of_callable h]
  exact follow_calls_length_le_one_iff h.connected _ _ _

theorem post_posts_length_le_one_iff {network : Network} {url : Url}
    (h : Callable network (plainUrl url)) (timeout : Nat) (body : String) (replies : List Reply) :
    ((post network timeout url body replies).calls.filter isPost).length ≤ 1 ↔
      ¬ ((∃ target, SendsOn network timeout (plainUrl url) (nextReply replies) target) ∧
        Status.asksToRepeat (nextReply replies).status) := by
  rw [post_calls_of_callable h]
  exact follow_posts_length_le_one_iff h.connected rfl _ _ _

end ChatGateway.Exchange
