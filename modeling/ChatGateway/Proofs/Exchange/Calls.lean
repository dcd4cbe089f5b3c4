import ChatGateway.Exchange
import Mathlib

/-!
# The calls of an exchange

`follow` makes the call of its step and goes on where the reply sends it.  Both are
said once here: `follow_succ` gives one round in terms of `onward?`, the step that a
reply leads to, and `follow_calls` the calls of that round.  A whole exchange makes its
calls for the steps of a `Trail`, each of which follows the one before it
(`exists_trail`); what each redirection keeps holds all along a trail
(`Trail.forall_mem`).

How the names of hosts are written is a parameter throughout: nothing here looks at it.
-/

namespace ChatGateway.Exchange

open Step (isAllowed isRequestable)

/-- The reply to the next call. -/
def nextReply (replies : List Reply) : Reply := replies.headD .exhausted

theorem headD_exhausted (replies : List Reply) :
    replies.headD .exhausted = nextReply replies := rfl

/-! ## Answers -/

theorem Status.isInterim_iff (status : Nat) :
    Status.isInterim status ↔ 100 ≤ status ∧ status < 200 ∧ status ≠ 101 := by
  simp [Status.isInterim, and_assoc]

theorem Status.isValid_iff (status : Nat) :
    Status.isValid status ↔ 100 ≤ status ∧ status < 1000 := by
  simp [Status.isValid]

/-- A reply that is an answer: the connection is not closed without one, and the status is
that of an answer. -/
structure Reply.Answers (reply : Reply) : Prop where
  answered : reply.hangsUp = false
  status : reply.status = 101 ∨ 200 ≤ reply.status ∧ reply.status < 1000

/-- A reply is an answer exactly if there is nothing to refuse it for. -/
theorem refusal?_eq_none_iff {url : Url} {reply : Reply} :
    refusal? url reply = none ↔ reply.Answers := by
  have hinterim := Status.isInterim_iff reply.status
  have hvalid := Status.isValid_iff reply.status
  unfold refusal?
  constructor
  · intro h
    split_ifs at h with hgone hnone
    rw [Bool.or_eq_true, not_or, hinterim, Bool.not_eq_true] at hgone
    rw [Bool.not_eq_true', Bool.not_eq_false, hvalid] at hnone
    exact ⟨hgone.1, by omega⟩
  · rintro ⟨hanswered, hstatus⟩
    have hfinal : ¬ Status.isInterim reply.status := by
      rw [hinterim]
      omega
    have hthree : Status.isValid reply.status = true := by
      rw [hvalid]
      omega
    rw [hanswered, Bool.false_or, if_neg hfinal, hthree, Bool.not_true, if_neg (by decide)]

/-! ## Rounds -/

/-- The step that an exchange goes on with after a reply, with `time` milliseconds
left: the reply has to be an answer and come in time, and send to an address with a
scheme that requests are made to. -/
def onward? (idna : Url.Idna) (time : Nat) (step : Step) (reply : Reply) : Option Step :=
  if time ≤ reply.delay ∨ refusal? step.url reply ≠ none then none
  else (step.next? idna reply).filter fun next => isAllowed next.url

theorem next?_of_onward? {idna : Url.Idna} {time : Nat} {step next : Step} {reply : Reply}
    (h : onward? idna time step reply = some next) : step.next? idna reply = some next := by
  unfold onward? at h
  split at h
  · contradiction
  · exact (Option.filter_eq_some_iff.mp h).1

/-- What a call comes to when no other call follows it. -/
def ending (idna : Url.Idna) (redirects time : Nat) (step : Step) (reply : Reply) :
    Except Error (List UInt8) :=
  if time ≤ reply.delay then .error (.timedOut step.url)
  else
    match refusal? step.url reply with
    | some error => .error error
    | none =>
      match step.next? idna reply with
      | none => conclude step reply
      | some next =>
        .error (if redirects = 0 then .tooManyRedirects step.url else .schemeNotAllowed next.url)

/-- An exchange in which no redirection is left. -/
theorem follow_zero (network : Network) (time : Nat) (step : Step) (replies : List Reply) :
    follow network 0 time step replies =
      match network.connect step.url with
      | some error => .failed (.unconnected step.url error)
      | none => ⟨ending network.idna 0 time step (nextReply replies), [step.call]⟩ := by
  rw [follow]
  cases network.connect step.url with
  | some error => rfl
  | none =>
      simp only [headD_exhausted, ending]
      by_cases hlate : time ≤ (nextReply replies).delay
      · simp [hlate]
      cases hrefusal : refusal? step.url (nextReply replies) with
      | some error => simp [hlate]
      | none => cases hnext : step.next? network.idna (nextReply replies) <;> simp [hlate]

/-- One round of an exchange: its call is the last one, or the exchange goes on. -/
theorem follow_succ (network : Network) (redirects time : Nat) (step : Step)
    (replies : List Reply) :
    follow network (redirects + 1) time step replies =
      match network.connect step.url with
      | some error => .failed (.unconnected step.url error)
      | none =>
        match onward? network.idna time step (nextReply replies) with
        | none => ⟨ending network.idna (redirects + 1) time step (nextReply replies), [step.call]⟩
        | some next =>
          (follow network redirects (time - (nextReply replies).delay) next replies.tail).after
            step.call := by
  rw [follow]
  cases network.connect step.url with
  | some error => rfl
  | none =>
      simp only [headD_exhausted, ending]
      by_cases hlate : time ≤ (nextReply replies).delay
      · simp [onward?, hlate]
      cases hrefusal : refusal? step.url (nextReply replies) with
      | some error => simp [onward?, hlate, hrefusal]
      | none =>
          cases hnext : step.next? network.idna (nextReply replies) with
          | none => simp [onward?, hlate, hrefusal, hnext]
          | some next =>
              by_cases hallowed : isAllowed next.url <;>
                simp [onward?, hlate, hrefusal, hnext, hallowed, Option.filter]

/-- The calls of one round: none without a connection, else the call of the step and
those that the reply leads to. -/
theorem follow_calls (network : Network) (redirects time : Nat) (step : Step)
    (replies : List Reply) :
    (follow network (redirects + 1) time step replies).calls =
      if (network.connect step.url).isSome then []
      else step.call :: ((onward? network.idna time step (nextReply replies)).elim [] fun next =>
        (follow network redirects (time - (nextReply replies).delay) next replies.tail).calls) := by
  rw [follow_succ]
  cases network.connect step.url with
  | some error => rfl
  | none => cases onward? network.idna time step (nextReply replies) <;> rfl

/-- With no redirection left there is at most the call of the step. -/
theorem follow_calls_zero (network : Network) (time : Nat) (step : Step) (replies : List Reply) :
    (follow network 0 time step replies).calls =
      if (network.connect step.url).isSome then [] else [step.call] := by
  rw [follow_zero]
  cases network.connect step.url <;> rfl

/-! ## Redirections -/

/-- What follows a step: a step at the target of the reply.  It gets the answer or
repeats the request, as the status asks, and keeps the authorization at the same
service only. -/
structure Step.FollowedBy (idna : Url.Idna) (step : Step) (reply : Reply) (next : Step) :
    Prop where
  target : step.target? idna reply = some next.url
  authorization : next.authorization =
    if Step.sameService step.url next.url then step.authorization else none
  asked : (Status.asksToGet reply.status ∧ next.method = .get ∧ next.body = none) ∨
    (Status.asksToRepeat reply.status ∧ next.method = step.method ∧ next.body = step.body)

theorem Step.followedBy_of_next? {idna : Url.Idna} {step next : Step} {reply : Reply}
    (h : step.next? idna reply = some next) : step.FollowedBy idna reply next := by
  unfold Step.next? at h
  cases htarget : step.target? idna reply with
  | none => simp [htarget] at h
  | some url =>
      simp only [htarget] at h
      by_cases hget : Status.asksToGet reply.status
      · rw [if_pos hget, Option.some.injEq] at h
        subst h
        exact ⟨htarget, rfl, Or.inl ⟨hget, rfl, rfl⟩⟩
      by_cases hrepeat : Status.asksToRepeat reply.status
      · rw [if_neg hget, if_pos hrepeat, Option.some.injEq] at h
        subst h
        exact ⟨htarget, rfl, Or.inr ⟨hrepeat, rfl, rfl⟩⟩
      · simp [hget, hrepeat] at h

/-- A step that posts a text. -/
structure Step.Posts (step : Step) (text : String) : Prop where
  method : step.method = .post
  body : step.body = some text

/-- A step that gets an answer and sends nothing. -/
structure Step.Gets (step : Step) : Prop where
  method : step.method = .get
  body : step.body = none

theorem Step.FollowedBy.gets {idna : Url.Idna} {step next : Step} {reply : Reply}
    (h : step.FollowedBy idna reply next) (hgets : step.Gets) : next.Gets := by
  rcases h.asked with ⟨-, hmethod, hbody⟩ | ⟨-, hmethod, hbody⟩
  · exact ⟨hmethod, hbody⟩
  · exact ⟨hmethod.trans hgets.method, hbody.trans hgets.body⟩

/-- A post is repeated if the reply asks for that, and else there is no more posting. -/
theorem Step.FollowedBy.posts_or_gets {idna : Url.Idna} {step next : Step} {reply : Reply}
    {text : String} (h : step.FollowedBy idna reply next) (hposts : step.Posts text) :
    (Status.asksToRepeat reply.status ∧ next.Posts text) ∨ next.Gets := by
  rcases h.asked with ⟨-, hmethod, hbody⟩ | ⟨hrepeat, hmethod, hbody⟩
  · exact Or.inr ⟨hmethod, hbody⟩
  · exact Or.inl ⟨hrepeat, hmethod.trans hposts.method, hbody.trans hposts.body⟩

/-! ## The steps of an exchange -/

/-- The steps that an exchange makes calls for, from a step on: none, or this one and those
that the replies lead to. -/
inductive Trail (idna : Url.Idna) : Step → List Reply → List Step → Prop where
  | nil {step : Step} {replies : List Reply} : Trail idna step replies []
  | last {step : Step} {replies : List Reply} : Trail idna step replies [step]
  | onward {step next : Step} {replies : List Reply} {steps : List Step}
      (hfollowed : step.FollowedBy idna (nextReply replies) next)
      (hmore : Trail idna next replies.tail steps) : Trail idna step replies (step :: steps)

/-- **The calls of an exchange** are those of the steps of a trail; the first step aside,
each of them uses up a redirection. -/
theorem exists_trail (network : Network) (redirects : Nat) :
    ∀ (time : Nat) (step : Step) (replies : List Reply),
      ∃ steps, Trail network.idna step replies steps ∧ steps.length ≤ redirects + 1 ∧
        (follow network redirects time step replies).calls = steps.map Step.call := by
  induction redirects with
  | zero =>
      intro time step replies
      rw [follow_calls_zero]
      split
      · exact ⟨[], .nil, Nat.zero_le _, rfl⟩
      · exact ⟨[step], .last, Nat.le_refl _, rfl⟩
  | succ redirects ih =>
      intro time step replies
      rw [follow_calls]
      split
      · exact ⟨[], .nil, Nat.zero_le _, rfl⟩
      cases honward : onward? network.idna time step (nextReply replies) with
      | none => exact ⟨[step], .last, Nat.le_add_left _ _, rfl⟩
      | some next =>
          obtain ⟨steps, htrail, hlength, hcalls⟩ :=
            ih (time - (nextReply replies).delay) next replies.tail
          have hfollowed := Step.followedBy_of_next? (next?_of_onward? honward)
          refine ⟨step :: steps, .onward hfollowed htrail, Nat.succ_le_succ hlength, ?_⟩
          rw [Option.elim_some, hcalls, List.map_cons]

/-- A trail begins with the step that it goes on from. -/
theorem Trail.eq_of_head? {idna : Url.Idna} {step s : Step} {replies : List Reply}
    {steps : List Step} (h : Trail idna step replies steps) (hs : steps.head? = some s) :
    s = step := by
  cases h with
  | nil => simp at hs
  | last => simpa using hs.symm
  | onward => simpa using hs.symm

/-- What holds of a step and is kept by each redirection holds of every step from there on. -/
theorem Trail.forall_mem {idna : Url.Idna} {P : Step → Prop}
    (hnext : ∀ {step reply next}, Step.FollowedBy idna step reply next → P step → P next)
    {step : Step} {replies : List Reply} {steps : List Step} (h : Trail idna step replies steps)
    (hstep : P step) : ∀ s ∈ steps, P s := by
  induction h with
  | nil => exact fun s hs => absurd hs List.not_mem_nil
  | last => exact fun s hs => List.mem_singleton.mp hs ▸ hstep
  | onward hfollowed _ ih => exact List.forall_mem_cons.mpr ⟨hstep, ih (hnext hfollowed hstep)⟩

/-! ## Posting -/

/-- The address that a post goes to first: the credentials are taken out of it. -/
def plainUrl (url : Url) : Url := (takeCredentials url).1

/-- The step that a post begins with. -/
def firstStep (url : Url) (body : String) : Step :=
  ⟨.post, plainUrl url, some body, (takeCredentials url).2⟩

/-- An address that a post can be made to: its scheme and its text, without the
credentials, are ones that requests are made to. -/
def IsPostable (url : Url) : Prop := isAllowed (plainUrl url) ∧ isRequestable (plainUrl url)

theorem post_of_postable {url : Url} (h : IsPostable url) (network : Network) (timeout : Nat)
    (body : String) (replies : List Reply) :
    post network timeout url body replies =
      follow network maxRedirects timeout (firstStep url body) replies := by
  obtain ⟨hallowed, hfits⟩ := h
  unfold plainUrl at hallowed hfits
  simp [post, hallowed, hfits, firstStep, plainUrl]

theorem post_of_not_postable {url : Url} (h : ¬ IsPostable url) (network : Network)
    (timeout : Nat) (body : String) (replies : List Reply) :
    ∃ error, post network timeout url body replies = .failed error := by
  unfold IsPostable plainUrl at h
  unfold post
  by_cases hallowed : isAllowed (takeCredentials url).1
  · have hfits : ¬ isRequestable (takeCredentials url).1 := fun hfits => h ⟨hallowed, hfits⟩
    exact ⟨.notRequestable (plainUrl url), by simp [plainUrl, hallowed, hfits]⟩
  · exact ⟨.schemeNotAllowed (plainUrl url), by simp [plainUrl, hallowed]⟩

theorem post_calls (network : Network) (timeout : Nat) (url : Url) (body : String)
    (replies : List Reply) :
    (post network timeout url body replies).calls =
      if isAllowed (plainUrl url) && isRequestable (plainUrl url) then
        (follow network maxRedirects timeout (firstStep url body) replies).calls
      else [] := by
  by_cases h : IsPostable url
  · rw [post_of_postable h, if_pos (by simpa [IsPostable] using h)]
  · obtain ⟨error, hfailed⟩ := post_of_not_postable h network timeout body replies
    rw [hfailed, if_neg (by simpa [IsPostable] using h)]
    rfl

/-- The calls of a post are those of the steps of a trail. -/
theorem exists_trail_post (network : Network) (timeout : Nat) (url : Url) (body : String)
    (replies : List Reply) :
    ∃ steps, Trail network.idna (firstStep url body) replies steps ∧
      steps.length ≤ maxRedirects + 1 ∧
      (post network timeout url body replies).calls = steps.map Step.call := by
  rw [post_calls]
  split
  · exact exists_trail network maxRedirects timeout (firstStep url body) replies
  · exact ⟨[], .nil, Nat.zero_le _, rfl⟩

/-- Every post of an exchange carries the body that is to be posted. -/
theorem body_of_mem_post_calls {network : Network} {timeout : Nat} {url : Url} {body : String}
    {replies : List Reply} {call : Call}
    (hcall : call ∈ (post network timeout url body replies).calls) (hpost : call.method = .post) :
    call.body = body := by
  obtain ⟨steps, htrail, -, hcalls⟩ := exists_trail_post network timeout url body replies
  rw [hcalls] at hcall
  obtain ⟨made, hmade, rfl⟩ := List.mem_map.mp hcall
  have hkept : ∀ {step reply next}, Step.FollowedBy network.idna step reply next →
      step.Posts body ∨ step.Gets → next.Posts body ∨ next.Gets := by
    rintro step reply next h (hposts | hgets)
    · exact (h.posts_or_gets hposts).imp_left And.right
    · exact Or.inr (h.gets hgets)
  rcases htrail.forall_mem hkept (Or.inl ⟨rfl, rfl⟩) made hmade with hposts | hgets
  · simp [Step.call, hposts.body]
  · have hget : made.method = .post := hpost
    rw [hgets.method] at hget
    contradiction

end ChatGateway.Exchange
