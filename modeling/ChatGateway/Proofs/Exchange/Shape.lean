import ChatGateway.Proofs.Exchange.Redirects

/-!
# The shape of an exchange

A server may redirect an exchange as it likes, in circles if it wants to.  Its calls keep
to one shape all the same (`WellShaped`): they post the same text as long as they are asked
to repeat it, and from the first other redirection on they get an answer and send nothing.

Three facts make up the shape.  A redirection either repeats the post or ends the posting
(`Step.FollowedBy.posts_or_gets`), so that along a trail the posts come first
(`Trail.runs`).  Which of the two it is, is up to the reply between two calls
(`Trail.asksToRepeat`).  And every call but the first uses up a redirection
(`exists_trail`), so that no reply after the eleventh is ever looked at (`post_take`).
-/

namespace ChatGateway.Exchange

/-! ## Calls of two kinds -/

/-- A call that posts a text as JSON. -/
structure Call.Posts (call : Call) (text : String) : Prop where
  method : call.method = .post
  body : call.body = text
  contentType : call.contentType = some "application/json"

/-- A call that gets an answer and sends nothing. -/
structure Call.Gets (call : Call) : Prop where
  method : call.method = .get
  body : call.body = ""
  contentType : call.contentType = none

theorem Step.Posts.call {step : Step} {text : String} (h : step.Posts text) :
    step.call.Posts text where
  method := h.method
  body := by rw [Step.call, h.body, Option.getD_some]
  contentType := by rw [Step.call, h.body, Option.map_some, jsonType]

theorem Step.Gets.call {step : Step} (h : step.Gets) : step.call.Gets where
  method := h.method
  body := by rw [Step.call, h.body, Option.getD_none]
  contentType := by rw [Step.call, h.body, Option.map_none]

/-! ## Along a trail -/

section

variable {idna : Url.Idna} {step s : Step} {replies : List Reply} {steps : List Step}

/-- The posts of a trail come first, and all of them post the same text. -/
theorem Trail.runs {text : String} (h : Trail idna step replies steps) (hposts : step.Posts text) :
    ∃ posts gets, steps = posts ++ gets ∧ (∀ s ∈ posts, s.Posts text) ∧ ∀ s ∈ gets, s.Gets := by
  induction h with
  | nil => exact ⟨[], [], rfl, by simp, by simp⟩
  | @last step => exact ⟨[step], [], rfl, by simpa using hposts, by simp⟩
  | @onward step next replies steps hfollowed hmore ih =>
      rcases hfollowed.posts_or_gets hposts with ⟨-, hagain⟩ | hgets
      · obtain ⟨posts, gets, rfl, hall, hrest⟩ := ih hagain
        exact ⟨step :: posts, gets, rfl, List.forall_mem_cons.mpr ⟨hposts, hall⟩, hrest⟩
      · have hrest : ∀ s ∈ steps, s.Gets := hmore.forall_mem (fun h => h.gets) hgets
        exact ⟨[step], steps, rfl, by simpa using hposts, hrest⟩

/-- The reply before a step that posts, the first step aside, asks to repeat the post. -/
theorem Trail.asksToRepeat (h : Trail idna step replies steps) :
    ∀ (i : Nat) (s : Step), steps[i + 1]? = some s → s.method = .post →
      Status.asksToRepeat (nextReply (replies.drop i)).status := by
  induction h with
  | nil =>
      intro i s hs
      simp at hs
  | last =>
      intro i s hs
      simp at hs
  | @onward step next replies steps hfollowed hmore ih =>
      intro i s hs hpost
      rw [List.getElem?_cons_succ] at hs
      cases i with
      | zero =>
          -- the second step of the trail is the one that the first reply leads to
          rw [← List.head?_eq_getElem?] at hs
          rw [hmore.eq_of_head? hs] at hpost
          rcases hfollowed.asked with ⟨-, hget, -⟩ | ⟨hrepeat, -, -⟩
          · rw [hget] at hpost
            contradiction
          · exact hrepeat
      | succ i =>
          have hreplies : replies.tail.drop i = replies.drop (i + 1) := by
            rw [List.drop_tail]
          rw [← hreplies]
          exact ih i s hs hpost

end

theorem asksToRepeat_iff (status : Nat) :
    Status.asksToRepeat status ↔ status = 307 ∨ status = 308 := by
  simp [Status.asksToRepeat]

/-! ## How many replies are looked at -/

theorem nextReply_take (n : Nat) (replies : List Reply) :
    nextReply (replies.take (n + 1)) = nextReply replies := by
  cases replies <;> rfl

theorem tail_take (n : Nat) (replies : List Reply) :
    (replies.take (n + 1)).tail = replies.tail.take n := by
  cases replies with
  | nil => rw [List.take_nil, List.tail_nil, List.take_nil]
  | cons reply replies => rfl

/-- An exchange looks at one reply more than there are redirections left. -/
theorem follow_take (network : Network) (redirects : Nat) :
    ∀ (time : Nat) (step : Step) (replies : List Reply),
      follow network redirects time step (replies.take (redirects + 1)) =
        follow network redirects time step replies := by
  induction redirects with
  | zero =>
      intro time step replies
      rw [follow_zero, follow_zero, nextReply_take]
  | succ redirects ih =>
      intro time step replies
      rw [follow_succ, follow_succ, nextReply_take, tail_take]
      simp only [ih]

/-! ## Posting -/

/-- Calls that post a text to an address, and go where they are redirected. -/
structure WellShaped (url : Url) (text : String) (replies : List Reply) (calls : List Call) :
    Prop where
  bounded : calls.length ≤ 11
  runs : ∃ posts gets, calls = posts ++ gets ∧ (∀ call ∈ posts, call.Posts text) ∧
    ∀ call ∈ gets, call.Gets
  first : ∀ call ∈ calls.head?, call.Posts text ∧
    call.url = url.withoutCredentials.withoutFragment
  repeated : ∀ (i : Nat) (call : Call), calls[i + 1]? = some call → call.method = .post →
    (nextReply (replies.drop i)).status = 307 ∨ (nextReply (replies.drop i)).status = 308

section

variable (network : Network) (timeout : Nat) (url : Url) (text : String) (replies : List Reply)

theorem post_wellShaped :
    WellShaped url text replies (post network timeout url text replies).calls := by
  obtain ⟨steps, htrail, hlength, hcalls⟩ := exists_trail_post network timeout url text replies
  have hposts : (firstStep url text).Posts text := ⟨rfl, rfl⟩
  rw [hcalls]
  constructor
  case bounded =>
    rw [List.length_map]
    exact hlength
  case runs =>
    obtain ⟨posts, gets, rfl, hall, hrest⟩ := htrail.runs hposts
    refine ⟨posts.map Step.call, gets.map Step.call, List.map_append, ?_, ?_⟩
    · exact List.forall_mem_map.mpr fun s hs => (hall s hs).call
    · exact List.forall_mem_map.mpr fun s hs => (hrest s hs).call
  case first =>
    intro call hcall
    rw [List.head?_map, Option.mem_map] at hcall
    obtain ⟨s, hs, rfl⟩ := hcall
    rw [htrail.eq_of_head? hs]
    exact ⟨hposts.call, (firstStep_call url text).2⟩
  case repeated =>
    intro i call hcall hpost
    rw [List.getElem?_map, Option.map_eq_some_iff] at hcall
    obtain ⟨s, hs, rfl⟩ := hcall
    exact (asksToRepeat_iff _).mp (htrail.asksToRepeat i s hs hpost)

/-- A post comes to the same whatever stands behind the eleventh reply. -/
theorem post_take :
    post network timeout url text (replies.take 11) = post network timeout url text replies := by
  have hfollow : follow network maxRedirects timeout (firstStep url text) (replies.take 11) =
      follow network maxRedirects timeout (firstStep url text) replies :=
    follow_take network maxRedirects timeout (firstStep url text) replies
  simp only [firstStep, plainUrl] at hfollow
  simp only [post, hfollow]

end

end ChatGateway.Exchange
