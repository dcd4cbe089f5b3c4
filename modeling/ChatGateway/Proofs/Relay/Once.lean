import ChatGateway.Proofs.Exchange.Redirects
import ChatGateway.Proofs.Relay.Gate

/-!
# Forwarding once

A request is meant to be forwarded once: one post to the configured address, and
nothing else.  The client follows redirections by default, so the reply to that post
decides.  `forwardsOnce_iff` gives the exact condition, both for a second call of any
kind and for a second post of the messages.  It holds in whatever way the network writes the
host names that a reply sends to.
-/

namespace ChatGateway.Relay

open Exchange (Call Reply Callable SendsOn isPost nextReply plainUrl)

/-- The calls of a request that is forwarded once: there is one at most, and it posts to
the configured address, which is called without its credentials and its fragment. -/
structure ForwardsOnce (server : ModelServer) (calls : List Call) : Prop where
  length_le_one : calls.length ≤ 1
  posted : ∀ call ∈ calls, call.method = .post ∧
    call.url = server.url.withoutCredentials.withoutFragment

/-- The model server can be called, and its reply to the post sends the gateway on. -/
structure Redirects (server : ModelServer) (replies : List Reply) : Prop where
  callable : Callable server.network (plainUrl server.url)
  sendsOn : ∃ target,
    SendsOn server.network server.timeout (plainUrl server.url) (nextReply replies) target

theorem forwardsOnce_nil (server : ModelServer) : ForwardsOnce server [] where
  length_le_one := Nat.zero_le 1
  posted := by simp

/-- Calls that begin with the post are one post exactly if there are no more. -/
theorem forwardsOnce_cons_iff (server : ModelServer) (body : String) (calls : List Call) :
    ForwardsOnce server ((Exchange.firstStep server.url body).call :: calls) ↔
      ((Exchange.firstStep server.url body).call :: calls).length ≤ 1 := by
  refine ⟨fun h => h.length_le_one, fun h => ⟨h, ?_⟩⟩
  obtain rfl : calls = [] := by simpa using h
  intro call hcall
  rw [List.mem_singleton.mp hcall]
  exact Exchange.firstStep_call server.url body

/-- **When a request is forwarded once.**  A request that breaks no rule leads to more
than one post to the configured address exactly if the reply to that post redirects it.
Its messages are posted a second time exactly if that reply also asks to repeat the
request. -/
theorem forwardsOnce_iff (server : ModelServer) (replies : List Reply) (r : ChatRequest) :
    (ForwardsOnce server (handle server replies r).calls ↔
      ¬ (r.Admissible ∧ Redirects server replies)) ∧
    (((handle server replies r).calls.filter isPost).length ≤ 1 ↔
      ¬ (r.Admissible ∧ Redirects server replies ∧
        Exchange.Status.asksToRepeat (nextReply replies).status)) := by
  by_cases hr : r.Admissible
  swap
  · rw [handle_of_not_admissible hr]
    exact ⟨by simp [hr, forwardsOnce_nil], by simp [hr]⟩
  rw [handle_of_admissible hr]
  simp only [hr, true_and]
  by_cases hcallable : Callable server.network (plainUrl server.url)
  swap
  -- nothing is called, so nothing is redirected
  · have hnot : ¬ Redirects server replies := fun h => hcallable h.callable
    have hnone : (exchangeOf server replies r).calls = [] :=
      Exchange.post_calls_of_not_callable hcallable _ _ _
    rw [hnone]
    exact ⟨by simp [hnot, forwardsOnce_nil], by simp [hnot]⟩
  have hredirects : Redirects server replies ↔ ∃ target, SendsOn server.network server.timeout
      (plainUrl server.url) (nextReply replies) target :=
    ⟨fun h => h.sendsOn, fun h => ⟨hcallable, h⟩⟩
  rw [hredirects]
  refine ⟨?_, Exchange.post_posts_length_le_one_iff hcallable _ _ _⟩
  rw [← Exchange.post_calls_length_le_one_iff hcallable server.timeout
    (Completion.Payload.ofRequest r).toJson replies, exchangeOf]
  obtain ⟨calls, hcalls⟩ := Exchange.exists_post_calls_eq_cons hcallable server.timeout
    (Completion.Payload.ofRequest r).toJson replies
  rw [hcalls]
  exact forwardsOnce_cons_iff server _ calls

/-- Checked requests are not always forwarded once: here the server asks to repeat the
post at another host. -/
theorem not_always_forwardsOnce :
    ¬ ∀ (server : ModelServer) (replies : List Reply) (r : ChatRequest),
      server.url.scheme = "http" → r.check = .ok () →
        ForwardsOnce server (handle server replies r).calls := by
  intro honce
  let replies : List Reply := [{ status := 307, headers := [("Location", "http://other.test/y")] }]
  let r : ChatRequest := { messages := [{ role := "user", content := "hi" }] }
  have htwo : (handle reachableServer replies r).calls.length = 2 := by decide +kernel
  have hr : r.Admissible := by decide +kernel
  have hforwards := honce reachableServer replies r rfl (ChatRequest.check_of_admissible hr)
  have hlength := hforwards.length_le_one
  rw [htwo] at hlength
  contradiction

end ChatGateway.Relay
