import ChatGateway.Proofs.Exchange.Redirects

/-!
# Where credentials go

The credentials of an address are sent to the service that it names, and to no other
(`Confined`).  A redirection looks at neighbours only: it drops the credentials if the next
address names another service than the last one.  That is enough, because of what holds of
every step of a trail: it has no credentials, or it is still at the first service
(`Trail.home`).  A redirection away from there drops them, and one that leads back does not
find them any more (`Trail.dropped`).
-/

namespace ChatGateway

namespace Url

/-- Two addresses name one service: they agree in host and TCP number. -/
structure SameService (a b : Url) : Prop where
  host : a.host? = b.host?
  number : a.effectiveNumber? = b.effectiveNumber?

variable {a b c : Url}

theorem SameService.refl (a : Url) : a.SameService a := ⟨rfl, rfl⟩

theorem SameService.symm (h : a.SameService b) : b.SameService a := ⟨h.host.symm, h.number.symm⟩

theorem SameService.trans (h : a.SameService b) (h' : b.SameService c) : a.SameService c :=
  ⟨h.host.trans h'.host, h.number.trans h'.number⟩

theorem sameService_withoutCredentials (a : Url) : a.withoutCredentials.SameService a := by
  cases hauthority : a.authority <;>
    constructor <;> simp [withoutCredentials, host?, effectiveNumber?, hauthority]

theorem sameService_withoutFragment (a : Url) : a.withoutFragment.SameService a := ⟨rfl, rfl⟩

end Url

namespace Exchange

theorem Step.sameService_iff {a b : Url} : Step.sameService a b ↔ a.SameService b := by
  simp only [Step.sameService, Bool.and_eq_true, beq_iff_eq]
  exact ⟨fun h => ⟨h.1, h.2⟩, fun h => ⟨h.host, h.number⟩⟩

theorem Step.sameService_call (step : Step) : step.call.url.SameService step.url :=
  (Url.sameService_withoutFragment _).trans (Url.sameService_withoutCredentials _)

theorem sameService_plainUrl (url : Url) : (plainUrl url).SameService url := by
  rcases plainUrl_eq_or_eq url with h | h
  · rw [h]
    exact .refl url
  · rw [h]
    exact Url.sameService_withoutCredentials url

/-! ## Redirections -/

section

variable {idna : Url.Idna} {step next : Step} {reply : Reply}

theorem Step.FollowedBy.authorization_of_sameService (h : step.FollowedBy idna reply next)
    (hsame : step.url.SameService next.url) : next.authorization = step.authorization := by
  rw [h.authorization, if_pos (Step.sameService_iff.mpr hsame)]

theorem Step.FollowedBy.authorization_of_not_sameService (h : step.FollowedBy idna reply next)
    (hother : ¬ step.url.SameService next.url) : next.authorization = none := by
  rw [h.authorization, if_neg (mt Step.sameService_iff.mp hother)]

/-- Credentials that have been dropped do not come back. -/
theorem Step.FollowedBy.authorization_of_none (h : step.FollowedBy idna reply next)
    (hnone : step.authorization = none) : next.authorization = none := by
  rw [h.authorization, hnone, ite_self]

end

/-! ## Along a trail -/

/-- A step that is at a service, or has no credentials. -/
def Step.Home (service : Url) (step : Step) : Prop :=
  step.url.SameService service ∨ step.authorization = none

theorem Step.FollowedBy.home {idna : Url.Idna} {service : Url} {step next : Step} {reply : Reply}
    (h : step.FollowedBy idna reply next) (hstep : step.Home service) : next.Home service := by
  by_cases hsame : step.url.SameService next.url
  · rcases hstep with hhere | hnone
    · exact Or.inl (hsame.symm.trans hhere)
    · exact Or.inr (h.authorization_of_none hnone)
  · exact Or.inr (h.authorization_of_not_sameService hsame)

section

variable {idna : Url.Idna} {service : Url} {step : Step} {replies : List Reply} {steps : List Step}

theorem Trail.home (h : Trail idna step replies steps) (hstep : step.Home service) :
    ∀ s ∈ steps, s.Home service :=
  h.forall_mem (fun hfollowed => hfollowed.home) hstep

/-- A step without credentials is followed by none that has them. -/
theorem Trail.dropped (h : Trail idna step replies steps) :
    steps.Pairwise fun s t => s.authorization = none → t.authorization = none := by
  induction h with
  | nil => exact List.Pairwise.nil
  | last => exact List.pairwise_singleton _ _
  | onward hfollowed hmore ih =>
      refine List.pairwise_cons.mpr ⟨fun t ht hnone => ?_, ih⟩
      exact hmore.forall_mem (fun h => h.authorization_of_none)
        (hfollowed.authorization_of_none hnone) t ht

/-- As long as a trail has not left its first service, it has kept its credentials. -/
theorem Trail.kept (h : Trail idna step replies steps) :
    ∀ {before : List Step}, before <+: steps → (∀ s ∈ before, s.url.SameService service) →
      ∀ s ∈ before, s.authorization = step.authorization := by
  induction h with
  | nil =>
      intro before hbefore _ s hs
      rw [List.prefix_nil.mp hbefore] at hs
      contradiction
  | last =>
      intro before hbefore _ s hs
      rw [List.mem_singleton.mp (hbefore.subset hs)]
  | @onward step next replies steps hfollowed hmore ih =>
      intro before hbefore hsame s hs
      obtain rfl | ⟨rest, rfl, hrest⟩ := List.prefix_cons_iff.mp hbefore
      · contradiction
      obtain ⟨hhere, hsame⟩ := List.forall_mem_cons.mp hsame
      rcases List.mem_cons.mp hs with rfl | hs
      · rfl
      -- there is a next step, so it is at the service too, and nothing is dropped on the way
      obtain ⟨t, more, rfl⟩ := List.exists_cons_of_ne_nil (List.ne_nil_of_mem hs)
      have hnext : t = next := by
        obtain ⟨after, rfl⟩ := hrest
        exact hmore.eq_of_head? rfl
      have hthere : next.url.SameService service := hnext ▸ hsame t List.mem_cons_self
      rw [ih hrest hsame s hs, hfollowed.authorization_of_sameService (hhere.trans hthere.symm)]

end

/-! ## Posting -/

/-- Calls that keep the credentials of an address to the service that it names. -/
structure Confined (service : Url) (authorization : Option String) (calls : List Call) : Prop where
  /-- A call with credentials goes to the service. -/
  home : ∀ call ∈ calls, call.authorization ≠ none → call.url.SameService service
  /-- From the first call to another service on, no call has them. -/
  dropped : ∀ before away after, calls = before ++ away :: after →
    ¬ away.url.SameService service → ∀ call ∈ away :: after, call.authorization = none
  /-- Until then every call has them. -/
  kept : ∀ before, before <+: calls → (∀ call ∈ before, call.url.SameService service) →
    ∀ call ∈ before, call.authorization = authorization

theorem confined_nil (service : Url) (authorization : Option String) :
    Confined service authorization [] where
  home := by simp
  dropped := by simp
  kept := by simp

theorem post_confined (network : Network) (timeout : Nat) (url : Url) (text : String)
    (replies : List Reply) :
    Confined url (takeCredentials url).2 (post network timeout url text replies).calls := by
  obtain ⟨steps, htrail, -, hcalls⟩ := exists_trail_post network timeout url text replies
  have hfirst : (firstStep url text).Home url := Or.inl (sameService_plainUrl url)
  have hhome : ∀ s ∈ steps, s.call.authorization ≠ none → s.call.url.SameService url := by
    intro s hs hsome
    rcases htrail.home hfirst s hs with hhere | hnone
    · exact s.sameService_call.trans hhere
    · exact absurd hnone hsome
  rw [hcalls]
  constructor
  case home => exact List.forall_mem_map.mpr hhome
  case dropped =>
    intro before away after hsplit hother
    obtain ⟨first, rest, rfl, rfl, hrest⟩ := List.map_eq_append_iff.mp hsplit
    obtain ⟨s, more, rfl, rfl, rfl⟩ := List.map_eq_cons_iff.mp hrest
    have hnone : s.authorization = none := by
      by_contra hsome
      exact hother (hhome s (by simp) hsome)
    have hlater := (List.pairwise_append.mp htrail.dropped).2.1
    refine List.forall_mem_cons.mpr ⟨hnone, List.forall_mem_map.mpr fun t ht => ?_⟩
    exact (List.pairwise_cons.mp hlater).1 t ht hnone
  case kept =>
    intro before hbefore hsame
    obtain ⟨first, hprefix, rfl⟩ := List.prefix_map_iff.mp hbefore
    have hsame' : ∀ s ∈ first, s.url.SameService url := fun s hs =>
      s.sameService_call.symm.trans (hsame s.call (List.mem_map_of_mem hs))
    exact List.forall_mem_map.mpr fun s hs => htrail.kept hprefix hsame' s hs

end Exchange

end ChatGateway
