import ChatGateway.Json.Reader
import Mathlib

/-!
# Repeated steps

`repeatedly` is bounded by its text, which no reader cares about.  `Runs` is the plain
account of it: a step is taken after another, each on a shorter text than the one
before, until one is done.  Whatever runs is what `repeatedly` reads
(`Runs.repeatedly`), so a reader is described by the steps that it takes.  `Ends` is the
same account with the other ending in it: a step may also refuse, and then so does
`repeatedly` (`Ends.repeatedly`).  The other way round, what `repeatedly` has read is
known from its steps, the last one first (`of_repeatedly`).
-/

namespace ChatGateway.Json.Reader

variable {σ β : Type} {step : σ → Reader (Turn σ β)}

/-! ## Outcomes -/

theorem toOption_eq_some_iff {ε α : Type} {x : Except ε α} {a : α} :
    x.toOption = some a ↔ x = .ok a := by
  cases x <;> simp [Except.toOption]

theorem toOption_eq_none_iff {ε α : Type} {x : Except ε α} :
    x.toOption = none ↔ ∃ e, x = .error e := by
  cases x <;> simp [Except.toOption]

theorem mapM_cons_eq {α β : Type} (f : α → Option β) (a : α) (as : List α) :
    (a :: as).mapM f = (f a).bind fun b => (as.mapM f).map (b :: ·) := by
  rw [List.mapM_cons]
  cases f a <;> simp [Option.map_eq_bind]

theorem mapM_eq_some {α β : Type} {f : α → Option β} {g : α → β} {as : List α}
    (h : ∀ a ∈ as, f a = some (g a)) : as.mapM f = some (as.map g) := by
  induction as with
  | nil => rfl
  | cons a as ih =>
      obtain ⟨ha, has⟩ := List.forall_mem_cons.mp h
      rw [mapM_cons_eq, ha, ih has]
      rfl

theorem mapM_eq_some_iff {α β : Type} {f : α → Option β} {as : List α} {bs : List β} :
    as.mapM f = some bs ↔ List.Forall₂ (fun a b => f a = some b) as bs := by
  induction as generalizing bs with
  | nil => simp [eq_comm]
  | cons a as ih =>
      rw [mapM_cons_eq, Option.bind_eq_some_iff]
      simp only [Option.map_eq_some_iff, ih]
      constructor
      · rintro ⟨b, hb, bs, hbs, rfl⟩
        exact .cons hb hbs
      · rintro (_ | ⟨hb, hbs⟩)
        exact ⟨_, hb, _, hbs, rfl⟩

theorem mapM_map_eq {α β γ : Type} (f : β → Option γ) (g : α → β) (as : List α) :
    (as.map g).mapM f = as.mapM fun a => f (g a) := by
  induction as with
  | nil => rfl
  | cons a as ih => rw [List.map_cons, mapM_cons_eq, mapM_cons_eq, ih]

/-- What is made of one list from another, item by item. -/
theorem mapM_map_eq_some {α β γ : Type} {f : β → Option γ} {g : α → β} {h : α → γ} {as : List α}
    (heach : ∀ a ∈ as, f (g a) = some (h a)) : (as.map g).mapM f = some (as.map h) := by
  rw [mapM_map_eq, mapM_eq_some heach]

/-! ## Steps -/

/-- Steps lead from a state and a text to a result and the rest of the text. -/
inductive Runs (step : σ → Reader (Turn σ β)) : σ → List UInt8 → β → List UInt8 → Prop where
  | done {state : σ} {text : List UInt8} {result : β} {rest : List UInt8}
      (hstep : step state text = .ok (.done result, rest)) : Runs step state text result rest
  | again {state state' : σ} {text text' : List UInt8} {result : β} {rest : List UInt8}
      (hstep : step state text = .ok (.again state', text'))
      (hshorter : text'.length < text.length) (hruns : Runs step state' text' result rest) :
      Runs step state text result rest

/-- Steps lead from a state and a text to an ending: a result and the rest of the text,
or none where a step refuses. -/
inductive Ends (step : σ → Reader (Turn σ β)) :
    σ → List UInt8 → Option (β × List UInt8) → Prop where
  | done {state : σ} {text : List UInt8} {result : β} {rest : List UInt8}
      (hstep : step state text = .ok (.done result, rest)) :
      Ends step state text (some (result, rest))
  | refused {state : σ} {text : List UInt8} {fault : Fault}
      (hstep : step state text = .error fault) : Ends step state text none
  | again {state state' : σ} {text text' : List UInt8} {ending : Option (β × List UInt8)}
      (hstep : step state text = .ok (.again state', text'))
      (hshorter : text'.length < text.length) (hends : Ends step state' text' ending) :
      Ends step state text ending

theorem Runs.ends {state : σ} {text : List UInt8} {result : β} {rest : List UInt8}
    (h : Runs step state text result rest) : Ends step state text (some (result, rest)) := by
  induction h with
  | done hstep => exact .done hstep
  | again hstep hshorter _ ih => exact .again hstep hshorter ih

/-- A step that may refuse, with the endings of all that it may lead to. -/
theorem Ends.of_again {γ : Type} {state : σ} {text text' : List UInt8} {next : Option γ}
    {state' : γ → σ} {ending : γ → Option (β × List UInt8)}
    (hstep : (step state text).toOption = next.map fun c => (.again (state' c), text'))
    (hshorter : text'.length < text.length)
    (hends : ∀ c, Ends step (state' c) text' (ending c)) :
    Ends step state text (next.bind ending) := by
  cases next with
  | none =>
      obtain ⟨fault, hfault⟩ := toOption_eq_none_iff.mp hstep
      exact .refused hfault
  | some c => exact .again (toOption_eq_some_iff.mp hstep) hshorter (hends c)

/-- A run needs no more rounds than its text has bytes. -/
theorem Ends.repeatWithin {state : σ} {text : List UInt8} {ending : Option (β × List UInt8)}
    (h : Ends step state text ending) :
    ∀ fuel : List UInt8, text.length ≤ fuel.length →
      (repeatWithin step fuel state text).toOption = ending := by
  induction h with
  | done hstep =>
      intro fuel _
      rw [Reader.repeatWithin, hstep]
      rfl
  | refused hstep =>
      intro fuel _
      rw [Reader.repeatWithin, hstep]
      rfl
  | again hstep hshorter _ ih =>
      intro fuel hfuel
      rw [Reader.repeatWithin, hstep]
      cases fuel with
      -- a step that goes on was taken on a text that is not empty
      | nil =>
          rw [List.length_nil] at hfuel
          omega
      | cons b fuel =>
          rw [List.length_cons] at hfuel
          exact ih fuel (by omega)

theorem Ends.repeatedly {state : σ} {text : List UInt8} {ending : Option (β × List UInt8)}
    (h : Ends step state text ending) : (repeatedly step state text).toOption = ending :=
  h.repeatWithin text (Nat.le_refl _)

theorem Runs.repeatedly {state : σ} {text : List UInt8} {result : β} {rest : List UInt8}
    (h : Runs step state text result rest) :
    repeatedly step state text = .ok (result, rest) :=
  toOption_eq_some_iff.mp h.ends.repeatedly

/-- The first step of a repetition ends it, or the rest of it goes on with less fuel. -/
theorem repeatWithin_eq_ok {fuel : List UInt8} {state : σ} {text rest : List UInt8} {result : β}
    (h : repeatWithin step fuel state text = .ok (result, rest)) :
    step state text = .ok (.done result, rest) ∨
      ∃ b fuel' state' text', fuel = b :: fuel' ∧ step state text = .ok (.again state', text') ∧
        repeatWithin step fuel' state' text' = .ok (result, rest) := by
  unfold repeatWithin at h
  cases hstep : step state text with
  | error fault => simp [hstep] at h
  | ok read =>
      obtain ⟨turn, text'⟩ := read
      rw [hstep] at h
      cases turn with
      | done result' =>
          obtain ⟨rfl, rfl⟩ := Prod.mk.inj (Except.ok.inj h)
          exact Or.inl rfl
      | again state' =>
          cases fuel with
          | nil => simp [refuse] at h
          | cons b fuel' => exact Or.inr ⟨b, fuel', state', text', rfl, rfl, h⟩

/-- What holds where a step is done, and before a step if it holds behind it, holds of
everything that is read. -/
theorem of_repeatWithin {P : σ → List UInt8 → β → List UInt8 → Prop}
    (hdone : ∀ {state text result rest}, step state text = .ok (.done result, rest) →
      P state text result rest)
    (hagain : ∀ {state state' text text' result rest},
      step state text = .ok (.again state', text') → P state' text' result rest →
        P state text result rest)
    {fuel : List UInt8} {state : σ} {text : List UInt8} {result : β} {rest : List UInt8}
    (h : repeatWithin step fuel state text = .ok (result, rest)) : P state text result rest := by
  induction fuel generalizing state text with
  | nil =>
      rcases repeatWithin_eq_ok h with hstep | ⟨b, fuel', _, _, hfuel, -⟩
      · exact hdone hstep
      · contradiction
  | cons b fuel ih =>
      rcases repeatWithin_eq_ok h with hstep | ⟨c, fuel', state', text', hfuel, hstep, hmore⟩
      · exact hdone hstep
      · obtain ⟨-, rfl⟩ := List.cons.inj hfuel
        exact hagain hstep (ih hmore)

theorem of_repeatedly {P : σ → List UInt8 → β → List UInt8 → Prop}
    (hdone : ∀ {state text result rest}, step state text = .ok (.done result, rest) →
      P state text result rest)
    (hagain : ∀ {state state' text text' result rest},
      step state text = .ok (.again state', text') → P state' text' result rest →
        P state text result rest)
    {state : σ} {text : List UInt8} {result : β} {rest : List UInt8}
    (h : repeatedly step state text = .ok (result, rest)) : P state text result rest :=
  of_repeatWithin hdone hagain h

/-! ## Words and blanks -/

/-- A word is read off the front of any text that begins with it. -/
theorem expectWord_append (word rest : List UInt8) :
    expectWord word (word ++ rest) = .ok ((), rest) := by
  induction word with
  | nil => cases rest <;> rfl
  | cons b word ih => rw [List.cons_append, expectWord, if_pos rfl, ih]

/-- What follows the first byte that is no blank does not matter to the blanks. -/
theorem skipBlanks_append {text more : List UInt8} {b : UInt8} (h : skipBlanks text = b :: more)
    (rest : List UInt8) : skipBlanks (text ++ rest) = b :: (more ++ rest) := by
  rw [skipBlanks] at h ⊢
  rw [List.dropWhile_append, h]
  rfl

theorem skipBlanks_cons {b : UInt8} (h : isBlank b = false) (rest : List UInt8) :
    skipBlanks (b :: rest) = b :: rest := by
  rw [skipBlanks, List.dropWhile_cons_of_neg (by simp [h])]

end ChatGateway.Json.Reader
