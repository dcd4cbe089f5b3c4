import ChatGateway.Proofs.Json.Record
import ChatGateway.Proofs.Json.Spelled

/-!
# What readers make of trees

A reader understands trees when what it makes of a text depends on the tree of that text
alone: `Understands reader f` says that it comes to `f t` on every text of every tree
`t`.  The readers for values, texts, numbers, lists and what may be `null` all do, and
each has its own account of what a tree comes to.
-/

namespace ChatGateway.Json

open Reader

variable {α : Type}

/-- The reader makes of every text what `f` makes of its tree. -/
def Understands (reader : Reader α) (f : Tree → Option α) : Prop :=
  ∀ text t, Spelled text t → t.Distinct → Gives reader text (f t)

theorem Understands.map {β : Type} {reader : Reader α} {f : Tree → Option α}
    (h : Understands reader f) (g : α → β) :
    Understands (Reader.map g reader) fun t => (f t).map g :=
  fun text t ht hdistinct => (h text t ht hdistinct).map g

/-- Two bodies of one tree are decoded to the same end. -/
theorem Understands.decode {reader : Reader α} {f : Tree → Option α} (h : Understands reader f)
    {body : List UInt8} {t : Tree} (hbody : SpelledBody body t) (hdistinct : t.Distinct) :
    (decode reader body).toOption = f t := by
  obtain ⟨p, hp, rfl⟩ := hbody
  exact (h p.text t hp hdistinct).decode

theorem understands_value (depth : Nat) :
    Understands (value depth) fun t => t.value? depth :=
  fun _ _ h hdistinct => gives_value h hdistinct depth

/-! ## Reading by the first byte -/

theorem Tree.Begins.eq_array {t : Tree} (h : t.Begins openBracket) : ∃ items, t = .array items := by
  cases t with
  | array items => exact ⟨items, rfl⟩
  | bool b => cases b <;> exact absurd h (by simp +decide [Tree.Begins])
  | _ => exact absurd h (by simp +decide [Tree.Begins])

theorem Tree.Begins.eq_object {t : Tree} (h : t.Begins openBrace) :
    ∃ members, t = .object members := by
  cases t with
  | object members => exact ⟨members, rfl⟩
  | bool b => cases b <;> exact absurd h (by simp +decide [Tree.Begins])
  | _ => exact absurd h (by simp +decide [Tree.Begins])

theorem Tree.Begins.eq_text {t : Tree} (h : t.Begins quote) : ∃ s, t = .text s := by
  cases t with
  | text s => exact ⟨s, rfl⟩
  | bool b => cases b <;> exact absurd h (by simp +decide [Tree.Begins])
  | _ => exact absurd h (by simp +decide [Tree.Begins])

theorem Tree.Begins.eq_number {b : UInt8} {t : Tree} (h : t.Begins b)
    (hb : b = minus ∨ Ascii.isDigit b = true) : ∃ literal, t = .number literal := by
  cases t with
  | number literal => exact ⟨literal, rfl⟩
  | bool b' =>
      cases b' <;> subst h <;> exact absurd hb (by decide)
  | _ => subst h; exact absurd hb (by decide)

theorem Tree.Begins.eq_null {t : Tree} (h : t.Begins 0x6E) : t = .null := by
  cases t with
  | null => rfl
  | bool b => cases b <;> exact absurd h (by simp +decide [Tree.Begins])
  | _ => exact absurd h (by simp +decide [Tree.Begins])

theorem outcome_mistyped (expected : String) (b : UInt8) (more : List UInt8) :
    Outcome (mistyped expected b : Reader α) more none := by
  refine outcome_none fun rest => ?_
  cases h : (mistyped expected b : Reader α) (more ++ rest) with
  | error fault => exact ⟨fault, rfl⟩
  | ok read => exact absurd h mistyped_ne_ok

/-- What is read by its first byte is understood as soon as every first byte is. -/
theorem understands_byFirst {reader : UInt8 → Reader α} {f : Tree → Option α}
    (h : ∀ b more t, Spelled (b :: more) t → t.Begins b → t.Distinct →
      Outcome (reader b) more (f t)) : Understands (byFirst reader) f := by
  intro text t ht hdistinct
  obtain ⟨b, more, rfl, hb⟩ := ht.exists_cons
  exact gives_byFirst hb.isBlank (h b more t ht hb hdistinct)

/-! ## Texts, numbers, lists, and what may be missing -/

namespace Tree

/-- The text that a tree is. -/
def text? : Tree → Option String
  | .text s => some s
  | _ => none

/-- What is made of the number that a tree is, if it is in range. -/
def number? (convert : Number → Option α) : Tree → Option α
  | .number literal => (numberOf? literal).bind convert
  | _ => none

/-- The list that a tree is, if all of its items come to something. -/
def items? (f : Tree → Option α) : Tree → Option (List α)
  | .array items => items.mapM f
  | _ => none

/-- `null` comes to nothing, and that is something too. -/
def nullable? (f : Tree → Option α) : Tree → Option (Option α)
  | .null => some none
  | t => (f t).map some

/-- What a part comes to that may be missing. -/
def given? (f : Tree → Option α) : Option Tree → Option (Option α)
  | none => some none
  | some t => (f t).map some

theorem nullable?_of_ne {f : Tree → Option α} {t : Tree} (h : t ≠ .null) :
    t.nullable? f = (f t).map some := by
  cases t with
  | null => contradiction
  | _ => rfl

end Tree

theorem understands_string : Understands string Tree.text? := by
  refine understands_byFirst fun b more t ht hb _ => ?_
  by_cases hquote : b = quote
  · obtain ⟨s, rfl⟩ := (hquote ▸ hb).eq_text
    obtain ⟨content, hcontent, htext⟩ := ht.of_text
    obtain ⟨-, rfl⟩ := List.cons.inj htext
    rw [if_pos hquote]
    exact outcome_text hcontent
  · have hnone : t.text? = none := by
      cases t with
      | text s => exact absurd hb hquote
      | _ => rfl
    rw [if_neg hquote, hnone]
    exact outcome_mistyped _ _ _

theorem understands_numberOf (expected : String) (convert : Number → Except Cause α) :
    Understands (numberOf expected convert)
      (Tree.number? fun n => (convert n).toOption) := by
  refine understands_byFirst fun b more t ht hb _ => ?_
  by_cases hnumber : b = minus ∨ Ascii.isDigit b = true
  · obtain ⟨literal, rfl⟩ := hb.eq_number hnumber
    obtain ⟨rfl, hliteral⟩ := ht.of_number
    obtain ⟨b', more', hcons, -, hread, -⟩ := hliteral.exists_cons
    obtain ⟨rfl, rfl⟩ := List.cons.inj hcons
    rw [if_pos (by simpa using hnumber)]
    intro rest hrest
    cases hn : Tree.numberOf? (b :: more) with
    | none =>
        rw [hn] at hread
        obtain ⟨fault, hfault⟩ := hread.error hrest
        simp only [hfault, Tree.number?, hn]
        rfl
    | some n =>
        rw [hn] at hread
        simp only [hread.ok hrest, Tree.number?, hn, Option.bind_some]
        cases convert n <;> rfl
  · have hnone : t.number? (fun n => (convert n).toOption) = none := by
      cases t with
      | number literal => exact absurd hb hnumber
      | _ => rfl
    rw [if_neg (by simpa using hnumber), hnone]
    exact outcome_mistyped _ _ _

theorem understands_float : Understands float (Tree.number? fun n => some n.toFloat) :=
  understands_numberOf _ _

theorem understands_list {item : Reader α} {f : Tree → Option α} (h : Understands item f) :
    Understands (Reader.list item) (Tree.items? f) := by
  refine understands_byFirst fun b more t ht hb hdistinct => ?_
  by_cases hlist : b = openBracket
  · obtain ⟨trees, rfl⟩ := (hlist ▸ hb).eq_array
    obtain ⟨items, inside, hinside, hitems, rfl, htext⟩ := ht.of_array
    obtain ⟨-, rfl⟩ := List.cons.inj htext
    rw [if_pos hlist]
    refine outcome_items hitems (fun i hi => ?_) hinside
    exact h _ _ (hitems i hi) (hdistinct.of_array _ (List.mem_map_of_mem hi))
  · have hnone : t.items? f = none := by
      cases t with
      | array items => exact absurd hb hlist
      | _ => rfl
    rw [if_neg hlist, hnone]
    exact outcome_mistyped _ _ _

theorem nullable_eq_map {reader : Reader α} {text rest : List UInt8} {b : UInt8}
    (hfirst : skipBlanks text = b :: rest) (hnull : b ≠ 0x6E) :
    nullable reader text = Reader.map some reader (b :: rest) := by
  unfold nullable
  rw [hfirst]
  split
  next rest' heq => exact absurd (List.cons.inj heq).1 hnull
  · rfl

/-- What may be `null` is read as nothing there, and by its reader elsewhere. -/
theorem gives_nullable {reader : Reader α} {f : Tree → Option α} {text : List UInt8} {t : Tree}
    (ht : Spelled text t) (h : Gives reader text (f t)) :
    Gives (nullable reader) text (t.nullable? f) := by
  intro gap hgap rest hrest
  have hread := (h.outcome.map some) rest hrest
  obtain ⟨b, more, rfl, hb⟩ := ht.exists_cons
  have hskip := skipBlanks_gap_cons hgap hb.isBlank more rest
  by_cases hnull : b = 0x6E
  · obtain rfl := (hnull ▸ hb).eq_null
    subst hnull
    obtain rfl : more = wordNull := (List.cons.inj (ht.of_null.trans bytes_null)).2
    rw [nullable, hskip]
    simp only [Reader.map, expectWord_append]
    rfl
  · have ht' : t ≠ .null := by
      rintro rfl
      exact hnull hb
    rw [nullable_eq_map hskip hnull, Tree.nullable?_of_ne ht']
    exact hread

theorem understands_nullable {reader : Reader α} {f : Tree → Option α} (h : Understands reader f) :
    Understands (nullable reader) (Tree.nullable? f) :=
  fun text t ht hdistinct => gives_nullable ht (h text t ht hdistinct)

end ChatGateway.Json
