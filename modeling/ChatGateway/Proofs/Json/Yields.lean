import ChatGateway.Json.Decode
import ChatGateway.Proofs.Json.Record
import ChatGateway.Proofs.Json.Written

/-!
# What readers can yield

`Yields reader P` says that whatever the reader takes has the property `P`, without
saying what it takes.  A repetition yields what its steps keep true (`yields_repeatedly`),
and so do lists, objects and records.

Values are read with the members of their objects in order, and with no more brackets
open than the depth allows (`yields_value`).  Where `null` is read as nothing, no `null`
is yielded (`yields_nullable_value`).
-/

namespace ChatGateway.Json

open Reader

variable {α β σ : Type}

/-- Whatever the reader takes has the property. -/
def Yields (reader : Reader α) (P : α → Prop) : Prop :=
  ∀ text a rest, reader text = .ok (a, rest) → P a

theorem Yields.imp {reader : Reader α} {P Q : α → Prop} (h : Yields reader P)
    (himp : ∀ a, P a → Q a) : Yields reader Q :=
  fun text a rest hread => himp a (h text a rest hread)

theorem yields_map {reader : Reader α} {f : α → β} {P : β → Prop}
    (h : Yields reader fun a => P (f a)) : Yields (Reader.map f reader) P := by
  intro text b rest hread
  cases h' : reader text with
  | error fault => simp [Reader.map, h'] at hread
  | ok read =>
      obtain ⟨a, rest'⟩ := read
      simp only [Reader.map, h', Except.ok.injEq, Prod.mk.injEq] at hread
      obtain ⟨rfl, -⟩ := hread
      exact h text a rest' h'

theorem yields_mistyped (expected : String) (b : UInt8) (P : α → Prop) :
    Yields (mistyped expected b) P :=
  fun _ _ _ hread => absurd hread mistyped_ne_ok

theorem yields_byFirst {reader : UInt8 → Reader α} {P : α → Prop}
    (h : ∀ b, Yields (reader b) P) : Yields (byFirst reader) P := by
  intro text a rest hread
  unfold byFirst at hread
  split at hread
  · contradiction
  · exact h _ _ a rest hread

theorem Yields.decode {reader : Reader α} {P : α → Prop} (h : Yields reader P)
    {body : List UInt8} {a : α} (hdecode : decode reader body = .ok a) : P a := by
  unfold Json.decode entire at hdecode
  cases hread : reader body with
  | error fault => simp [hread] at hdecode
  | ok read =>
      obtain ⟨a', rest⟩ := read
      simp only [hread] at hdecode
      cases hrest : skipBlanks rest with
      | nil =>
          simp only [hrest, Except.ok.injEq] at hdecode
          exact hdecode ▸ h body a' rest hread
      | cons b unread => simp [hrest, refuse] at hdecode

/-! ## Repetition -/

/-- What a step makes of a state that has been reached. -/
def StepKeeps (step : σ → Reader (Turn σ β)) (inv : σ → Prop) (P : β → Prop) : Prop :=
  ∀ state, inv state → Yields (step state) fun turn =>
    match turn with
    | .again state' => inv state'
    | .done result => P result

/-- What every step keeps is true of the result. -/
theorem yields_repeatedly {step : σ → Reader (Turn σ β)} {inv : σ → Prop} {P : β → Prop}
    (hstep : StepKeeps step inv P) {state : σ} (hstate : inv state) :
    Yields (repeatedly step state) P := by
  intro text result rest h
  have hread : inv state → P result :=
    of_repeatedly (P := fun state _ result _ => inv state → P result)
      (fun hdone hstate => hstep _ hstate _ _ _ hdone)
      (fun hagain hmore hstate => hmore (hstep _ hstate _ _ _ hagain)) h
  exact hread hstate

theorem yields_listOf {item : Reader α} {P : α → Prop} (h : Yields item P) :
    Yields (listOf item) fun items => ∀ a ∈ items, P a := by
  have hstep : StepKeeps (itemStep item) (fun items => ∀ a ∈ items, P a)
      fun items => ∀ a ∈ items, P a := by
    intro items hitems text turn rest hread
    unfold itemStep at hread
    split at hread
    · contradiction
    · obtain ⟨rfl, -⟩ := Prod.mk.inj (Except.ok.inj hread)
      intro a ha
      exact hitems a (List.mem_reverse.mp ha)
    split at hread
    · contradiction
    next a rest' hitem =>
      obtain ⟨rfl, -⟩ := Prod.mk.inj (Except.ok.inj hread)
      exact List.forall_mem_cons.mpr ⟨h _ _ _ hitem, hitems⟩
  exact yields_repeatedly hstep (List.forall_mem_nil _)

theorem yields_objectOf {item : Reader α} {P : α → Prop} (h : Yields item P) :
    Yields (objectOf item) fun members => ∀ m ∈ members, P m.2 := by
  have hstep : StepKeeps (memberStep item) (fun members => ∀ m ∈ members, P m.2)
      fun members => ∀ m ∈ members, P m.2 := by
    intro members hmembers text turn rest hread
    unfold memberStep at hread
    split at hread
    · contradiction
    · obtain ⟨rfl, -⟩ := Prod.mk.inj (Except.ok.inj hread)
      intro m hm
      exact hmembers m (List.mem_reverse.mp hm)
    split at hread
    · contradiction
    split at hread
    · contradiction
    split at hread
    · contradiction
    next a rest' hitem =>
      obtain ⟨rfl, -⟩ := Prod.mk.inj (Except.ok.inj hread)
      exact List.forall_mem_cons.mpr ⟨h _ _ _ hitem, hmembers⟩
  exact yields_repeatedly hstep (List.forall_mem_nil _)

theorem yields_list {item : Reader α} {P : α → Prop} (h : Yields item P) :
    Yields (Reader.list item) fun items => ∀ a ∈ items, P a := by
  refine yields_byFirst fun b => ?_
  split
  · exact yields_listOf h
  · exact yields_mistyped _ _ _

/-! ## Values -/

/-- A value that has been read with at most `depth` brackets open. -/
def Value.Read (depth : Nat) (v : Value) : Prop := v.Ordered ∧ v.Within depth

theorem yields_scalar (b : UInt8) (depth : Nat) : Yields (scalar b) (Value.Read depth) := by
  unfold scalar
  split
  · exact yields_map fun _ _ _ _ => ⟨.null, .null⟩
  split
  · exact yields_map fun _ _ _ _ => ⟨.bool _, .bool _⟩
  split
  · exact yields_map fun _ _ _ _ => ⟨.bool _, .bool _⟩
  split
  · exact yields_map fun _ _ _ _ => ⟨.number trivial, .number _⟩
  split
  · exact yields_map fun _ _ _ _ => ⟨.text _, .text _⟩
  · exact fun _ _ _ hread => by contradiction

theorem Value.Read.ofMembers {depth : Nat} {members : List (String × Value)}
    (h : ∀ m ∈ members, m.2.Read depth) : (Value.ofMembers members).Read (depth + 1) := by
  have hmem : ∀ m ∈ Value.ordered members, m.2.Read depth :=
    fun m hm => h m (Value.mem_of_mem_ordered hm)
  refine ⟨.object ?_ fun m hm => (hmem m hm).1, .object fun m hm => (hmem m hm).2⟩
  exact List.pairwise_map.mpr (Value.ordered_inOrder members)

/-- **A value is read with its objects in order and its brackets within the depth.** -/
theorem yields_value (depth : Nat) : Yields (value depth) (Value.Read depth) := by
  induction depth with
  | zero =>
      intro text v rest hread
      unfold value at hread
      split at hread
      · contradiction
      split at hread
      · contradiction
      · exact yields_scalar _ 0 _ v rest hread
  | succ depth ih =>
      intro text v rest hread
      unfold value at hread
      split at hread
      · contradiction
      split at hread
      · exact yields_map ((yields_listOf ih).imp fun items hitems =>
          ⟨.array fun v hv => (hitems v hv).1, .array fun v hv => (hitems v hv).2⟩) _ v rest hread
      split at hread
      · exact yields_map ((yields_objectOf ih).imp fun members hmembers =>
          Value.Read.ofMembers hmembers) _ v rest hread
      · exact yields_scalar _ _ _ v rest hread

/-! ## What may be null -/

theorem yields_scalar_ne_null {b : UInt8} (hb : b ≠ 0x6E) : Yields (scalar b) (· ≠ .null) := by
  unfold scalar
  rw [if_neg hb]
  split
  · exact yields_map fun _ _ _ _ => Value.noConfusion
  split
  · exact yields_map fun _ _ _ _ => Value.noConfusion
  split
  · exact yields_map fun _ _ _ _ => Value.noConfusion
  split
  · exact yields_map fun _ _ _ _ => Value.noConfusion
  · exact fun _ _ _ hread => by contradiction

/-- Only a text that begins like `null` is read as `null`. -/
theorem ne_null_of_value {depth : Nat} {text more rest : List UInt8} {b : UInt8} {v : Value}
    (hfirst : skipBlanks text = b :: more) (hb : b ≠ 0x6E)
    (hread : value depth text = .ok (v, rest)) : v ≠ .null := by
  cases depth with
  | zero =>
      simp only [value, hfirst] at hread
      split at hread
      · contradiction
      · exact yields_scalar_ne_null hb _ _ _ hread
  | succ depth =>
      simp only [value, hfirst] at hread
      split at hread
      · have harray : Yields (Reader.map Value.array (listOf (value depth))) (· ≠ .null) :=
          yields_map fun _ _ _ _ => Value.noConfusion
        exact harray _ _ _ hread
      split at hread
      · have hobject : Yields (Reader.map Value.ofMembers (objectOf (value depth))) (· ≠ .null) :=
          yields_map fun _ _ _ _ => Value.noConfusion
        exact hobject _ _ _ hread
      · exact yields_scalar_ne_null hb _ _ _ hread

theorem yields_nullable_value (depth : Nat) :
    Yields (nullable (value depth)) fun v? => ∀ v ∈ v?, v.Read depth ∧ v ≠ .null := by
  intro text v? rest hread
  unfold nullable at hread
  split at hread
  · have hnone : Yields (Reader.map (fun _ => (none : Option Value)) (expectWord wordNull))
        fun v? => ∀ v ∈ v?, v.Read depth ∧ v ≠ .null :=
      yields_map fun _ _ _ _ _ hv => absurd hv (Option.not_mem_none _)
    exact hnone _ _ _ hread
  next hnull =>
    cases hvalue : value depth (skipBlanks text) with
    | error fault => simp [Reader.map, hvalue] at hread
    | ok read =>
        obtain ⟨v, rest'⟩ := read
        simp only [Reader.map, hvalue, Except.ok.injEq, Prod.mk.injEq] at hread
        obtain ⟨rfl, -⟩ := hread
        rintro v' ⟨⟩
        refine ⟨yields_value depth _ _ _ hvalue, ?_⟩
        -- the reader of the value skips blanks once more, and finds none
        have hskip : skipBlanks (skipBlanks text) = skipBlanks text := by
          simp [skipBlanks, List.dropWhile_idempotent]
        cases hfirst : skipBlanks text with
        | nil =>
            have hempty := hskip.trans hfirst
            cases depth <;> simp [value, hempty, refuse] at hvalue
        | cons b more =>
            have hb : b ≠ 0x6E := by
              rintro rfl
              exact hnull more hfirst
            exact ne_null_of_value (hskip.trans hfirst) hb hvalue

/-! ## Records -/

section

variable {record : Record σ α} {inv : σ → Prop}

theorem yields_positions {fields : List (Reader.Field σ)}
    (hfields : ∀ field ∈ fields, ∀ draft, inv draft → Yields (field.read draft) inv) :
    ∀ (index : Nat) (draft : σ), inv draft → Yields (record.positions fields index draft) inv := by
  induction fields with
  | nil =>
      intro index draft hdraft text draft' rest hread
      obtain ⟨rfl, -⟩ := Prod.mk.inj (Except.ok.inj hread)
      exact hdraft
  | cons field fields ih =>
      intro index draft hdraft text draft' rest hread
      obtain ⟨hfield, hfields⟩ := List.forall_mem_cons.mp hfields
      unfold Record.positions at hread
      split at hread
      · contradiction
      · split at hread
        · contradiction
        next draft'' rest' hitem =>
          exact ih hfields _ draft'' (hfield draft hdraft _ _ _ hitem) _ _ _ hread
      · split at hread
        · exact ih hfields _ draft hdraft _ _ _ hread
        · contradiction

theorem yields_memberValue
    (hfields : ∀ field ∈ record.fields, ∀ draft, inv draft → Yields (field.read draft) inv)
    (name : String) {draft : σ} (hdraft : inv draft) :
    Yields (record.memberValue name draft) inv := by
  intro text draft' rest hread
  unfold Record.memberValue at hread
  split at hread
  · split at hread
    · contradiction
    · exact yields_map (fun _ _ _ _ => hdraft) _ _ _ hread
  next field hfind =>
    split at hread
    · contradiction
    split at hread
    · contradiction
    · exact hfields field (List.mem_of_find?_eq_some hfind) draft hdraft _ _ _ hread

theorem yields_settle {draft : σ} (hdraft : inv draft) {text rest : List UInt8} {a : α}
    (hread : record.settle draft text = .ok (a, rest)) :
    ∃ draft, inv draft ∧ record.complete draft = .ok a := by
  unfold Record.settle at hread
  split at hread
  next a' hcomplete =>
    obtain ⟨rfl, -⟩ := Prod.mk.inj (Except.ok.inj hread)
    exact ⟨draft, hdraft, hcomplete⟩
  · contradiction

theorem stepKeeps_fieldStep
    (hfields : ∀ field ∈ record.fields, ∀ draft, inv draft → Yields (field.read draft) inv) :
    StepKeeps record.fieldStep (fun state => inv state.2) inv := by
  rintro ⟨first, draft⟩ hstate text turn rest hread
  simp only [Record.fieldStep] at hread
  split at hread
  · contradiction
  · obtain ⟨rfl, -⟩ := Prod.mk.inj (Except.ok.inj hread)
    exact hstate
  split at hread
  · contradiction
  split at hread
  · contradiction
  next draft' rest' hvalue =>
    obtain ⟨rfl, -⟩ := Prod.mk.inj (Except.ok.inj hread)
    exact yields_memberValue hfields _ hstate _ _ _ hvalue

theorem yields_listForm (hempty : inv record.empty)
    (hfields : ∀ field ∈ record.fields, ∀ draft, inv draft → Yields (field.read draft) inv) :
    Yields record.listForm fun a => ∃ draft, inv draft ∧ record.complete draft = .ok a := by
  intro text a rest hread
  unfold Record.listForm at hread
  split at hread
  · contradiction
  next draft rest' hpositions =>
    split at hread
    · contradiction
    · exact yields_settle (yields_positions hfields 0 _ hempty _ _ _ hpositions) hread

theorem yields_objectForm (hempty : inv record.empty)
    (hfields : ∀ field ∈ record.fields, ∀ draft, inv draft → Yields (field.read draft) inv) :
    Yields record.objectForm fun a => ∃ draft, inv draft ∧ record.complete draft = .ok a := by
  intro text a rest hread
  unfold Record.objectForm at hread
  split at hread
  · contradiction
  next draft rest' hmembers =>
    have hdraft := yields_repeatedly (stepKeeps_fieldStep hfields) hempty _ _ _ hmembers
    exact yields_settle hdraft hread

/-- **A record is completed from a draft with every property that its fields keep.** -/
theorem yields_record (hempty : inv record.empty)
    (hfields : ∀ field ∈ record.fields, ∀ draft, inv draft → Yields (field.read draft) inv) :
    Yields record.reader fun a => ∃ draft, inv draft ∧ record.complete draft = .ok a := by
  refine yields_byFirst fun b => ?_
  split
  · exact yields_listForm hempty hfields
  split
  · exact yields_objectForm hempty hfields
  · exact yields_mistyped _ _ _

end

end ChatGateway.Json
