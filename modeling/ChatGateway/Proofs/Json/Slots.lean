import ChatGateway.Proofs.Json.Skipped

/-!
# What a record makes of a tree

A record reads its fields from the members of an object or from the items of a list.  A
`Slot` is a field together with what it makes of a tree; a `Layout` says that the fields
of a record are slots that do not get in each other's way.

Then a record understands trees (`Layout.understands`).  The members of an object are
read in the order of the text.  Because the slots do not get in each other's way, that
comes to looking up each field by its name (`foldlM_place`), whatever the order of the
members, and whatever other members there are.
-/

namespace ChatGateway.Json

open Reader

/-! ## Looking up members -/

variable {β : Type}

theorem lookup_eq_none_of_notMem {name : String} {members : List (String × β)}
    (h : name ∉ members.map Prod.fst) : members.lookup name = none := by
  rw [List.lookup_eq_none_iff]
  intro m hm
  have hne : name ≠ m.1 := fun heq => h (heq ▸ List.mem_map_of_mem hm)
  simpa using hne

theorem lookup_cons_of_eq {name : String} {m : String × β} (h : name = m.1)
    (members : List (String × β)) : (m :: members).lookup name = some m.2 := by
  rw [h]
  exact List.lookup_cons_self

theorem lookup_cons_of_ne {name : String} {m : String × β} (h : name ≠ m.1)
    (members : List (String × β)) : (m :: members).lookup name = members.lookup name := by
  rw [List.lookup_cons, beq_false_of_ne h]

theorem mem_of_lookup {name : String} {b : β} {members : List (String × β)}
    (h : members.lookup name = some b) : (name, b) ∈ members := by
  obtain ⟨before, after, rfl, -⟩ := List.lookup_eq_some_iff.mp h
  simp

theorem lookup_eq_some_iff_mem {name : String} {b : β} {members : List (String × β)}
    (hnames : (members.map Prod.fst).Nodup) :
    members.lookup name = some b ↔ (name, b) ∈ members := by
  refine ⟨mem_of_lookup, fun hmem => ?_⟩
  induction members with
  | nil => contradiction
  | cons m members ih =>
      obtain ⟨hnew, hnames⟩ := List.nodup_cons.mp hnames
      rcases List.mem_cons.mp hmem with rfl | hmem
      · exact List.lookup_cons_self
      · have hne : name ≠ m.1 := fun heq => hnew (heq ▸ List.mem_map_of_mem hmem)
        rw [lookup_cons_of_ne hne, ih hnames hmem]

/-- The order of members does not matter to a look-up. -/
theorem lookup_perm {members members' : List (String × β)} (hperm : members.Perm members')
    (hnames : (members.map Prod.fst).Nodup) (name : String) :
    members.lookup name = members'.lookup name := by
  have hnames' : (members'.map Prod.fst).Nodup := (hperm.map Prod.fst).nodup_iff.mp hnames
  ext b
  rw [lookup_eq_some_iff_mem hnames, lookup_eq_some_iff_mem hnames', hperm.mem_iff]

theorem lookup_map {γ : Type} (f : β → γ) (name : String) (members : List (String × β)) :
    (members.map fun m => (m.1, f m.2)).lookup name = (members.lookup name).map f := by
  induction members with
  | nil => rfl
  | cons m members ih =>
      by_cases hname : name = m.1
      · rw [List.map_cons, lookup_cons_of_eq (m := (m.1, f m.2)) hname, lookup_cons_of_eq hname,
          Option.map_some]
      · rw [List.map_cons, lookup_cons_of_ne (m := (m.1, f m.2)) hname, lookup_cons_of_ne hname, ih]

/-! ## Slots -/

/-- A field of a record, and what it makes of a tree. -/
structure Slot (σ : Type) where
  name : String
  Content : Type
  reader : Reader Content
  ofTree? : Tree → Option Content
  understands : Understands reader ofTree?
  given : σ → Bool
  put : σ → Content → σ
  mayEnd : Bool := false

variable {σ α : Type}

namespace Slot

/-- The field as the record has it. -/
def field (s : Slot σ) : Reader.Field σ where
  name := s.name
  given := s.given
  read draft := Reader.map (s.put draft) s.reader
  mayEnd := s.mayEnd

/-- Puts what a tree comes to into a draft. -/
def read? (s : Slot σ) (draft : σ) (t : Tree) : Option σ := (s.ofTree? t).map (s.put draft)

/-- What the member called `name` does to a draft: one that is not asked for does
nothing, and one that is given already is refused. -/
def place (slots : List (Slot σ)) (name : String) (draft : σ) (t : Tree) : Option σ :=
  match slots.find? (·.name == name) with
  | none => some draft
  | some s => if s.given draft then none else s.read? draft t

/-- Enters what a member comes to into a draft, unless the slot is filled already. -/
def enter (s : Slot σ) (content : Option s.Content) (draft : σ) : Option σ :=
  if s.given draft then none else content.map (s.put draft)

/-- Fills the slots with the trees that `find` has for their names. -/
def fill (find : String → Option Tree) : List (Slot σ) → σ → Option σ
  | [], draft => some draft
  | s :: slots, draft =>
    match find s.name with
    | none => fill find slots draft
    | some t => (s.read? draft t).bind (fill find slots)

/-- Fills the slots with trees in their order. -/
def fillInOrder : List (Slot σ) → List Tree → σ → Option σ
  | [], [], draft => some draft
  | [], _ :: _, _ => none
  | s :: slots, [], draft => if s.mayEnd then fillInOrder slots [] draft else none
  | s :: slots, t :: ts, draft => (s.read? draft t).bind (fillInOrder slots ts)

/-- The items are for the slots in their order.  There may be more slots than items, and
more items than slots. -/
inductive Fits : List (Slot σ) → List (Padded × Tree) → Prop where
  | short (slots : List (Slot σ)) : Fits slots []
  | long {items : List (Padded × Tree)} (hopens : ∀ i ∈ items, Opens i.1.text) : Fits [] items
  | cons {s : Slot σ} {slots : List (Slot σ)} {i : Padded × Tree} {items : List (Padded × Tree)}
      (hopens : Opens i.1.text) (hgives : Gives s.reader i.1.text (s.ofTree? i.2))
      (h : Fits slots items) : Fits (s :: slots) (i :: items)

theorem fits_of_spelled {items : List (Padded × Tree)} (slots : List (Slot σ))
    (hitems : ∀ i ∈ items, Spelled i.1.text i.2 ∧ i.2.Distinct) : Fits slots items := by
  induction slots generalizing items with
  | nil => exact .long fun i hi => (hitems i hi).1.opens
  | cons s slots ih =>
      cases items with
      | nil => exact .short _
      | cons i items =>
          obtain ⟨⟨hi, hdistinct⟩, hitems⟩ := List.forall_mem_cons.mp hitems
          exact .cons hi.opens (s.understands _ _ hi hdistinct) (ih hitems)

theorem fill_congr {find find' : String → Option Tree} {slots : List (Slot σ)}
    (h : ∀ s ∈ slots, find s.name = find' s.name) (draft : σ) :
    fill find slots draft = fill find' slots draft := by
  induction slots generalizing draft with
  | nil => rfl
  | cons s slots ih =>
      obtain ⟨hs, hslots⟩ := List.forall_mem_cons.mp h
      have hrest : fill find slots = fill find' slots := funext (ih hslots)
      rw [fill, fill, hs, hrest]

theorem fill_none (slots : List (Slot σ)) (draft : σ) :
    fill (fun _ => none) slots draft = some draft := by
  induction slots with
  | nil => rfl
  | cons s slots ih => rw [fill, ih]

/-- What is put into two slots can be put in in either order. -/
def Commute (s s' : Slot σ) : Prop :=
  ∀ draft c c', s.put (s'.put draft c') c = s'.put (s.put draft c) c'

theorem Commute.read? {s s' : Slot σ} (h : s.Commute s') (draft : σ) (t t' : Tree) :
    ((s.read? draft t).bind fun draft => s'.read? draft t') =
      (s'.read? draft t').bind fun draft => s.read? draft t := by
  unfold Slot.read?
  cases s.ofTree? t with
  | none => cases s'.ofTree? t' <;> rfl
  | some c =>
      cases s'.ofTree? t' with
      | none => rfl
      | some c' => exact congrArg some (h draft c c').symm

/-- A slot can be filled before all others. -/
theorem read?_bind_fill {find find' : String → Option Tree} {slots : List (Slot σ)} {s : Slot σ}
    {t : Tree} (hs : s ∈ slots) (hnames : (slots.map Slot.name).Nodup)
    (hcommute : ∀ s' ∈ slots, s'.name ≠ s.name → s.Commute s') (hfind : find s.name = none)
    (hfind' : find' s.name = some t) (hothers : ∀ name, name ≠ s.name → find name = find' name)
    (draft : σ) :
    (s.read? draft t).bind (fill find slots) = fill find' slots draft := by
  induction slots generalizing draft with
  | nil => exact absurd hs List.not_mem_nil
  | cons s' slots ih =>
      rw [List.map_cons, List.nodup_cons] at hnames
      obtain ⟨hnew, hnames⟩ := hnames
      obtain ⟨hcommute', hcommute⟩ := List.forall_mem_cons.mp hcommute
      rcases List.mem_cons.mp hs with rfl | hs
      · have hrest : fill find slots = fill find' slots := by
          refine funext (fill_congr fun s' hs' => hothers _ fun heq => hnew ?_)
          exact List.mem_map.mpr ⟨s', hs', heq⟩
        simp only [fill, hfind, hfind', hrest]
      · have hne : s'.name ≠ s.name := by
          intro heq
          exact hnew (heq ▸ List.mem_map_of_mem hs)
        have hrest := ih hs hnames hcommute
        rw [fill, ← hothers _ hne]
        cases hfound : find s'.name with
        | none => simp only [fill, hfound, hrest]
        -- the slot changes places with the one before it
        | some t' =>
            calc (s.read? draft t).bind (fill find (s' :: slots))
                = ((s.read? draft t).bind fun draft => s'.read? draft t').bind
                    (fill find slots) := by simp only [fill, hfound, Option.bind_assoc]
              _ = ((s'.read? draft t').bind fun draft => s.read? draft t).bind
                    (fill find slots) := by rw [(hcommute' hne).read?]
              _ = (s'.read? draft t').bind (fill find' slots) := by
                    rw [Option.bind_assoc]
                    exact congrArg _ (funext hrest)

end Slot

/-- The fields of a record as slots that do not get in each other's way. -/
structure Layout (record : Record σ α) where
  slots : List (Slot σ)
  fields_eq : record.fields = slots.map Slot.field
  nodup : (slots.map Slot.name).Nodup
  given_empty : ∀ s ∈ slots, s.given record.empty = false
  given_put : ∀ s ∈ slots, ∀ s' ∈ slots, s'.name ≠ s.name →
    ∀ draft c, s'.given (s.put draft c) = s'.given draft
  commute : ∀ s ∈ slots, ∀ s' ∈ slots, s'.name ≠ s.name → s.Commute s'

namespace Layout

variable {record : Record σ α}

/-- A member that no slot asks for does not matter. -/
theorem fill_lookup_cons {slots : List (Slot σ)} {name : String}
    (hfind : slots.find? (·.name == name) = none) (t : Tree) (members : List (String × Tree))
    (draft : σ) :
    Slot.fill (fun other => ((name, t) :: members).lookup other) slots draft =
      Slot.fill (fun other => members.lookup other) slots draft := by
  refine Slot.fill_congr (fun s hs => ?_) draft
  have hne : (s.name == name) = false := by
    simpa using List.find?_eq_none.mp hfind s hs
  rw [List.lookup_cons, hne]

/-- A member that is placed first might as well be looked up. -/
theorem place_bind_fill (layout : Layout record) {name : String} {t : Tree}
    {members : List (String × Tree)} {draft : σ} (hnew : name ∉ members.map Prod.fst)
    (hfree : ∀ s ∈ layout.slots, s.name = name → s.given draft = false) :
    (Slot.place layout.slots name draft t).bind
        (Slot.fill (fun other => members.lookup other) layout.slots) =
      Slot.fill (fun other => ((name, t) :: members).lookup other) layout.slots draft := by
  cases hfind : layout.slots.find? (·.name == name) with
  | none =>
      rw [fill_lookup_cons hfind, Slot.place, hfind]
      rfl
  | some s =>
      have hs := List.mem_of_find?_eq_some hfind
      obtain rfl : s.name = name := by simpa using List.find?_some hfind
      have hplace : Slot.place layout.slots s.name draft t = s.read? draft t := by
        simp only [Slot.place, hfind, hfree s hs rfl, Bool.false_eq_true, if_false]
      have hother : ∀ other, other ≠ s.name →
          members.lookup other = ((s.name, t) :: members).lookup other := by
        intro other hne
        have hbeq : (other == s.name) = false := by simpa using hne
        rw [List.lookup_cons, hbeq]
      rw [hplace]
      exact Slot.read?_bind_fill hs layout.nodup (layout.commute s hs)
        (lookup_eq_none_of_notMem hnew) List.lookup_cons_self hother draft

/-- Placing a member fills no other slot. -/
theorem given_place (layout : Layout record) {name : String} {t : Tree} {draft draft' : σ}
    (hplace : Slot.place layout.slots name draft t = some draft') {s : Slot σ}
    (hs : s ∈ layout.slots) (hne : s.name ≠ name) : s.given draft' = s.given draft := by
  unfold Slot.place at hplace
  split at hplace
  · obtain rfl := Option.some.inj hplace
    rfl
  next s' hfind =>
    have hs' := List.mem_of_find?_eq_some hfind
    obtain rfl : s'.name = name := by simpa using List.find?_some hfind
    split at hplace
    · contradiction
    · obtain ⟨c, -, rfl⟩ := Option.map_eq_some_iff.mp hplace
      exact layout.given_put s' hs' s hs hne draft c

/-- **Members in any order fill a record by their names.** -/
theorem foldlM_place (layout : Layout record) {members : List (String × Tree)}
    (hnames : (members.map Prod.fst).Nodup) (draft : σ)
    (hgiven : ∀ s ∈ layout.slots, s.name ∈ members.map Prod.fst → s.given draft = false) :
    members.foldlM (fun draft m => Slot.place layout.slots m.1 draft m.2) draft =
      Slot.fill (fun name => members.lookup name) layout.slots draft := by
  induction members generalizing draft with
  | nil => exact (Slot.fill_none layout.slots draft).symm
  | cons m members ih =>
      obtain ⟨name, t⟩ := m
      rw [List.map_cons, List.nodup_cons] at hnames
      obtain ⟨hnew, hnames⟩ := hnames
      have hfree : ∀ s ∈ layout.slots, s.name = name → s.given draft = false :=
        fun s hs heq => hgiven s hs (heq ▸ List.mem_cons_self)
      rw [List.foldlM_cons, ← layout.place_bind_fill hnew hfree]
      cases hplace : Slot.place layout.slots name draft t with
      | none => rfl
      | some draft' =>
          refine ih hnames draft' fun s hs hmem => ?_
          have hne : s.name ≠ name := fun heq => hnew (heq ▸ hmem)
          rw [layout.given_place hplace hs hne]
          exact hgiven s hs (List.mem_cons_of_mem _ hmem)

/-! ## Completing a draft -/

/-- Completes the draft that has been read. -/
def settling (record : Record σ α) (read : Except Fault (σ × List UInt8)) :
    Except Fault (α × List UInt8) :=
  match read with
  | .error fault => .error fault
  | .ok (draft, rest) => record.settle draft rest

theorem toOption_settling {read : Except Fault (σ × List UInt8)} {draft? : Option σ}
    {rest : List UInt8} (h : read.toOption = draft?.map fun draft => (draft, rest)) :
    (settling record read).toOption =
      (draft?.bind fun draft => (record.complete draft).toOption).map fun a => (a, rest) := by
  cases draft? with
  | none =>
      obtain ⟨fault, rfl⟩ := toOption_eq_none_iff.mp h
      rfl
  | some draft =>
      obtain rfl := toOption_eq_some_iff.mp h
      simp only [settling, Record.settle, Option.bind_some]
      cases record.complete draft <;> rfl

/-! ## The object form -/

theorem objectForm_eq (text : List UInt8) :
    record.objectForm text =
      settling record (repeatedly record.fieldStep (true, record.empty) text) := by
  unfold Record.objectForm settling
  cases repeatedly record.fieldStep (true, record.empty) text <;> rfl

theorem find?_fields (layout : Layout record) (name : String) :
    record.fields.find? (·.name == name) =
      (layout.slots.find? (·.name == name)).map Slot.field := by
  rw [layout.fields_eq, List.find?_map]
  rfl

/-- The member does to a draft what `act` says. -/
def Acts (record : Record σ α) (key : Padded) (name : String) (value : Padded)
    (act : σ → Option σ) : Prop :=
  Names key.text name ∧ ∀ draft, Outcome (record.memberValue name draft)
    (key.after ++ colon :: (value.before ++ value.text)) (act draft)

/-- A member that no slot asks for does nothing. -/
theorem acts_skipped (layout : Layout record) {key value : Padded} {name : String}
    (hname : Names key.text name) (hfind : layout.slots.find? (·.name == name) = none)
    (hvalue : IsJson value.text) : Acts record key name value some := by
  refine ⟨hname, fun draft rest hrest => ?_⟩
  have hcolon := nameEnd_gap_colon key.after_isGap (value.before ++ (value.text ++ rest))
  have hskip := ((gives_skipValue hvalue).map fun _ => draft) _ value.before_isGap rest hrest
  rw [List.append_assoc] at hskip
  rw [Record.memberValue, layout.find?_fields, hfind, List.append_assoc, List.cons_append,
    List.append_assoc]
  simp only [Option.map_none, hcolon, hskip, Option.map_some]

/-- A member that a slot asks for is entered into that slot. -/
theorem acts_entered (layout : Layout record) {key value : Padded} {name : String} {s : Slot σ}
    (hname : Names key.text name) (hfind : layout.slots.find? (·.name == name) = some s)
    {content : Option s.Content} (hvalue : Gives s.reader value.text content) :
    Acts record key name value (s.enter content) := by
  refine ⟨hname, fun draft rest hrest => ?_⟩
  have hcolon := nameEnd_gap_colon key.after_isGap (value.before ++ (value.text ++ rest))
  have hfield : s.field.given draft = s.given draft := rfl
  rw [Record.memberValue, layout.find?_fields, hfind, Slot.enter, List.append_assoc,
    List.cons_append, List.append_assoc]
  cases hgiven : s.given draft with
  | true =>
      simp only [Option.map_some, hfield, hgiven, if_true]
      rfl
  | false =>
      have hread := (hvalue.map (s.put draft)) _ value.before_isGap rest hrest
      rw [List.append_assoc] at hread
      simp only [Option.map_some, hfield, hgiven, Bool.false_eq_true, if_false, hcolon]
      exact hread

theorem acts_place (layout : Layout record) {m : SpelledMember}
    (hname : SpelledText m.key.text m.name)
    (hother : layout.slots.find? (·.name == m.name) = none → IsJson m.value.text)
    (hasked : ∀ s, layout.slots.find? (·.name == m.name) = some s →
      Gives s.reader m.value.text (s.ofTree? m.tree)) :
    Acts record m.key m.name m.value fun draft =>
      Slot.place layout.slots m.name draft m.tree := by
  unfold Slot.place
  cases hfind : layout.slots.find? (·.name == m.name) with
  | none => exact layout.acts_skipped hname.names hfind (hother hfind)
  | some s => exact layout.acts_entered hname.names hfind (hasked s hfind)

/-- The next member does to the draft what it is said to do. -/
theorem Acts.toOption_fieldStep {key value : Padded} {name : String} {act : σ → Option σ}
    (h : Acts record key name value act) {gap : List UInt8} (hgap : IsGap gap) (first : Bool)
    (draft : σ) {rest : List UInt8} (hrest : EndsNumber rest) :
    (record.fieldStep (first, draft)
        (gap ++ (lead first ++ (key.before ++ quote :: (key.text ++ quote :: (key.after ++
          colon :: (value.before ++ (value.text ++ rest)))))))).toOption =
      (act draft).map fun draft => (.again (false, draft), rest) := by
  obtain ⟨hname, hmember⟩ := h
  have hnext := nextMember_gap_lead hgap key.before_isGap first
  have hmember := hmember draft
  cases hact : act draft with
  | none =>
      rw [hact] at hmember
      obtain ⟨fault, hfault⟩ := hmember.error hrest
      simp only [List.append_assoc, List.cons_append] at hfault
      simp only [Record.fieldStep, hnext, hname _, hfault]
      rfl
  | some draft' =>
      rw [hact] at hmember
      have hok := hmember.ok hrest
      simp only [List.append_assoc, List.cons_append] at hok
      simp only [Record.fieldStep, hnext, hname _, hok]
      rfl

section

variable {γ : Type} {key value : γ → Padded} {name : γ → String} {act : γ → σ → Option σ}

theorem ends_fieldStep {members : List γ}
    (hmembers : ∀ m ∈ members, Acts record (key m) (name m) (value m) (act m))
    {inside : List UInt8} (hinside : IsGap inside) (rest : List UInt8) :
    ∀ (first : Bool) (draft : σ) (gap : List UInt8), IsGap gap →
      Ends record.fieldStep (first, draft)
        (gap ++ (spread first (members.map fun m => memberPiece (key m) (value m)) ++
          (inside ++ closeBrace :: rest)))
        ((members.foldlM (fun draft m => act m draft) draft).map fun draft => (draft, rest)) := by
  induction members with
  | nil =>
      intro first draft gap hgap
      refine .done ?_
      rw [List.map_nil, spread, List.nil_append, ← List.append_assoc]
      simp only [Record.fieldStep, nextMember_gap_close (hgap.append hinside)]
      rfl
  | cons m members ih =>
      intro first draft gap hgap
      obtain ⟨hm, hmembers⟩ := List.forall_mem_cons.mp hmembers
      have hrest := (value m).after_isGap.endsNumber
        (endsNumber_spread (members.map fun m => memberPiece (key m) (value m)) hinside
          (Or.inr rfl) rest)
      have hstep := hm.toOption_fieldStep hgap first draft hrest
      rw [List.map_cons, spread_memberPiece, List.foldlM_cons, Option.bind_eq_bind, Option.map_bind]
      simp only [List.append_assoc, List.cons_append] at hstep ⊢
      refine .of_again hstep ?_ fun draft' => ?_
      · simp only [List.length_append, List.length_cons]
        omega
      · exact ih hmembers false draft' (value m).after (value m).after_isGap

/-- A record is read from the members of an object: one after the other, they do to the
draft what they are said to do. -/
theorem outcome_objectForm {members : List γ}
    (hmembers : ∀ m ∈ members, Acts record (key m) (name m) (value m) (act m))
    {inside : List UInt8} (hinside : IsGap inside) :
    Outcome record.objectForm
      (spread true (members.map fun m => memberPiece (key m) (value m)) ++
        (inside ++ [closeBrace]))
      ((members.foldlM (fun draft m => act m draft) record.empty).bind fun draft =>
        (record.complete draft).toOption) := by
  intro rest _
  have hends := (ends_fieldStep hmembers hinside rest true record.empty [] isGap_nil).repeatedly
  rw [List.nil_append] at hends
  rw [List.append_assoc, List.append_assoc, List.singleton_append, objectForm_eq]
  exact toOption_settling hends

end

/-! ## The list form -/

/-- Closes the list whose first fields have been read. -/
def closing (read : Except Fault (σ × List UInt8)) : Except Fault (σ × List UInt8) :=
  match read with
  | .error fault => .error fault
  | .ok (draft, text) =>
    match closeList text with
    | .error fault => .error fault
    | .ok (_, rest) => .ok (draft, rest)

theorem listForm_eq (text : List UInt8) :
    record.listForm text =
      settling record (closing (record.positions record.fields 0 record.empty text)) := by
  unfold Record.listForm closing
  cases record.positions record.fields 0 record.empty text with
  | error fault => rfl
  | ok read =>
      obtain ⟨draft, text'⟩ := read
      simp only
      cases closeList text' <;> rfl

theorem closeList_gap_close {gap : List UInt8} (hgap : IsGap gap) (rest : List UInt8) :
    closeList (gap ++ closeBracket :: rest) = .ok ((), rest) := by
  rw [closeList, hgap.skipBlanks, skipBlanks_cons (by decide)]
  rfl

/-- A list is not closed where there is another item. -/
theorem closeList_gap_lead {text gap before : List UInt8} (h : Opens text) (hgap : IsGap gap)
    (hbefore : IsGap before) (first : Bool) (rest : List UInt8) :
    ∃ fault, closeList (gap ++ (lead first ++ (before ++ (text ++ rest)))) = .error fault := by
  have hskip := h.skipBlanks hbefore rest
  obtain ⟨b, more, rfl, hblank, hclose⟩ := h
  rw [List.cons_append] at hskip ⊢
  cases first with
  | true =>
      rw [lead, if_pos rfl, List.nil_append, closeList, hgap.skipBlanks, hskip]
      simp only [if_neg hclose, refuse]
      split
      · split <;> exact ⟨_, rfl⟩
      · exact ⟨_, rfl⟩
  | false =>
      have hcomma : comma ≠ closeBracket := by decide
      rw [lead, if_neg (by decide), List.singleton_append, closeList, hgap.skipBlanks,
        skipBlanks_cons (by decide)]
      simp only [if_neg hcomma, if_true, hskip, refuse]
      exact ⟨_, rfl⟩

/-- When no item is left, the next slot may be left empty, or the list is too short. -/
theorem toOption_positions_close (s : Slot σ) (fields : List (Reader.Field σ)) (index : Nat)
    (draft : σ) {gap : List UInt8} (hgap : IsGap gap) (rest : List UInt8) :
    (closing (record.positions (s.field :: fields) index draft
        (gap ++ closeBracket :: rest))).toOption =
      if s.mayEnd then
        (closing (record.positions fields (index + 1) draft (closeBracket :: rest))).toOption
      else none := by
  have hnext := nextItem_gap_close hgap (decide (index = 0)) rest
  have hfield : s.field.mayEnd = s.mayEnd := rfl
  rw [Record.positions]
  cases hend : s.mayEnd with
  | true => simp only [hnext, hfield, hend, if_true]
  | false =>
      simp only [hnext, hfield, hend, Bool.false_eq_true, if_false]
      rfl

/-- The next item is read by the next slot. -/
theorem toOption_positions_lead (s : Slot σ) (fields : List (Reader.Field σ)) (index : Nat)
    (draft : σ) {i : Padded × Tree} (hopens : Opens i.1.text)
    (hgives : Gives s.reader i.1.text (s.ofTree? i.2)) {gap : List UInt8} (hgap : IsGap gap)
    {rest : List UInt8} (hrest : EndsNumber rest) :
    (closing (record.positions (s.field :: fields) index draft
        (gap ++ (lead (decide (index = 0)) ++ (i.1.before ++ (i.1.text ++ rest)))))).toOption =
      (s.read? draft i.2).bind fun draft =>
        (closing (record.positions fields (index + 1) draft rest)).toOption := by
  have hnext := nextItem_gap_lead hopens hgap i.1.before_isGap (decide (index = 0)) rest
  have hread : Outcome (s.field.read draft) i.1.text (s.read? draft i.2) :=
    (hgives.map (s.put draft)).outcome
  rw [Record.positions]
  simp only [hnext]
  cases hslot : s.read? draft i.2 with
  | none =>
      rw [hslot] at hread
      obtain ⟨fault, hfault⟩ := hread.error hrest
      rw [hfault]
      rfl
  | some draft' =>
      rw [hslot] at hread
      rw [hread.ok hrest]
      rfl

/-- When no slot is left, the list has to end. -/
theorem toOption_positions_nil {items : List (Padded × Tree)} {inside : List UInt8}
    (hopens : ∀ i ∈ items, Opens i.1.text) (hinside : IsGap inside) (first : Bool)
    (index : Nat) (draft : σ) {gap : List UInt8} (hgap : IsGap gap) (rest : List UInt8) :
    (closing (record.positions [] index draft
        (gap ++ (spread first (items.map Prod.fst) ++ (inside ++ closeBracket :: rest))))).toOption =
      (Slot.fillInOrder [] (items.map Prod.snd) draft).map fun draft => (draft, rest) := by
  rw [Record.positions, closing]
  cases items with
  | nil =>
      have hclose := closeList_gap_close (hgap.append hinside) rest
      rw [List.append_assoc] at hclose
      simp only [List.map_nil, spread, List.nil_append, hclose]
      rfl
  | cons i items =>
      obtain ⟨fault, hfault⟩ := closeList_gap_lead (hopens i List.mem_cons_self) hgap
        i.1.before_isGap first
        (i.1.after ++ (spread false (items.map Prod.fst) ++ (inside ++ closeBracket :: rest)))
      rw [List.map_cons, spread]
      simp only [List.append_assoc, hfault]
      rfl

/-- Slots and items are gone through side by side. -/
theorem toOption_positions {slots : List (Slot σ)} :
    ∀ {items : List (Padded × Tree)} {inside : List UInt8},
      Slot.Fits slots items → IsGap inside →
      ∀ (index : Nat) (draft : σ) (gap rest : List UInt8), IsGap gap →
        (closing (record.positions (slots.map Slot.field) index draft
          (gap ++ (spread (decide (index = 0)) (items.map Prod.fst) ++
            (inside ++ closeBracket :: rest))))).toOption =
          (Slot.fillInOrder slots (items.map Prod.snd) draft).map fun draft => (draft, rest) := by
  induction slots with
  | nil =>
      intro items inside hfits hinside index draft gap rest hgap
      have hopens : ∀ i ∈ items, Opens i.1.text := by
        cases hfits with
        | short => exact List.forall_mem_nil _
        | long hopens => exact hopens
      exact toOption_positions_nil hopens hinside _ index draft hgap rest
  | cons s slots ih =>
      intro items inside hfits hinside index draft gap rest hgap
      rw [List.map_cons]
      cases hfits with
      | short =>
          have hmore := ih (.short slots) isGap_nil (index + 1) draft [] rest isGap_nil
          rw [List.map_nil, spread, List.nil_append, ← List.append_assoc,
            toOption_positions_close s _ index draft (hgap.append hinside), List.map_nil,
            Slot.fillInOrder]
          split
          · exact hmore
          · rfl
      | @cons _ _ i items hopens hgives hfits =>
          have hrest := i.1.after_isGap.endsNumber
            (endsNumber_spread (items.map Prod.fst) hinside (Or.inl rfl) rest)
          have hmore := ih hfits hinside (index + 1)
          -- from here on no item is the first one
          rw [decide_eq_false (Nat.succ_ne_zero index)] at hmore
          rw [List.map_cons, spread, List.map_cons, Slot.fillInOrder, List.append_assoc,
            List.append_assoc, List.append_assoc, List.append_assoc,
            toOption_positions_lead s _ index draft hopens hgives hgap hrest, Option.map_bind]
          exact congrArg _ (funext fun draft => hmore draft _ rest i.1.after_isGap)

/-- A record is read from the items of a list. -/
theorem outcome_listForm (layout : Layout record) {items : List (Padded × Tree)}
    (hfits : Slot.Fits layout.slots items) {inside : List UInt8} (hinside : IsGap inside) :
    Outcome record.listForm
      (spread true (items.map Prod.fst) ++ (inside ++ [closeBracket]))
      ((Slot.fillInOrder layout.slots (items.map Prod.snd) record.empty).bind fun draft =>
        (record.complete draft).toOption) := by
  intro rest _
  have hread : (closing (record.positions (layout.slots.map Slot.field) 0 record.empty
      (spread true (items.map Prod.fst) ++ (inside ++ closeBracket :: rest)))).toOption = _ :=
    toOption_positions hfits hinside 0 record.empty [] rest isGap_nil
  rw [List.append_assoc, List.append_assoc, List.singleton_append, listForm_eq, layout.fields_eq]
  exact toOption_settling hread

/-! ## Both forms -/

/-- What the record makes of a tree. -/
def ofTree? (layout : Layout record) : Tree → Option α
  | .array items =>
    (Slot.fillInOrder layout.slots items record.empty).bind fun draft =>
      (record.complete draft).toOption
  | .object members =>
    (Slot.fill (fun name => members.lookup name) layout.slots record.empty).bind fun draft =>
      (record.complete draft).toOption
  | _ => none

theorem outcome_array (layout : Layout record) {items : List (Padded × Tree)}
    {inside : List UInt8} (hinside : IsGap inside)
    (hitems : ∀ i ∈ items, Spelled i.1.text i.2)
    (hdistinct : (Tree.array (items.map Prod.snd)).Distinct) :
    Outcome record.listForm (spread true (items.map Prod.fst) ++ (inside ++ [closeBracket]))
      (layout.ofTree? (.array (items.map Prod.snd))) :=
  layout.outcome_listForm (Slot.fits_of_spelled _ fun i hi =>
    ⟨hitems i hi, hdistinct.of_array _ (List.mem_map_of_mem hi)⟩) hinside

theorem outcome_object (layout : Layout record) {spelled : List SpelledMember}
    {members : List (String × Tree)} {inside : List UInt8} (hinside : IsGap inside)
    (hnames : ∀ m ∈ spelled, SpelledText m.key.text m.name)
    (hvalues : ∀ m ∈ spelled, Spelled m.value.text m.tree)
    (hperm : (spelled.map fun m => (m.name, m.tree)).Perm members)
    (hdistinct : (Tree.object members).Distinct) :
    Outcome record.objectForm
      (spread true (spelled.map fun m => memberPiece m.key m.value) ++ (inside ++ [closeBrace]))
      (layout.ofTree? (.object members)) := by
  obtain ⟨hnodup, hmembers⟩ := hdistinct.of_object
  have hdistinct' : ∀ m ∈ spelled, m.tree.Distinct :=
    fun m hm => hmembers _ (hperm.mem_iff.mp (List.mem_map_of_mem hm))
  have hread := outcome_objectForm (fun m hm => layout.acts_place (hnames m hm)
    (fun _ => (hvalues m hm).isJson)
    fun s _ => s.understands _ _ (hvalues m hm) (hdistinct' m hm)) hinside
  have hfold := layout.foldlM_place ((hperm.map Prod.fst).nodup_iff.mpr hnodup) record.empty
    fun s hs _ => layout.given_empty s hs
  -- the text has the members in another order, which a look-up does not see
  have hfind : (fun name => (spelled.map fun m => (m.name, m.tree)).lookup name) =
      fun name => members.lookup name :=
    funext fun name => (lookup_perm hperm.symm hnodup name).symm
  rw [List.foldlM_map, hfind] at hfold
  rw [ofTree?, ← hfold]
  exact hread

/-- **A record understands trees.**  The order of members does not matter, nor do members
that are not asked for. -/
theorem understands (layout : Layout record) : Understands record.reader layout.ofTree? := by
  refine understands_byFirst fun b more t ht hb hdistinct => ?_
  by_cases hlist : b = openBracket
  · obtain ⟨trees, rfl⟩ := (hlist ▸ hb).eq_array
    obtain ⟨items, inside, hinside, hitems, rfl, htext⟩ := ht.of_array
    obtain ⟨-, rfl⟩ := List.cons.inj htext
    rw [if_pos hlist]
    exact layout.outcome_array hinside hitems hdistinct
  by_cases hobject : b = openBrace
  · obtain ⟨members, rfl⟩ := (hobject ▸ hb).eq_object
    obtain ⟨spelled, inside, hinside, hnames, hvalues, hperm, htext⟩ := ht.of_object
    obtain ⟨-, rfl⟩ := List.cons.inj htext
    rw [if_neg hlist, if_pos hobject]
    exact layout.outcome_object hinside hnames hvalues hperm hdistinct
  · have hnone : layout.ofTree? t = none := by
      cases t with
      | array items => exact absurd hb hlist
      | object members => exact absurd hb hobject
      | _ => rfl
    rw [if_neg hlist, if_neg hobject, hnone]
    exact outcome_mistyped _ _ _

end Layout

end ChatGateway.Json
