import ChatGateway.Proofs.Json.Literal
import ChatGateway.Proofs.Json.Ordered
import ChatGateway.Proofs.Json.Value

/-!
# Reading a tree, however it is spelled

What a reader makes of a text depends on the tree alone.  A reader of values gives the
value of the tree at its depth, and refuses exactly where there is none (`gives_value`).

This is by induction on the spelling.  The members of an object come in the order of the
text, and putting them in order forgets it.
-/

namespace ChatGateway.Json

open Reader

variable {α β : Type}

/-! ## The texts of each kind of tree -/

theorem Spelled.of_null {text : List UInt8} (h : Spelled text .null) :
    text = Utf8.bytes "null" := by
  cases h with
  | null => rfl

theorem Spelled.of_number {text literal : List UInt8} (h : Spelled text (.number literal)) :
    text = literal ∧ IsLiteral literal := by
  cases h with
  | number h => exact ⟨rfl, h⟩

theorem Spelled.of_text {text : List UInt8} {s : String} (h : Spelled text (.text s)) :
    ∃ content, SpelledText content s ∧ text = quote :: (content ++ [quote]) := by
  cases h with
  | text h => exact ⟨_, h, rfl⟩

theorem Spelled.of_array {text : List UInt8} {trees : List Tree} (h : Spelled text (.array trees)) :
    ∃ (items : List (Padded × Tree)) (inside : List UInt8), IsGap inside ∧
      (∀ i ∈ items, Spelled i.1.text i.2) ∧ trees = items.map Prod.snd ∧
      text = openBracket :: (spread true (items.map Prod.fst) ++ (inside ++ [closeBracket])) := by
  cases h with
  | array hinside hitems => exact ⟨_, _, hinside, hitems, rfl, rfl⟩

theorem Spelled.of_object {text : List UInt8} {members : List (String × Tree)}
    (h : Spelled text (.object members)) :
    ∃ (spelled : List SpelledMember) (inside : List UInt8), IsGap inside ∧
      (∀ m ∈ spelled, SpelledText m.key.text m.name) ∧
      (∀ m ∈ spelled, Spelled m.value.text m.tree) ∧
      (spelled.map fun m => (m.name, m.tree)).Perm members ∧
      text = openBrace :: (spread true (spelled.map fun m => memberPiece m.key m.value) ++
        (inside ++ [closeBrace])) := by
  cases h with
  | object hinside hnames hvalues hperm =>
      exact ⟨_, _, hinside, hnames, hvalues, hperm, rfl⟩

/-! ## First bytes -/

/-- The first byte of a tree's texts tells which kind of tree it is. -/
def Tree.Begins (b : UInt8) : Tree → Prop
  | .null => b = 0x6E
  | .bool true => b = 0x74
  | .bool false => b = 0x66
  | .number _ => b = minus ∨ Ascii.isDigit b = true
  | .text _ => b = quote
  | .array _ => b = openBracket
  | .object _ => b = openBrace

theorem bytes_null : Utf8.bytes "null" = 0x6E :: wordNull := by decide

theorem bytes_true : Utf8.bytes "true" = 0x74 :: wordTrue := by decide

theorem bytes_false : Utf8.bytes "false" = 0x66 :: wordFalse := by decide

theorem Spelled.exists_cons {text : List UInt8} {t : Tree} (h : Spelled text t) :
    ∃ b more, text = b :: more ∧ t.Begins b := by
  cases h with
  | null => exact ⟨_, _, bytes_null, rfl⟩
  | bool b =>
      cases b with
      | true => exact ⟨_, _, bytes_true, rfl⟩
      | false => exact ⟨_, _, bytes_false, rfl⟩
  | number h =>
      obtain ⟨b, more, hcons, hb, -⟩ := h.exists_cons
      exact ⟨b, more, hcons, hb⟩
  | text h => exact ⟨_, _, rfl, rfl⟩
  | array hinside hitems => exact ⟨_, _, rfl, rfl⟩
  | object hinside hnames hvalues hperm => exact ⟨_, _, rfl, rfl⟩

theorem Tree.Begins.isBlank {b : UInt8} {t : Tree} (h : t.Begins b) : isBlank b = false := by
  cases t with
  | null => subst h; rfl
  | bool b' => cases b' <;> subst h <;> rfl
  | number literal => exact isBlank_of_begins h
  | text s => subst h; rfl
  | array items => subst h; rfl
  | object members => subst h; rfl

theorem Tree.Begins.ne {b c : UInt8} {t : Tree} (h : t.Begins b)
    (hc : c ∉ [0x6E, 0x74, 0x66, minus, quote, openBracket, openBrace])
    (hdigit : Ascii.isDigit c = false) : b ≠ c := by
  rintro rfl
  cases t with
  | bool b' => cases b' <;> simp [Tree.Begins] at h <;> simp [h] at hc
  | number literal =>
      rcases h with rfl | h
      · simp at hc
      · rw [hdigit] at h
        contradiction
  | _ => simp [Tree.Begins] at h; simp [h] at hc

theorem Spelled.opens {text : List UInt8} {t : Tree} (h : Spelled text t) : Opens text := by
  obtain ⟨b, more, rfl, hb⟩ := h.exists_cons
  exact opens_cons hb.isBlank (hb.ne (by decide) (by decide))

/-- The first byte of a text is found behind blanks. -/
theorem skipBlanks_gap_cons {gap : List UInt8} (hgap : IsGap gap) {b : UInt8}
    (hblank : isBlank b = false) (more rest : List UInt8) :
    skipBlanks (gap ++ b :: more ++ rest) = b :: (more ++ rest) := by
  rw [List.append_assoc, hgap.skipBlanks, List.cons_append, skipBlanks_cons hblank]

theorem gives_byFirst {reader : UInt8 → Reader α} {b : UInt8} {more : List UInt8}
    {outcome : Option α} (hblank : isBlank b = false) (h : Outcome (reader b) more outcome) :
    Gives (byFirst reader) (b :: more) outcome := by
  intro gap hgap rest hrest
  rw [byFirst, skipBlanks_gap_cons hgap hblank]
  exact h rest hrest

theorem gives_value_scalar {b : UInt8} {more : List UInt8} {outcome : Option Value}
    (hblank : isBlank b = false) (hlist : b ≠ openBracket) (hobject : b ≠ openBrace)
    (h : Outcome (scalar b) more outcome) (depth : Nat) :
    Gives (value depth) (b :: more) outcome := by
  intro gap hgap rest hrest
  rw [value_eq_scalar (skipBlanks_gap_cons hgap hblank more rest) hlist hobject]
  exact h rest hrest

/-! ## Values -/

theorem outcome_word (word : List UInt8) : Outcome (expectWord word) word (some ()) := by
  intro rest _
  rw [expectWord_append]
  rfl

theorem outcome_text {content : List UInt8} {s : String} (h : SpelledText content s) :
    Outcome Reader.text (content ++ [quote]) (some s) := by
  intro rest _
  rw [List.append_assoc, List.singleton_append, h.names]
  rfl

/-- Members that come in another order have the same values. -/
theorem exists_perm_of_mapM {γ δ : Type} {f : γ → Option δ} {ms ms' : List γ} (h : ms.Perm ms')
    {vs : List δ} (hvs : ms.mapM f = some vs) : ∃ vs', ms'.mapM f = some vs' ∧ vs.Perm vs' := by
  induction h generalizing vs with
  | nil => exact ⟨vs, hvs, .refl vs⟩
  | cons m _ ih =>
      rw [mapM_cons_eq] at hvs
      obtain ⟨v, hv, hvs⟩ := Option.bind_eq_some_iff.mp hvs
      obtain ⟨ws, hws, rfl⟩ := Option.map_eq_some_iff.mp hvs
      obtain ⟨ws', hws', hperm⟩ := ih hws
      refine ⟨v :: ws', ?_, hperm.cons v⟩
      rw [mapM_cons_eq, hv, hws']
      rfl
  | swap m n ms =>
      simp only [mapM_cons_eq, Option.bind_eq_some_iff, Option.map_eq_some_iff] at hvs
      obtain ⟨w, hw, _, ⟨v, hv, ws, hws, rfl⟩, rfl⟩ := hvs
      exact ⟨v :: w :: ws, by simp [hv, hw, hws], .swap v w ws⟩
  | trans _ _ ih ih' =>
      obtain ⟨ws, hws, hperm⟩ := ih hvs
      obtain ⟨ws', hws', hperm'⟩ := ih' hws
      exact ⟨ws', hws', hperm.trans hperm'⟩

theorem map_fst_of_mapM {γ : Type} {f : γ → Option β} {name : γ → α} {ms : List γ}
    {vs : List (α × β)} (h : (ms.mapM fun m => (f m).map (Prod.mk (name m))) = some vs) :
    vs.map Prod.fst = ms.map name := by
  induction ms generalizing vs with
  | nil =>
      obtain rfl : [] = vs := Option.some.inj h
      rfl
  | cons m ms ih =>
      rw [mapM_cons_eq] at h
      cases hm : f m with
      | none => simp [hm] at h
      | some v =>
          cases hms : ms.mapM fun m => (f m).map (Prod.mk (name m)) with
          | none => simp [hm, hms] at h
          | some ws =>
              simp only [hm, hms, Option.map_some, Option.bind_some, Option.some.injEq] at h
              subst h
              rw [List.map_cons, List.map_cons, ih hms]

/-- The value of an object does not depend on the order of its members. -/
theorem Tree.value?_object_perm {members members' : List (String × Tree)}
    (hperm : members.Perm members') (hnames : (members.map Prod.fst).Nodup) (depth : Nat) :
    (Tree.object members).value? (depth + 1) = (Tree.object members').value? (depth + 1) := by
  rw [Tree.value?_object, Tree.value?_object]
  cases hvs : members.mapM fun m => (m.2.value? depth).map (Prod.mk m.1) with
  | none =>
      cases hvs' : members'.mapM fun m => (m.2.value? depth).map (Prod.mk m.1) with
      | none => rfl
      | some vs' =>
          obtain ⟨vs, hsome, -⟩ := exists_perm_of_mapM hperm.symm hvs'
          rw [hvs] at hsome
          contradiction
  | some vs =>
      obtain ⟨vs', hvs', hvalues⟩ := exists_perm_of_mapM hperm hvs
      have hfst : (vs.map Prod.fst).Nodup := by
        rw [map_fst_of_mapM hvs]
        exact hnames
      rw [hvs', Option.map_some, Option.map_some, Value.ofMembers, Value.ofMembers,
        Value.ordered_congr hvalues hfst]

theorem outcome_none {reader : Reader α} {text : List UInt8}
    (h : ∀ rest, ∃ fault, reader (text ++ rest) = .error fault) : Outcome reader text none := by
  intro rest _
  obtain ⟨fault, hfault⟩ := h rest
  rw [hfault]
  rfl

theorem gives_value_word {b : UInt8} {word : List UInt8} {v : Value} (hblank : isBlank b = false)
    (hlist : b ≠ openBracket) (hobject : b ≠ openBrace)
    (hscalar : scalar b = Reader.map (fun _ => v) (expectWord word)) (depth : Nat) :
    Gives (value depth) (b :: word) (some v) := by
  refine gives_value_scalar hblank hlist hobject ?_ depth
  rw [hscalar]
  exact (outcome_word word).map fun _ => v

/-- Where no bracket may be open, lists and objects are refused. -/
theorem gives_value_zero {b : UInt8} {more : List UInt8} (hb : b = openBracket ∨ b = openBrace) :
    Gives (value 0) (b :: more) none := by
  intro gap hgap
  refine outcome_none fun rest => ⟨⟨.tooDeep, more ++ rest⟩, ?_⟩
  have hblank : isBlank b = false := by rcases hb with rfl | rfl <;> decide
  have hopen : (b = openBracket || b = openBrace) = true := by simpa using hb
  simp only [value, skipBlanks_gap_cons hgap hblank, hopen, if_true, refuse]

theorem gives_value_array {depth : Nat} {more : List UInt8} {outcome : Option (List Value)}
    (h : Outcome (listOf (value depth)) more outcome) :
    Gives (value (depth + 1)) (openBracket :: more) (outcome.map Value.array) := by
  intro gap hgap rest hrest
  have hblank : isBlank openBracket = false := by decide
  simp only [value, skipBlanks_gap_cons hgap hblank, if_true]
  exact h.map Value.array rest hrest

theorem gives_value_object {depth : Nat} {more : List UInt8}
    {outcome : Option (List (String × Value))}
    (h : Outcome (objectOf (value depth)) more outcome) :
    Gives (value (depth + 1)) (openBrace :: more) (outcome.map Value.ofMembers) := by
  intro gap hgap rest hrest
  have hblank : isBlank openBrace = false := by decide
  have hobject : openBrace ≠ openBracket := by decide
  simp only [value, skipBlanks_gap_cons hgap hblank, if_neg hobject, if_true]
  exact h.map Value.ofMembers rest hrest

/-- What a reader makes of the items of a list, it makes of their trees. -/
theorem outcome_items {item : Reader α} {f : Tree → Option α} {items : List (Padded × Tree)}
    (hitems : ∀ i ∈ items, Spelled i.1.text i.2)
    (hread : ∀ i ∈ items, Gives item i.1.text (f i.2)) {inside : List UInt8}
    (hinside : IsGap inside) :
    Outcome (listOf item) (spread true (items.map Prod.fst) ++ (inside ++ [closeBracket]))
      ((items.map Prod.snd).mapM f) := by
  intro rest _
  have hpieces : ∀ i ∈ items, Opens i.1.text ∧ Outcome item i.1.text (f i.2) :=
    fun i hi => ⟨(hitems i hi).opens, (hread i hi).outcome⟩
  have hlist := listOf_spread hpieces hinside rest
  rw [List.append_assoc, List.append_assoc, List.singleton_append, hlist, mapM_map_eq]

/-- What a reader makes of the values of an object, it makes of their trees. -/
theorem outcome_members {item : Reader α} {f : Tree → Option α} {members : List SpelledMember}
    (hnames : ∀ m ∈ members, SpelledText m.key.text m.name)
    (hread : ∀ m ∈ members, Gives item m.value.text (f m.tree)) {inside : List UInt8}
    (hinside : IsGap inside) :
    Outcome (objectOf item)
      (spread true (members.map fun m => memberPiece m.key m.value) ++ (inside ++ [closeBrace]))
      (members.mapM fun m => (f m.tree).map (Prod.mk m.name)) := by
  intro rest _
  have hobject := objectOf_spread (fun m hm => (hnames m hm).names)
    (fun m hm => hread m hm m.value.before m.value.before_isGap) hinside rest
  rw [List.append_assoc, List.append_assoc, List.singleton_append, hobject]

/-- **A value is read from any text of its tree**, and refused in any text of a tree that
has none. -/
theorem gives_value {text : List UInt8} {t : Tree} (h : Spelled text t) :
    t.Distinct → ∀ depth, Gives (value depth) text (t.value? depth) := by
  induction h with
  | null =>
      intro _ depth
      rw [bytes_null]
      exact gives_value_word (by decide) (by decide) (by decide) rfl depth
  | bool b =>
      intro _ depth
      cases b with
      | true =>
          rw [if_pos rfl, bytes_true]
          exact gives_value_word (by decide) (by decide) (by decide) rfl depth
      | false =>
          rw [if_neg (by decide), bytes_false]
          exact gives_value_word (by decide) (by decide) (by decide) rfl depth
  | @number literal h =>
      intro _ depth
      obtain ⟨b, more, hcons, hb, hread, -⟩ := h.exists_cons
      have hvalue := hread.map Value.number
      rw [← scalar_number hb] at hvalue
      rw [Tree.value?, hcons] at *
      exact gives_value_scalar (isBlank_of_begins hb) (ne_of_begins hb (by decide) (by decide))
        (ne_of_begins hb (by decide) (by decide)) hvalue depth
  | @text content s h =>
      intro _ depth
      have hvalue := (outcome_text h).map Value.text
      have hscalar : scalar quote = Reader.map .text Reader.text := rfl
      rw [← hscalar] at hvalue
      exact gives_value_scalar (by decide) (by decide) (by decide) hvalue depth
  | array hinside hitems ih =>
      intro hdistinct depth
      cases depth with
      | zero => exact gives_value_zero (Or.inl rfl)
      | succ depth =>
          rw [Tree.value?_array]
          refine gives_value_array (outcome_items hitems (fun i hi => ?_) hinside)
          exact ih i hi (hdistinct.of_array i.2 (List.mem_map_of_mem hi)) depth
  | @object spelled members inside hinside hnames hvalues hperm ih =>
      intro hdistinct depth
      cases depth with
      | zero => exact gives_value_zero (Or.inr rfl)
      | succ depth =>
          obtain ⟨hnodup, hmembers⟩ := hdistinct.of_object
          have hread : ∀ m ∈ spelled, Gives (value depth) m.value.text (m.tree.value? depth) :=
            fun m hm => ih m hm (hmembers _ (hperm.mem_iff.mp (List.mem_map_of_mem hm))) depth
          have hinner := outcome_members (f := fun t : Tree => t.value? depth) hnames hread hinside
          rw [Tree.value?_object_perm hperm.symm hnodup, Tree.value?_object, mapM_map_eq]
          exact gives_value_object hinner

end ChatGateway.Json
