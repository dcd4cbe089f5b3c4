import ChatGateway.Proofs.Decimal.Layout
import ChatGateway.Proofs.Json.Slots
import ChatGateway.Proofs.Json.Written
import ChatGateway.Report.FieldError

/-!
# Places in a tree

A place in a tree is found by the way to it: names of members, and indexes of items.  Of
several members with one name the last one is meant, as it is when the tree is read.  What
stands at a place is read to what the value has at that place (`at?_value?`), and it is
written there again: the text of a value carries each of its integers at the place where
the value has it (`carries_value`).
-/

namespace ChatGateway.Json

/-! ## Places -/

namespace Tree

/-- What a segment leads to: an item of a list, or the last member of that name. -/
def step? : Tree → Segment → Option Tree
  | .array items, .index i => items[i]?
  | .object members, .name s => members.reverse.lookup s
  | _, _ => none

/-- What stands at a place. -/
def at? : Tree → Location → Option Tree
  | t, [] => some t
  | t, s :: path => (t.step? s).bind fun t' => t'.at? path

theorem at?_nil (t : Tree) : t.at? [] = some t := by
  rw [at?]

theorem at?_cons (t : Tree) (s : Segment) (path : Location) :
    t.at? (s :: path) = (t.step? s).bind fun t' => t'.at? path := by
  rw [at?]

end Tree

namespace Value

/-- What a segment leads to: an item of a list, or the member of that name. -/
def step? : Value → Segment → Option Value
  | .array items, .index i => items[i]?
  | .object members, .name s => members.lookup s
  | _, _ => none

/-- What stands at a place. -/
def at? : Value → Location → Option Value
  | v, [] => some v
  | v, s :: path => (v.step? s).bind fun v' => v'.at? path

theorem at?_nil (v : Value) : v.at? [] = some v := by
  rw [at?]

theorem at?_cons (v : Value) (s : Segment) (path : Location) :
    v.at? (s :: path) = (v.step? s).bind fun v' => v'.at? path := by
  rw [at?]

/-! ## The last member of a name -/

/-- A new member is found unless its name is there already. -/
theorem lookup_insertNew {member : String × Value} {members : List (String × Value)}
    (h : InOrder members) (name : String) :
    (insertNew member members).lookup name =
      (members.lookup name).or ([member].lookup name) := by
  induction members with
  | nil => rfl
  | cons other members ih =>
      obtain ⟨hother, hmembers⟩ := List.pairwise_cons.mp h
      unfold insertNew
      split
      next hlt =>
        by_cases hname : name = member.1
        -- the names behind it are greater
        · have hnew : member.1 ∉ (other :: members).map Prod.fst := by
            rw [List.map_cons, List.mem_cons, not_or]
            refine ⟨ne_of_lt hlt, fun hmem => ?_⟩
            obtain ⟨m, hm, hfst⟩ := List.mem_map.mp hmem
            exact absurd (hfst ▸ hother m hm) (lt_asymm hlt)
          rw [hname, lookup_eq_none_of_notMem hnew, Option.none_or, lookup_cons_of_eq rfl,
            lookup_cons_of_eq rfl]
        · rw [lookup_cons_of_ne hname, lookup_cons_of_ne hname, List.lookup_nil, Option.or_none]
      next hnlt =>
        by_cases hname : name = other.1
        · rw [lookup_cons_of_eq hname members, Option.some_or]
          split <;> exact lookup_cons_of_eq hname _
        · rw [lookup_cons_of_ne hname members]
          split
          next heq =>
            rw [lookup_cons_of_ne hname, lookup_cons_of_ne (heq ▸ hname), List.lookup_nil,
              Option.or_none]
          · rw [lookup_cons_of_ne hname, ih hmembers]

/-- Members that are put in order keep the last one of each name. -/
theorem lookup_ordered (name : String) (members : List (String × Value)) :
    (ordered members).lookup name = members.reverse.lookup name := by
  induction members with
  | nil => rfl
  | cons member members ih =>
      have hcons : ordered (member :: members) = insertNew member (ordered members) := rfl
      rw [hcons, lookup_insertNew (ordered_inOrder members), ih, List.reverse_cons,
        List.lookup_append]

end Value

/-! ## Places that are read -/

theorem exists_getElem?_of_forall₂ {α β : Type} {R : α → β → Prop} {as : List α} {bs : List β}
    (h : List.Forall₂ R as bs) {i : Nat} {a : α} (ha : as[i]? = some a) :
    ∃ b, bs[i]? = some b ∧ R a b := by
  induction h generalizing i with
  | nil => simp at ha
  | @cons a' b as bs hab _ ih =>
      cases i with
      | zero =>
          obtain rfl := Option.some.inj ha
          exact ⟨b, rfl, hab⟩
      | succ i => exact ih ha

theorem exists_lookup_of_forall₂ {α β : Type} {R : α → β → Prop} {members : List (String × α)}
    {others : List (String × β)}
    (h : List.Forall₂ (fun m o => o.1 = m.1 ∧ R m.2 o.2) members others) {name : String} {a : α}
    (ha : members.lookup name = some a) : ∃ b, others.lookup name = some b ∧ R a b := by
  induction h with
  | nil => simp at ha
  | @cons m o members others hmo _ ih =>
      obtain ⟨hname, hR⟩ := hmo
      rw [List.lookup_cons] at ha ⊢
      rw [hname]
      split at ha
      · obtain rfl := Option.some.inj ha
        exact ⟨o.2, rfl, hR⟩
      · exact ih ha

/-- What a segment leads to is read to what the value has there. -/
theorem step?_value? {t t' : Tree} {depth : Nat} {v : Value} {s : Segment}
    (h : t.value? depth = some v) (hstep : t.step? s = some t') :
    ∃ v' depth', t'.value? depth' = some v' ∧ v.step? s = some v' := by
  cases t with
  | array items =>
      cases depth with
      | zero => simp [Tree.value?] at h
      | succ depth =>
          rw [Tree.value?_array] at h
          obtain ⟨vs, hvs, rfl⟩ := Option.map_eq_some_iff.mp h
          cases s with
          | name s => contradiction
          | index i =>
              obtain ⟨v', hv', hread⟩ :=
                exists_getElem?_of_forall₂ (Reader.mapM_eq_some_iff.mp hvs) hstep
              exact ⟨v', depth, hread, hv'⟩
  | object members =>
      cases depth with
      | zero => simp [Tree.value?] at h
      | succ depth =>
          rw [Tree.value?_object] at h
          obtain ⟨ms, hms, rfl⟩ := Option.map_eq_some_iff.mp h
          cases s with
          | index i => contradiction
          | name s =>
              have hpairs : List.Forall₂
                  (fun m o => o.1 = m.1 ∧ Tree.value? m.2 depth = some o.2) members ms := by
                refine (Reader.mapM_eq_some_iff.mp hms).imp fun m o ho => ?_
                obtain ⟨w, hw, rfl⟩ := Option.map_eq_some_iff.mp ho
                exact ⟨rfl, hw⟩
              obtain ⟨v', hv', hread⟩ := exists_lookup_of_forall₂
                (R := fun t v => t.value? depth = some v) (List.forall₂_reverse_iff.mpr hpairs)
                hstep
              refine ⟨v', depth, hread, ?_⟩
              rw [Value.ofMembers, Value.step?, Value.lookup_ordered, hv']
  | _ => contradiction

/-- **What stands at a place is read to what the value has there.** -/
theorem at?_value? {t t' : Tree} {depth : Nat} {v : Value} {path : Location}
    (h : t.value? depth = some v) (hat : t.at? path = some t') :
    ∃ v' depth', t'.value? depth' = some v' ∧ v.at? path = some v' := by
  induction path generalizing t depth v with
  | nil =>
      rw [Tree.at?_nil] at hat
      obtain rfl := Option.some.inj hat
      exact ⟨v, depth, h, Value.at?_nil v⟩
  | cons s path ih =>
      rw [Tree.at?_cons] at hat
      obtain ⟨next, hstep, hat⟩ := Option.bind_eq_some_iff.mp hat
      obtain ⟨w, depth', hw, hvalue⟩ := step?_value? h hstep
      obtain ⟨v', depth'', hv', hplace⟩ := ih hw hat
      exact ⟨v', depth'', hv', by rw [Value.at?_cons, hvalue, Option.bind_some, hplace]⟩

/-! ## Places that are written -/

/-- The text says the tree, in which the number at a place is the decimal of `n`. -/
def Carries (text : String) (path : Location) (n : Int) : Prop :=
  ∃ t, Spelled (Utf8.bytes text) t ∧ t.Distinct ∧
    t.at? path = some (.number (Utf8.bytes (toString n)))

/-- The tree has the integers of the value, each at its place and as its decimal. -/
def Value.KeptIn (v : Value) (t : Tree) : Prop :=
  ∀ path w, v.at? path = some (.number (.whole w)) →
    t.at? path = some (.number (Utf8.bytes (toString w.toInt)))

theorem Value.keptIn_of_step? {v : Value} {t : Tree} (hroot : ∀ w, v ≠ .number (.whole w))
    (h : ∀ s v', v.step? s = some v' → ∃ t', t.step? s = some t' ∧ v'.KeptIn t') : v.KeptIn t := by
  intro path w hat
  cases path with
  | nil =>
      rw [at?_nil] at hat
      exact absurd (Option.some.inj hat) (hroot w)
  | cons s path =>
      rw [at?_cons] at hat
      obtain ⟨v', hstep, hat⟩ := Option.bind_eq_some_iff.mp hat
      obtain ⟨t', hstep', hkept⟩ := h s v' hstep
      rw [Tree.at?_cons, hstep', Option.bind_some, hkept path w hat]

/-- The last member of a name is its only member if no name comes twice. -/
theorem lookup_reverse {β : Type} {members : List (String × β)}
    (hnames : (members.map Prod.fst).Nodup) (name : String) :
    members.reverse.lookup name = members.lookup name :=
  (lookup_perm members.reverse_perm.symm hnames name).symm

/-- **A value is written as a text that has its integers at their places.**  What stands
for a float does not matter here: it may be a literal, or `null`. -/
theorem Value.exists_keptIn {v : Value} (h : v.Distinct) :
    ∃ t, Spelled (Utf8.bytes (Writer.value v)) t ∧ t.Distinct ∧ v.KeptIn t := by
  have : Nonempty Tree := ⟨.null⟩
  have hleaf {v : Value} {t : Tree} (hroot : ∀ w, v ≠ .number (.whole w))
      (hstep : ∀ s, v.step? s = none) : v.KeptIn t :=
    keptIn_of_step? hroot fun s v' hs => by simp [hstep] at hs
  induction h with
  | null => exact ⟨.null, .null, .null, hleaf (by simp) fun s => by cases s <;> rfl⟩
  | bool b => exact ⟨.bool b, .bool b, .bool b, hleaf (by simp) fun s => by cases s <;> rfl⟩
  | @number n _ =>
      cases n with
      | whole w =>
          refine ⟨_, .number (isLiteral_int w.toInt), .number _, fun path w' hat => ?_⟩
          cases path with
          | nil =>
              rw [at?_nil, Option.some.injEq, number.injEq, Number.whole.injEq] at hat
              rw [Tree.at?_nil, hat]
              rfl
          | cons s path => cases s <;> contradiction
      | float x =>
          have hkept (t : Tree) : (number (.float x)).KeptIn t :=
            hleaf (by simp) fun s => by cases s <;> rfl
          simp only [Writer.value, Writer.number, Writer.float]
          split
          · exact ⟨_, .number (Decimal.isLiteral_format x), .number _, hkept _⟩
          · exact ⟨.null, .null, .null, hkept _⟩
  | text s => exact ⟨.text s, spelled_text s, .text s, hleaf (by simp) fun s => by cases s <;> rfl⟩
  | @array items _ ih =>
      choose! tree hspelled hdistinct hkept using ih
      refine ⟨.array (items.map tree), ?_, .array (List.forall_mem_map.mpr hdistinct), ?_⟩
      · rw [Writer.value, values_eq_map]
        exact spelled_array hspelled
      · refine keptIn_of_step? (by simp) fun s v hs => ?_
        cases s with
        | name s => contradiction
        | index i =>
            have hv : items[i]? = some v := hs
            refine ⟨tree v, ?_, hkept v (List.mem_of_getElem? hv)⟩
            rw [Tree.step?, List.getElem?_map, hv, Option.map_some]
  | @object members hnames _ ih =>
      choose! tree hspelled hdistinct hkept using ih
      have hnames' : ((members.map fun m => (m.1, tree m)).map Prod.fst).Nodup := by
        rwa [List.map_map]
      refine ⟨.object (members.map fun m => (m.1, tree m)), ?_,
        .object hnames' (List.forall_mem_map.mpr hdistinct), ?_⟩
      · rw [Writer.value, memberValues_eq_map]
        exact spelled_object hspelled
      · refine keptIn_of_step? (by simp) fun s v hs => ?_
        cases s with
        | index i => contradiction
        | name s =>
            have hv : (s, v) ∈ members := (lookup_eq_some_iff_mem hnames).mp hs
            refine ⟨tree (s, v), ?_, hkept (s, v) hv⟩
            rw [Tree.step?, lookup_reverse hnames', lookup_eq_some_iff_mem hnames']
            exact List.mem_map_of_mem hv

/-- **The text of a value carries each of its integers.** -/
theorem carries_value {v : Value} (h : v.Distinct) {path : Location} {w : Whole}
    (hat : v.at? path = some (.number (.whole w))) : Carries (Writer.value v) path w.toInt := by
  obtain ⟨t, hspelled, hdistinct, hkept⟩ := v.exists_keptIn h
  exact ⟨t, hspelled, hdistinct, hkept path w hat⟩

/-- The integers of 64 bits, signed and unsigned. -/
theorem exists_whole {n : Int} (hlower : -2 ^ 63 ≤ n) (hupper : n ≤ 2 ^ 64 - 1) :
    ∃ w : Whole, w.toInt = n :=
  ⟨⟨n, by omega, by omega⟩, rfl⟩

/-- An integer that stands at a place is read as itself there. -/
theorem at?_value?_decimal {t : Tree} {depth : Nat} {v : Value} {path : Location} {w : Whole}
    (h : t.value? depth = some v)
    (hat : t.at? path = some (.number (Utf8.bytes (toString w.toInt)))) :
    v.at? path = some (.number (.whole w)) := by
  obtain ⟨v', depth', hread, hplace⟩ := at?_value? h hat
  rw [Tree.value?, numberOf?_whole, Option.map_some, Option.some.injEq] at hread
  rw [hplace, hread]

end ChatGateway.Json
