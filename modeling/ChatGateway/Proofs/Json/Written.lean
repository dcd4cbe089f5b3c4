import ChatGateway.Proofs.Json.Spelled

/-!
# Values and their written texts

A value is written as a text of its tree (`spelled_value`), so whatever is known of the
texts of a tree holds of it.  Its tree comes to the value again, with the members of its
objects in order (`value?_ofValue`), unless it nests too deep or has a number that is no
integer: what the writer makes of a float is not looked into here.

The predicates on values are the ones of the program's own values: `IsWhole`, `Distinct`,
`Ordered`, and `Within depth` for the brackets that are open at once.
-/

namespace ChatGateway.Json

open Reader

namespace Value

/-! ## Kinds of values -/

/-- Every number has one property, and the names of every object have another. -/
inductive All (P : Number → Prop) (Q : List String → Prop) : Value → Prop where
  | null : All P Q .null
  | bool (b : Bool) : All P Q (.bool b)
  | number {n : Number} (h : P n) : All P Q (.number n)
  | text (s : String) : All P Q (.text s)
  | array {items : List Value} (hitems : ∀ v ∈ items, All P Q v) : All P Q (.array items)
  | object {members : List (String × Value)} (hnames : Q (members.map Prod.fst))
      (hvalues : ∀ m ∈ members, All P Q m.2) : All P Q (.object members)

/-- Every number is an integer that fits 64 bits, signed or unsigned. -/
def IsWhole (v : Value) : Prop := v.All (fun n => ∃ w, n = .whole w) fun _ => True

/-- No object has two members with one name. -/
def Distinct (v : Value) : Prop := v.All (fun _ => True) List.Nodup

/-- The members of every object are in strictly increasing order of their names. -/
def Ordered (v : Value) : Prop := v.All (fun _ => True) (List.Pairwise (· < ·))

/-- At most `depth` brackets are open at once. -/
inductive Within : (depth : Nat) → Value → Prop where
  | null {depth : Nat} : Within depth .null
  | bool {depth : Nat} (b : Bool) : Within depth (.bool b)
  | number {depth : Nat} (n : Number) : Within depth (.number n)
  | text {depth : Nat} (s : String) : Within depth (.text s)
  | array {depth : Nat} {items : List Value} (hitems : ∀ v ∈ items, Within depth v) :
      Within (depth + 1) (.array items)
  | object {depth : Nat} {members : List (String × Value)}
      (hvalues : ∀ m ∈ members, Within depth m.2) : Within (depth + 1) (.object members)

section

variable {P P' : Number → Prop} {Q Q' : List String → Prop}

@[simp] theorem all_null : All P Q .null := .null

@[simp] theorem all_bool (b : Bool) : All P Q (.bool b) := .bool b

@[simp] theorem all_text (s : String) : All P Q (.text s) := .text s

@[simp] theorem all_number_iff {n : Number} : All P Q (.number n) ↔ P n :=
  ⟨fun h => by cases h with | number h => exact h, .number⟩

@[simp] theorem all_array_iff {items : List Value} :
    All P Q (.array items) ↔ ∀ v ∈ items, v.All P Q :=
  ⟨fun h => by cases h with | array hitems => exact hitems, .array⟩

@[simp] theorem all_object_iff {members : List (String × Value)} :
    All P Q (.object members) ↔ Q (members.map Prod.fst) ∧ ∀ m ∈ members, m.2.All P Q :=
  ⟨fun h => by cases h with | object hnames hvalues => exact ⟨hnames, hvalues⟩,
    fun h => .object h.1 h.2⟩

theorem All.imp {v : Value} (h : v.All P Q) (hP : ∀ n, P n → P' n)
    (hQ : ∀ names, Q names → Q' names) : v.All P' Q' := by
  induction h with
  | null => exact .null
  | bool b => exact .bool b
  | number h => exact .number (hP _ h)
  | text s => exact .text s
  | array _ ih => exact .array ih
  | object hnames _ ih => exact .object (hQ _ hnames) ih

end

theorem Ordered.distinct {v : Value} (h : v.Ordered) : v.Distinct :=
  h.imp (fun _ => id) fun _ hnames => hnames.imp fun hlt => ne_of_lt hlt

@[simp] theorem within_null {depth : Nat} : Within depth .null := .null

@[simp] theorem within_bool {depth : Nat} (b : Bool) : Within depth (.bool b) := .bool b

@[simp] theorem within_number {depth : Nat} (n : Number) : Within depth (.number n) := .number n

@[simp] theorem within_text {depth : Nat} (s : String) : Within depth (.text s) := .text s

@[simp] theorem within_array_iff {depth : Nat} {items : List Value} :
    Within (depth + 1) (.array items) ↔ ∀ v ∈ items, Within depth v :=
  ⟨fun h => by cases h with | array hitems => exact hitems, .array⟩

@[simp] theorem within_object_iff {depth : Nat} {members : List (String × Value)} :
    Within (depth + 1) (.object members) ↔ ∀ m ∈ members, Within depth m.2 :=
  ⟨fun h => by cases h with | object hvalues => exact hvalues, .object⟩

/-! ## The members of all objects in order -/

mutual

/-- The value with the members of its objects in order. -/
def inOrder : Value → Value
  | .array items => .array (inOrders items)
  | .object members => .ofMembers (inOrderMembers members)
  | v => v

/-- The values of a list with the members of their objects in order. -/
def inOrders : List Value → List Value
  | [] => []
  | v :: vs => v.inOrder :: inOrders vs

/-- The values of members with the members of their objects in order. -/
def inOrderMembers : List (String × Value) → List (String × Value)
  | [] => []
  | (name, v) :: members => (name, v.inOrder) :: inOrderMembers members

end

theorem inOrders_eq_map (vs : List Value) : inOrders vs = vs.map inOrder := by
  induction vs with
  | nil => rfl
  | cons v vs ih => rw [inOrders, ih, List.map_cons]

theorem inOrderMembers_eq_map (members : List (String × Value)) :
    inOrderMembers members = members.map fun m => (m.1, m.2.inOrder) := by
  induction members with
  | nil => rfl
  | cons m members ih => rw [inOrderMembers, ih, List.map_cons]

theorem inOrder_array (items : List Value) :
    (array items).inOrder = .array (items.map inOrder) := by
  rw [inOrder, inOrders_eq_map]

theorem inOrder_object (members : List (String × Value)) :
    (object members).inOrder = .ofMembers (members.map fun m => (m.1, m.2.inOrder)) := by
  rw [inOrder, inOrderMembers_eq_map]

/-- Values that are in order stay as they are. -/
theorem Ordered.inOrder_eq {v : Value} (h : v.Ordered) : v.inOrder = v := by
  induction h with
  | array _ ih =>
      rw [inOrder_array, List.map_congr_left ih, List.map_id']
  | @object members hnames _ ih =>
      have hmembers : (members.map fun m => (m.1, m.2.inOrder)) = members := by
        calc (members.map fun m => (m.1, m.2.inOrder))
            = members.map fun m => m := List.map_congr_left fun m hm => by rw [ih m hm]
          _ = members := List.map_id' members
      rw [inOrder_object, hmembers, ofMembers, ordered_eq_self (List.pairwise_map.mp hnames)]
  | _ => rfl

/-- Putting the members in order does so at any depth. -/
theorem Distinct.inOrder_ordered {v : Value} (h : v.Distinct) : v.inOrder.Ordered := by
  induction h with
  | null => exact .null
  | bool b => exact .bool b
  | number _ => exact .number trivial
  | text s => exact .text s
  | array _ ih =>
      rw [inOrder_array]
      exact .array (List.forall_mem_map.mpr ih)
  | object _ _ ih =>
      rw [inOrder_object, ofMembers]
      refine .object (List.pairwise_map.mpr (ordered_inOrder _)) fun m hm => ?_
      obtain ⟨m', hm', rfl⟩ := List.mem_map.mp (mem_of_mem_ordered hm)
      exact ih m' hm'

end Value

/-! ## The tree of a value -/

namespace Tree

mutual

/-- The tree that a value is written as. -/
def ofValue : Value → Tree
  | .null => .null
  | .bool b => .bool b
  | .number n => .number (Utf8.bytes (Writer.number n))
  | .text s => .text s
  | .array items => .array (ofValues items)
  | .object members => .object (ofMembers members)

/-- The trees that the values of a list are written as. -/
def ofValues : List Value → List Tree
  | [] => []
  | v :: vs => ofValue v :: ofValues vs

/-- The trees that the values of members are written as. -/
def ofMembers : List (String × Value) → List (String × Tree)
  | [] => []
  | (name, v) :: members => (name, ofValue v) :: ofMembers members

end

theorem ofValues_eq_map (vs : List Value) : ofValues vs = vs.map ofValue := by
  induction vs with
  | nil => rfl
  | cons v vs ih => rw [ofValues, ih, List.map_cons]

theorem ofMembers_eq_map (members : List (String × Value)) :
    ofMembers members = members.map fun m => (m.1, ofValue m.2) := by
  induction members with
  | nil => rfl
  | cons m members ih => rw [ofMembers, ih, List.map_cons]

theorem ofValue_array (items : List Value) : ofValue (.array items) = .array (items.map ofValue) := by
  rw [ofValue, ofValues_eq_map]

theorem ofValue_object (members : List (String × Value)) :
    ofValue (.object members) = .object (members.map fun m => (m.1, ofValue m.2)) := by
  rw [ofValue, ofMembers_eq_map]

theorem distinct_ofValue {v : Value} (h : v.Distinct) : (ofValue v).Distinct := by
  induction h with
  | null => exact .null
  | bool b => exact .bool b
  | number _ => exact .number _
  | text s => exact .text s
  | array _ ih =>
      rw [ofValue_array]
      exact .array (List.forall_mem_map.mpr ih)
  | object hnames _ ih =>
      rw [ofValue_object]
      refine .object ?_ (List.forall_mem_map.mpr ih)
      rwa [List.map_map]

/-- The tree of a value comes to the value again. -/
theorem value?_ofValue {depth : Nat} {v : Value} (hdepth : v.Within depth) (hwhole : v.IsWhole) :
    (ofValue v).value? depth = some v.inOrder := by
  induction hdepth with
  | null => rfl
  | bool b => rfl
  | number n =>
      cases hwhole with
      | number h =>
          obtain ⟨w, rfl⟩ := h
          rw [ofValue, Writer.number, value?, numberOf?_whole]
          rfl
  | text s => rfl
  | @array depth items _ ih =>
      have hitems : ∀ v ∈ items, (ofValue v).value? depth = some v.inOrder :=
        fun v hv => ih v hv (Value.all_array_iff.mp hwhole v hv)
      rw [ofValue_array, value?_array, mapM_map_eq_some hitems, Value.inOrder_array]
      rfl
  | @object depth members _ ih =>
      have hmembers : ∀ m ∈ members, ((ofValue m.2).value? depth).map (Prod.mk m.1) =
          some (m.1, m.2.inOrder) := by
        intro m hm
        rw [ih m hm ((Value.all_object_iff.mp hwhole).2 m hm), Option.map_some]
      rw [ofValue_object, value?_object, mapM_map_eq_some hmembers, Value.inOrder_object]
      rfl

end Tree

/-! ## What is written -/

theorem values_eq_map (vs : List Value) : Writer.values vs = vs.map Writer.value := by
  induction vs with
  | nil => rfl
  | cons v vs ih => rw [Writer.values, ih, List.map_cons]

theorem memberValues_eq_map (members : List (String × Value)) :
    Writer.memberValues members = members.map fun m => (m.1, Writer.value m.2) := by
  induction members with
  | nil => rfl
  | cons m members ih => rw [Writer.memberValues, ih, List.map_cons]

/-- A list that is written item by item is a text of the list of trees. -/
theorem spelled_array {γ : Type} {written : γ → String} {tree : γ → Tree} {items : List γ}
    (hitems : ∀ i ∈ items, Spelled (Utf8.bytes (written i)) (tree i)) :
    Spelled (Utf8.bytes (Writer.array (items.map written))) (.array (items.map tree)) := by
  let pieces := items.map fun i => (Padded.bare (Utf8.bytes (written i)), tree i)
  have hpieces : ∀ p ∈ pieces, Spelled p.1.text p.2 := List.forall_mem_map.mpr hitems
  have hspelled := Spelled.array isGap_nil hpieces
  have htexts : pieces.map Prod.fst = (items.map fun i => Utf8.bytes (written i)).map Padded.bare := by
    simp [pieces]
  have htrees : pieces.map Prod.snd = items.map tree := by simp [pieces]
  rw [htexts, htrees, spread_bare, List.nil_append] at hspelled
  rw [bytes_array, List.map_map]
  exact hspelled

/-- An object that is written member by member is a text of the object of trees. -/
theorem spelled_object {γ : Type} {name written : γ → String} {tree : γ → Tree} {members : List γ}
    (hmembers : ∀ m ∈ members, Spelled (Utf8.bytes (written m)) (tree m)) :
    Spelled (Utf8.bytes (Writer.object (members.map fun m => (name m, written m))))
      (.object (members.map fun m => (name m, tree m))) := by
  let pieces := members.map fun m => SpelledMember.mk (.bare (writtenChars (name m))) (name m)
    (.bare (Utf8.bytes (written m))) (tree m)
  have hnames : ∀ p ∈ pieces, SpelledText p.key.text p.name :=
    List.forall_mem_map.mpr fun m _ => spelledText_writtenChars (name m)
  have hvalues : ∀ p ∈ pieces, Spelled p.value.text p.tree := List.forall_mem_map.mpr hmembers
  have htrees : (pieces.map fun p => (p.name, p.tree)) = members.map fun m => (name m, tree m) := by
    simp [pieces]
  have hspelled := Spelled.object isGap_nil hnames hvalues (List.Perm.of_eq htrees)
  have htexts : (pieces.map fun p => memberPiece p.key p.value) =
      (members.map fun m => memberText (name m) (Utf8.bytes (written m))).map Padded.bare := by
    simp [pieces, memberPiece_bare]
  rw [htexts, spread_bare, List.nil_append] at hspelled
  rw [bytes_object, List.map_map]
  exact hspelled

theorem spelled_text (s : String) : Spelled (Utf8.bytes (Writer.text s)) (.text s) := by
  rw [bytes_text]
  exact .text (spelledText_writtenChars s)

/-- **A value is written as a text of its tree.** -/
theorem spelled_value {v : Value} (h : v.IsWhole) :
    Spelled (Utf8.bytes (Writer.value v)) (Tree.ofValue v) := by
  induction h with
  | null => exact .null
  | bool b => exact .bool b
  | number h =>
      obtain ⟨w, rfl⟩ := h
      exact .number (isLiteral_int w.toInt)
  | text s => exact spelled_text s
  | array _ ih =>
      rw [Writer.value, values_eq_map, Tree.ofValue_array]
      exact spelled_array ih
  | object _ _ ih =>
      rw [Writer.value, memberValues_eq_map, Tree.ofValue_object]
      exact spelled_object ih

/-- A written value is read back, with the members of its objects in order. -/
theorem reads_value {depth : Nat} {v : Value} (hdistinct : v.Distinct) (hwhole : v.IsWhole)
    (hdepth : v.Within depth) : Reads (value depth) (Utf8.bytes (Writer.value v)) v.inOrder := by
  have hread := (gives_value (spelled_value hwhole) (Tree.distinct_ofValue hdistinct) depth).outcome
  rw [Tree.value?_ofValue hdepth hwhole] at hread
  exact reads_iff_outcome.mpr hread

theorem spelledBody_value {v : Value} (h : v.IsWhole) :
    SpelledBody (Utf8.bytes (Writer.value v)) (Tree.ofValue v) :=
  ⟨.bare (Utf8.bytes (Writer.value v)), spelled_value h, by simp [Padded.bare, Padded.bytes]⟩

end ChatGateway.Json
