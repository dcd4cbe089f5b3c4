import ChatGateway.Json.Reader.Value
import ChatGateway.Proofs.Json.Repeat

/-!
# What a JSON text says

A `Tree` is what a JSON text says, apart from how it is spelled: which blanks stand
between its tokens, how the characters of its texts are written, and in which order the
members of an object come.  Only numbers are kept as they are written, because it is up
to the reader what to make of them.

`Tree.value?` is the value that a tree comes to where only so many brackets may be open
at once.  There is none where the tree nests deeper, or where a number in it is out of
range.
-/

namespace ChatGateway.Json

open Reader

/-- What a JSON text says.  The order of members has no meaning. -/
inductive Tree where
  | null
  | bool (b : Bool)
  | number (literal : List UInt8)
  | text (s : String)
  | array (items : List Tree)
  | object (members : List (String × Tree))

namespace Tree

/-- No object has two members with one name. -/
inductive Distinct : Tree → Prop where
  | null : Distinct .null
  | bool (b : Bool) : Distinct (.bool b)
  | number (literal : List UInt8) : Distinct (.number literal)
  | text (s : String) : Distinct (.text s)
  | array {items : List Tree} (hitems : ∀ t ∈ items, Distinct t) : Distinct (.array items)
  | object {members : List (String × Tree)} (hnames : (members.map Prod.fst).Nodup)
      (hvalues : ∀ m ∈ members, Distinct m.2) : Distinct (.object members)

theorem Distinct.of_array {items : List Tree} (h : Distinct (.array items)) :
    ∀ t ∈ items, Distinct t := by
  cases h with
  | array hitems => exact hitems

theorem Distinct.of_object {members : List (String × Tree)} (h : Distinct (.object members)) :
    (members.map Prod.fst).Nodup ∧ ∀ m ∈ members, Distinct m.2 := by
  cases h with
  | object hnames hvalues => exact ⟨hnames, hvalues⟩

/-- The number that is read off a literal, if it is in range. -/
def numberOf? : List UInt8 → Option Number
  | [] => none
  | b :: more => (Reader.number b more).toOption.map Prod.fst

mutual

/-- The value of a tree where `depth` brackets may be open at once. -/
def value? : Tree → (depth : Nat) → Option Value
  | .null, _ => some .null
  | .bool b, _ => some (.bool b)
  | .number literal, _ => (numberOf? literal).map .number
  | .text s, _ => some (.text s)
  | .array _, 0 => none
  | .array items, depth + 1 => (values? items depth).map .array
  | .object _, 0 => none
  | .object members, depth + 1 => (memberValues? members depth).map .ofMembers

/-- The values of the items of a list. -/
def values? : List Tree → (depth : Nat) → Option (List Value)
  | [], _ => some []
  | t :: ts, depth => (t.value? depth).bind fun v => (values? ts depth).map (v :: ·)

/-- The values of the members of an object. -/
def memberValues? : List (String × Tree) → (depth : Nat) → Option (List (String × Value))
  | [], _ => some []
  | (name, t) :: ms, depth =>
    ((t.value? depth).map (Prod.mk name)).bind fun m => (memberValues? ms depth).map (m :: ·)

end

theorem values?_eq_mapM (items : List Tree) (depth : Nat) :
    values? items depth = items.mapM fun t : Tree => t.value? depth := by
  induction items with
  | nil => rfl
  | cons t items ih => rw [values?, ih, mapM_cons_eq]

theorem memberValues?_eq_mapM (members : List (String × Tree)) (depth : Nat) :
    memberValues? members depth =
      members.mapM fun m : String × Tree => (m.2.value? depth).map (Prod.mk m.1) := by
  induction members with
  | nil => rfl
  | cons m members ih => rw [memberValues?, ih, mapM_cons_eq]

theorem value?_array (items : List Tree) (depth : Nat) :
    (array items).value? (depth + 1) = (items.mapM fun t : Tree => t.value? depth).map .array := by
  rw [value?, values?_eq_mapM]

theorem value?_object (members : List (String × Tree)) (depth : Nat) :
    (object members).value? (depth + 1) =
      (members.mapM fun m : String × Tree => (m.2.value? depth).map (Prod.mk m.1)).map .ofMembers := by
  rw [value?, memberValues?_eq_mapM]

end Tree

end ChatGateway.Json
