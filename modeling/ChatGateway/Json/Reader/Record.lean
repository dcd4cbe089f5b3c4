import ChatGateway.Json.Reader.Skip
import ChatGateway.Json.Reader.Value

/-!
# Reading values of a given kind

Readers for a text, a float, a 64-bit integer, a list and a record.  Where a
value of another kind stands, the refusal names what was found; lists and
objects are named without being read.

A record is written as an object, whose members may come in any order, each at
most once, among members that are not asked for; or as a list of its fields in
their order, whose last ones may be left out where the record allows it.
-/

namespace ChatGateway.Json

/-- What a message calls a value. -/
def Value.found : Value → Found
  | .null => .null
  | .bool b => .bool b
  | .number n => .number n
  | .text s => .text s
  | .array _ => .sequence
  | .object _ => .map

namespace Reader

/-- Refuses a value whose first byte is `b`, after reading it if it is no list
and no object. -/
def mistyped {α : Type} (expected : String) (b : UInt8) : Reader α := fun text =>
  if b = openBracket then refuse (.mistyped .sequence expected) (b :: text)
  else if b = openBrace then refuse (.mistyped .map expected) (b :: text)
  else
    match scalar b text with
    | .error fault => .error fault
    | .ok (v, rest) => refuse (.mistyped v.found expected) rest

/-- Reads a value by its first byte. -/
def byFirst {α : Type} (reader : UInt8 → Reader α) : Reader α := fun text =>
  match skipBlanks text with
  | [] => refuse .endInValue []
  | b :: rest => reader b rest

/-- Reads a text. -/
def string : Reader String := byFirst fun b =>
  if b = quote then Reader.text else mistyped "a string" b

/-- Reads a number. -/
def numberOf {α : Type} (expected : String) (convert : Number → Except Cause α) : Reader α :=
  byFirst fun b =>
    if b = minus || Ascii.isDigit b then fun text =>
      match number b text with
      | .error fault => .error fault
      | .ok (n, rest) =>
        match convert n with
        | .error cause => refuse cause rest
        | .ok a => .ok (a, rest)
    else mistyped expected b

/-- Reads a float; an integer stands for the float nearest to it. -/
def float : Reader Float := numberOf "f64" fun n => .ok n.toFloat

/-- A number as a signed 64-bit integer. -/
def toInt64 (expected : String) : Number → Except Cause Int64
  | .whole n =>
    if n.toInt ≤ 9223372036854775807 then .ok (Int64.ofInt n.toInt)
    else .error (.unrepresentable (.whole n) expected)
  | .float x => .error (.mistyped (.number (.float x)) expected)

/-- Reads a signed 64-bit integer. -/
def int64 : Reader Int64 := numberOf "i64" (toInt64 "i64")

/-- Reads a list. -/
def list {α : Type} (item : Reader α) : Reader (List α) := byFirst fun b =>
  if b = openBracket then listOf item else mistyped "a sequence" b

/-- Reads `null` as nothing. -/
def nullable {α : Type} (reader : Reader α) : Reader (Option α) := fun text =>
  match skipBlanks text with
  | 0x6E :: rest => map (fun _ => none) (expectWord wordNull) rest
  | rest => map some reader rest

/-! ## Records -/

/-- A field of a record whose draft is a `σ`. -/
structure Field (σ : Type) where
  /-- The name of the member that holds the field. -/
  name : String
  /-- Whether a draft has the field. -/
  given : σ → Bool
  /-- Reads the field into a draft. -/
  read : σ → Reader σ
  /-- Whether a list of the fields may end before this one. -/
  mayEnd : Bool := false

/-- How an `α` is put together from fields. -/
structure Record (σ α : Type) where
  /-- What a message calls the record. -/
  title : String
  /-- The fields in the order of the record's list form. -/
  fields : List (Field σ)
  /-- The draft without fields. -/
  empty : σ
  /-- Completes a draft, or names a member that it lacks. -/
  complete : σ → Except String α

namespace Record

variable {σ α : Type}

/-- What a list of the wrong length is refused with. -/
def lengthTitle (record : Record σ α) : String :=
  let count := record.fields.length
  record.title ++ " with " ++ toString count ++ (if count = 1 then " element" else " elements")

/-- Completes a draft; `unread` is the text after the record. -/
def settle (record : Record σ α) (draft : σ) (unread : List UInt8) :
    Except Fault (α × List UInt8) :=
  match record.complete draft with
  | .ok a => .ok (a, unread)
  | .error name => refuse (.missing name) unread

/-- Reads fields in their order; `index` fields have been read. -/
def positions (record : Record σ α) : List (Field σ) → (index : Nat) → σ → Reader σ
  | [], _, draft => fun text => .ok (draft, text)
  | field :: fields, index, draft => fun text =>
    match nextItem (index = 0) text with
    | .error fault => .error fault
    | .ok (true, rest) =>
      match field.read draft rest with
      | .error fault => .error fault
      | .ok (draft, rest) => positions record fields (index + 1) draft rest
    | .ok (false, rest) =>
      if field.mayEnd then positions record fields (index + 1) draft rest
      else refuse (.wrongLength index record.lengthTitle) (rest.drop 1)

/-- Reads the list form of a record, after its opening bracket. -/
def listForm (record : Record σ α) : Reader α := fun text =>
  match record.positions record.fields 0 record.empty text with
  | .error fault => .error fault
  | .ok (draft, rest) =>
    match closeList rest with
    | .error fault => .error fault
    | .ok (_, rest) => record.settle draft rest

/-- The place where a repeated member is noticed: before what follows its name,
or after a brace that follows it. -/
def afterRepeated (text : List UInt8) : List UInt8 :=
  match skipBlanks text with
  | [] => []
  | b :: rest => if b = closeBrace then rest else b :: rest

/-- Reads the value of the member called `name` into the draft, or skips it. -/
def memberValue (record : Record σ α) (name : String) (draft : σ) : Reader σ := fun text =>
  match record.fields.find? (·.name == name) with
  | none =>
    match nameEnd text with
    | .error fault => .error fault
    | .ok (_, rest) => map (fun _ => draft) skipValue rest
  | some field =>
    if field.given draft then refuse (.repeated name) (afterRepeated text)
    else
      match nameEnd text with
      | .error fault => .error fault
      | .ok (_, rest) => field.read draft rest

/-- Reads one more member, or the closing brace; the state says whether no
member has been read. -/
def fieldStep (record : Record σ α) : Bool × σ → Reader (Turn (Bool × σ) σ)
  | (first, draft) => fun text =>
    match nextMember first text with
    | .error fault => .error fault
    | .ok (false, rest) => .ok (.done draft, rest.drop 1)
    | .ok (true, rest) =>
      match Reader.text rest with
      | .error fault => .error fault
      | .ok (name, rest) =>
        match record.memberValue name draft rest with
        | .error fault => .error fault
        | .ok (draft, rest) => .ok (.again (false, draft), rest)

/-- Reads the object form of a record, after its opening brace. -/
def objectForm (record : Record σ α) : Reader α := fun text =>
  match repeatedly record.fieldStep (true, record.empty) text with
  | .error fault => .error fault
  | .ok (draft, rest) => record.settle draft rest

/-- Reads a record. -/
def reader (record : Record σ α) : Reader α := byFirst fun b =>
  if b = openBracket then record.listForm
  else if b = openBrace then record.objectForm
  else mistyped record.title b

end Record

end Reader

end ChatGateway.Json
