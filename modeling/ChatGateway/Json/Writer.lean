import ChatGateway.Decimal.Layout
import ChatGateway.Json.Value

/-!
# Writing JSON

Compact JSON text: no blanks between tokens, and in texts only the quotation
mark, the backslash and the controls below the space are escaped.
-/

namespace ChatGateway.Json.Writer

/-- A character inside a written text. -/
def char (c : Char) : String :=
  match c with
  | '"' => "\\\""
  | '\\' => "\\\\"
  | '\x08' => "\\b"
  | '\x0c' => "\\f"
  | '\n' => "\\n"
  | '\r' => "\\r"
  | '\t' => "\\t"
  | c =>
    if c.toNat < 0x20 then
      "\\u00" ++ String.ofList [Nat.digitChar (c.toNat / 16), Nat.digitChar (c.toNat % 16)]
    else String.singleton c

/-- A written text. -/
def text (s : String) : String := "\"" ++ String.join (s.toList.map char) ++ "\""

/-- A written float; what is no number at all is written as `null`. -/
def float (x : Float) : String := if x.isFinite then Decimal.format x else "null"

/-- A written number. -/
def number : Number → String
  | .whole n => toString n.toInt
  | .float x => float x

/-- A written list of written items. -/
def array (items : List String) : String := "[" ++ String.intercalate "," items ++ "]"

/-- A written member. -/
def member (m : String × String) : String := text m.1 ++ ":" ++ m.2

/-- A written object of named written values. -/
def object (members : List (String × String)) : String :=
  "\x7b" ++ String.intercalate "," (members.map member) ++ "\x7d"

mutual

/-- A written value. -/
def value : Value → String
  | .null => "null"
  | .bool b => if b then "true" else "false"
  | .number n => number n
  | .text s => text s
  | .array items => array (values items)
  | .object members => object (memberValues members)

/-- The written values of a list. -/
def values : List Value → List String
  | [] => []
  | v :: vs => value v :: values vs

/-- The written values of an object's members. -/
def memberValues : List (String × Value) → List (String × String)
  | [] => []
  | (name, v) :: members => (name, value v) :: memberValues members

end

/-- A written value, or `null` for none. -/
def optional : Option Value → String
  | none => "null"
  | some v => value v

end ChatGateway.Json.Writer
