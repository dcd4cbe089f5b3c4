import ChatGateway.Text.Printable

/-!
# Quoted text in messages

How a message shows a text it found: between quotation marks, with the marks,
the backslash and all characters that would not show written as escapes.  What is
handed to the system is shown with escaped apostrophes, too.
-/

namespace ChatGateway.Text

/-- A character as a message shows it. -/
def quotedChar (c : Char) : String :=
  match c with
  | '\x00' => "\\0"
  | '\t' => "\\t"
  | '\n' => "\\n"
  | '\r' => "\\r"
  | '"' => "\\\""
  | '\\' => "\\\\"
  | c =>
    if shows c then String.singleton c
    else "\\u\x7b" ++ String.ofList (Nat.toDigits 16 c.toNat) ++ "\x7d"

/-- A text as a message shows it. -/
def quoted (s : String) : String := "\"" ++ String.join (s.toList.map quotedChar) ++ "\""

/-- A character as a message shows it that is about a text for the system. -/
def systemChar (c : Char) : String := if c == '\x27' then "\\\x27" else quotedChar c

/-- A text for the system as a message shows it. -/
def quotedForSystem (s : String) : String :=
  "\"" ++ String.join (s.toList.map systemChar) ++ "\""

end ChatGateway.Text
