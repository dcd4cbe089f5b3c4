import ChatGateway.Json.Reader.Text
import ChatGateway.Json.Reader.Number

/-!
# Skipping values

A member that is not asked for is passed over.  Its value has to have the form
of JSON, but nothing is made of it: nesting may be of any depth, numbers of any
size and texts of any bytes.

The brackets that are open form a stack, the innermost first.
-/

namespace ChatGateway.Json.Reader

/-- An open bracket. -/
inductive Bracket where
  | list
  | object
deriving DecidableEq

/-- What a text that ends inside the bracket is refused with. -/
def Bracket.atEnd : Bracket → Cause
  | .list => .endInList
  | .object => .endInObject

/-- What is asked for after a value inside the bracket. -/
def Bracket.expectedEnd : Bracket → Cause
  | .list => .expectedItemEnd
  | .object => .expectedMemberEnd

/-- The byte that closes the bracket. -/
def Bracket.close : Bracket → UInt8
  | .list => closeBracket
  | .object => closeBrace

/-- Skips the name of a member and the colon after it. -/
def skipName : Reader Unit := fun text =>
  match skipBlanks text with
  | [] => refuse .endInObject []
  | b :: text =>
    if b = quote then
      match skipText text with
      | .error fault => .error fault
      | .ok (_, text) =>
        match skipBlanks text with
        | [] => refuse .endInObject []
        | b :: text => if b = colon then .ok ((), text) else refuse .expectedColon text
    else refuse .nameNotText text

/-- What is expected next while values are skipped. -/
inductive Expecting where
  /-- A value. -/
  | value
  /-- A closing bracket, or the first item or member inside the bracket. -/
  | first
  /-- A closing bracket or a comma. -/
  | next

/-- Skips a value that is no list and no object, or an opening bracket. -/
def skipValueStep (stack : List Bracket) : Reader (Turn (Expecting × List Bracket) Unit) :=
  fun text =>
    let after : Reader Unit → Reader (Turn (Expecting × List Bracket) Unit) := fun reader text =>
      match reader text with
      | .error fault => .error fault
      | .ok (_, rest) => .ok (.again (.next, stack), rest)
    match skipBlanks text with
    | [] => refuse .endInValue []
    | b :: text =>
      if b = 0x6E then after (expectWord wordNull) text
      else if b = 0x74 then after (expectWord wordTrue) text
      else if b = 0x66 then after (expectWord wordFalse) text
      else if b = minus || Ascii.isDigit b then after (skipNumber b) text
      else if b = quote then after skipText text
      else if b = openBracket then .ok (.again (.first, .list :: stack), text)
      else if b = openBrace then .ok (.again (.first, .object :: stack), text)
      else refuse .expectedValue text

/-- Skips an item up to its end or its opening bracket, or the name of a
member. -/
def skipEntry (stack : List Bracket) : Bracket → Reader (Turn (Expecting × List Bracket) Unit)
  | .list => skipValueStep stack
  | .object => fun text =>
    match skipName text with
    | .error fault => .error fault
    | .ok (_, rest) => .ok (.again (.value, stack), rest)

/-- Skips some of a value, or ends once no bracket is open. -/
def skipStep : Expecting × List Bracket → Reader (Turn (Expecting × List Bracket) Unit)
  | (.value, stack) => skipValueStep stack
  | (_, []) => fun text => .ok (.done (), text)
  | (expecting, bracket :: stack) => fun text =>
    match skipBlanks text with
    | [] => refuse bracket.atEnd []
    | b :: rest =>
      if b = bracket.close then .ok (.again (.next, stack), rest)
      else match expecting with
        | .next =>
          if b = comma then skipEntry (bracket :: stack) bracket rest
          else refuse bracket.expectedEnd rest
        | _ => skipEntry (bracket :: stack) bracket (b :: rest)

/-- Skips a value. -/
def skipValue : Reader Unit := repeatedly skipStep (.value, [])

end ChatGateway.Json.Reader
