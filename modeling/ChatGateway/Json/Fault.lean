import ChatGateway.Decimal.Layout
import ChatGateway.Text.Quoted
import ChatGateway.Json.Number

/-!
# Why a text is refused, and where

A `Cause` says why a text cannot be read as what is asked for, and its
`message` puts that into words.  A `Fault` adds the bytes that were still
unread, which fixes the place: a `Position` is a function of the bytes read
before it, so every position lies in the text it speaks of.
-/

namespace ChatGateway.Json

/-- What stands where something else was asked for. -/
inductive Found where
  | null
  | bool (b : Bool)
  | number (n : Number)
  | text (s : String)
  | sequence
  | map

/-- How a number is written in a message. -/
def Number.describe : Number → String
  | .whole n => toString n.toInt
  | .float x => Decimal.format x

/-- How a message names what was found. -/
def Found.describe : Found → String
  | .null => "null"
  | .bool true => "boolean `true`"
  | .bool false => "boolean `false`"
  | .number (.whole n) => "integer `" ++ (Number.whole n).describe ++ "`"
  | .number (.float x) => "floating point `" ++ (Number.float x).describe ++ "`"
  | .text s => "string " ++ Text.quoted s
  | .sequence => "sequence"
  | .map => "map"

/-- Why a text is refused. -/
inductive Cause where
  | endInList
  | endInObject
  | endInText
  | endInValue
  | expectedColon
  | expectedItemEnd
  | expectedMemberEnd
  | expectedWord
  | expectedValue
  | invalidEscape
  | invalidNumber
  | numberOutOfRange
  | invalidCharacter
  | controlCharacter
  | nameNotText
  | loneSurrogate
  | unpairedSurrogate
  | trailingComma
  | trailingCharacters
  | tooDeep
  /-- A value of another kind stands there. -/
  | mistyped (found : Found) (expected : String)
  /-- The number there is of the right kind, but not one that is asked for. -/
  | unrepresentable (n : Number) (expected : String)
  /-- A list of the wrong length stands there. -/
  | wrongLength (length : Nat) (expected : String)
  | missing (member : String)
  | repeated (member : String)

/-- The cause in words. -/
def Cause.message : Cause → String
  | .endInList => "EOF while parsing a list"
  | .endInObject => "EOF while parsing an object"
  | .endInText => "EOF while parsing a string"
  | .endInValue => "EOF while parsing a value"
  | .expectedColon => "expected `:`"
  | .expectedItemEnd => "expected `,` or `]`"
  | .expectedMemberEnd => "expected `,` or `\x7d`"
  | .expectedWord => "expected ident"
  | .expectedValue => "expected value"
  | .invalidEscape => "invalid escape"
  | .invalidNumber => "invalid number"
  | .numberOutOfRange => "number out of range"
  | .invalidCharacter => "invalid unicode code point"
  | .controlCharacter => "control character (\\u0000-\\u001F) found while parsing a string"
  | .nameNotText => "key must be a string"
  | .loneSurrogate => "lone leading surrogate in hex escape"
  | .unpairedSurrogate => "unexpected end of hex escape"
  | .trailingComma => "trailing comma"
  | .trailingCharacters => "trailing characters"
  | .tooDeep => "recursion limit exceeded"
  | .mistyped found expected => "invalid type: " ++ found.describe ++ ", expected " ++ expected
  | .unrepresentable n expected =>
    "invalid value: " ++ (Found.number n).describe ++ ", expected " ++ expected
  | .wrongLength length expected =>
    "invalid length " ++ toString length ++ ", expected " ++ expected
  | .missing member => "missing field `" ++ member ++ "`"
  | .repeated member => "duplicate field `" ++ member ++ "`"

/-- A refusal, with the bytes that were unread when it was settled. -/
structure Fault where
  cause : Cause
  unread : List UInt8

/-- A place in a text. -/
structure Position where
  /-- One more than the line feeds before the place. -/
  line : Nat
  /-- The bytes since the last line feed. -/
  column : Nat
deriving DecidableEq, Repr

namespace Position

/-- The place after one more byte. -/
def next (p : Position) (b : UInt8) : Position :=
  if b = 0x0A then ⟨p.line + 1, 0⟩ else ⟨p.line, p.column + 1⟩

/-- The place after the given bytes. -/
def after (bytes : List UInt8) : Position := bytes.foldl next ⟨1, 0⟩

end Position

/-- A refusal in its final form; only a refusal of a text has a place. -/
structure DecodeError where
  cause : Cause
  position : Option Position

/-- The refusal in words. -/
def DecodeError.message (e : DecodeError) : String :=
  match e.position with
  | none => e.cause.message
  | some p =>
    e.cause.message ++ " at line " ++ toString p.line ++ " column " ++ toString p.column

/-- The place of a fault in the body it was found in. -/
def Fault.locate (body : List UInt8) (fault : Fault) : DecodeError :=
  ⟨fault.cause, some (Position.after (body.take (body.length - fault.unread.length)))⟩

end ChatGateway.Json
