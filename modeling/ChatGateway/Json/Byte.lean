/-!
# The bytes that JSON gives a meaning

Names for the structural bytes of a JSON text, and its blanks.
-/

namespace ChatGateway.Json

@[match_pattern] abbrev quote : UInt8 := 0x22
@[match_pattern] abbrev comma : UInt8 := 0x2C
@[match_pattern] abbrev minus : UInt8 := 0x2D
@[match_pattern] abbrev point : UInt8 := 0x2E
@[match_pattern] abbrev colon : UInt8 := 0x3A
@[match_pattern] abbrev openBracket : UInt8 := 0x5B
@[match_pattern] abbrev backslash : UInt8 := 0x5C
@[match_pattern] abbrev closeBracket : UInt8 := 0x5D
@[match_pattern] abbrev openBrace : UInt8 := 0x7B
@[match_pattern] abbrev closeBrace : UInt8 := 0x7D

/-- Space, line feed, tab and carriage return may stand between tokens. -/
def isBlank (b : UInt8) : Bool := b == 0x20 || b == 0x0A || b == 0x09 || b == 0x0D

/-- Bytes below the space may not stand raw in a text. -/
def isControl (b : UInt8) : Bool := b < 0x20

/-- Drops the blanks at the front of a text. -/
def skipBlanks (bytes : List UInt8) : List UInt8 := bytes.dropWhile isBlank

end ChatGateway.Json
