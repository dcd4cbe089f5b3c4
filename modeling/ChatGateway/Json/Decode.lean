import ChatGateway.Json.Reader.Record

/-!
# Decoding a body

A body is decoded as a whole: after the value only blanks may follow.
-/

namespace ChatGateway.Json

/-- Reads a whole text, and refuses what follows the value. -/
def Reader.entire {α : Type} (reader : Reader α) (text : List UInt8) : Except Fault α :=
  match reader text with
  | .error fault => .error fault
  | .ok (a, rest) =>
    match skipBlanks rest with
    | [] => .ok a
    | _ :: unread => refuse .trailingCharacters unread

/-- Decodes a body; a refusal says where in the body it arose. -/
def decode {α : Type} (reader : Reader α) (body : List UInt8) : Except DecodeError α :=
  match reader.entire body with
  | .error fault => .error (fault.locate body)
  | .ok a => .ok a

end ChatGateway.Json
