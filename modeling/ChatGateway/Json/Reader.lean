import ChatGateway.Json.Byte
import ChatGateway.Json.Fault

/-!
# Readers

A reader takes what it reads off the front of a text and leaves the rest, or
settles on a fault.  Everything that reads JSON here is built from readers.

Reading repeats through one combinator, `repeatedly`: a step either goes on with
a new state or is done.  Every step that goes on uses up at least one byte, so
the text itself bounds the number of rounds.
-/

namespace ChatGateway.Json

/-- Takes an `α` off the front of a text and leaves the rest of it. -/
abbrev Reader (α : Type) := List UInt8 → Except Fault (α × List UInt8)

namespace Reader

/-- The refusal whose place is before `unread`. -/
def refuse {α : Type} (cause : Cause) (unread : List UInt8) : Except Fault α :=
  .error ⟨cause, unread⟩

/-- The refusal of the byte that `unread` begins with: its place is after that
byte, or at the end of a text that has ended. -/
def refuseNext {α : Type} (cause : Cause) (unread : List UInt8) : Except Fault α :=
  .error ⟨cause, unread.drop 1⟩

/-! ## Repetition -/

/-- What a step of a repetition comes to. -/
inductive Turn (σ β : Type) where
  | again (state : σ)
  | done (result : β)

/-- Repeats a step, for as long as the text in the third place lasts. -/
def repeatWithin {σ β : Type} (step : σ → Reader (Turn σ β)) : List UInt8 → σ → Reader β
  | fuel, state, text =>
    match step state text with
    | .error fault => .error fault
    | .ok (.done result, rest) => .ok (result, rest)
    | .ok (.again state', rest) =>
      match fuel with
      | [] => refuse .endInValue rest
      | _ :: fuel => repeatWithin step fuel state' rest

/-- Repeats a step until it is done.  The text bounds the rounds: a step that
goes on leaves less of it. -/
def repeatedly {σ β : Type} (step : σ → Reader (Turn σ β)) (state : σ) : Reader β :=
  fun text => repeatWithin step text state text

/-! ## Words -/

/-- Reads the given bytes. -/
def expectWord : List UInt8 → Reader Unit
  | [], text => .ok ((), text)
  | _ :: _, [] => refuse .endInValue []
  | expected :: word, b :: text =>
    if b = expected then expectWord word text else refuse .expectedWord text

/-- The bytes of `null` after its first. -/
def wordNull : List UInt8 := [0x75, 0x6C, 0x6C]

/-- The bytes of `true` after its first. -/
def wordTrue : List UInt8 := [0x72, 0x75, 0x65]

/-- The bytes of `false` after its first. -/
def wordFalse : List UInt8 := [0x61, 0x6C, 0x73, 0x65]

end Reader

end ChatGateway.Json
