import ChatGateway.Pattern.Basic

/-!
# Flags

How the text of a pattern is to be read.  Flags are set inside the text, for the rest
of a group or for a group of their own.
-/

namespace ChatGateway.Pattern

/-- How the text of a pattern is to be read. -/
structure Flags where
  ignoresCase : Bool := false
  /-- Whether lines have starts and ends, and not only the whole text. -/
  linewise : Bool := false
  /-- Whether a dot takes line breaks too. -/
  dotTakesBreaks : Bool := false
  /-- Whether a carriage return breaks a line too. -/
  crlf : Bool := false
  /-- Whether blanks and comments are passed over. -/
  spaced : Bool := false
  /-- Whether classes go beyond ASCII. -/
  unicode : Bool := true
deriving DecidableEq, Repr

namespace Flags

/-- Sets the flag of a letter.  `U` says which of several matches is preferred, and so
does not matter where a pattern only has to occur. -/
def set? (flags : Flags) (letter : Char) (value : Bool) : Option Flags :=
  match letter with
  | 'i' => some { flags with ignoresCase := value }
  | 'm' => some { flags with linewise := value }
  | 's' => some { flags with dotTakesBreaks := value }
  | 'R' => some { flags with crlf := value }
  | 'x' => some { flags with spaced := value }
  | 'u' => some { flags with unicode := value }
  | 'U' => some flags
  | _ => none

/-- The characters that stand for a set, as far as case matters.  Without Unicode only
letters of ASCII have a case. -/
def fold (flags : Flags) (set : CharSet) : CharSet :=
  if !flags.ignoresCase then set
  else if flags.unicode then .anyCase set
  else .union set (.inter (.anyCase (.inter set .ascii)) .ascii)

/-- The characters that words are made of. -/
def word (flags : Flags) : CharSet := if flags.unicode then .word else .asciiWord

/-- Decimal digits. -/
def digit (flags : Flags) : CharSet := if flags.unicode then .digit else .asciiDigit

/-- White space. -/
def blank (flags : Flags) : CharSet := if flags.unicode then .blank else .asciiBlank

/-- A set as a class of a pattern: without Unicode it must not go beyond ASCII. -/
def class? (flags : Flags) (set : CharSet) : Option CharSet :=
  if flags.unicode || !set.holds '\x80' then some set else none

/-- The characters that a dot stands for.  They go beyond ASCII, so without Unicode
there is no such class. -/
def dot? (flags : Flags) : Option CharSet :=
  flags.class? <|
    if flags.dotTakesBreaks then .any
    else .compl (if flags.crlf then .ranges [('\n', '\n'), ('\r', '\r')] else .single '\n')

/-- The assertion that a line starts. -/
def lineStart (flags : Flags) : Assertion :=
  if flags.linewise then .lineStart flags.crlf else .textStart

/-- The assertion that a line ends. -/
def lineEnd (flags : Flags) : Assertion :=
  if flags.linewise then .lineEnd flags.crlf else .textEnd

end Flags

/-! ## Taking from a text -/

/-- Takes an `α` off the front of a pattern's text and leaves the rest of it. -/
abbrev Taker (α : Type) := List Char → Option (α × List Char)

/-- A text without the blanks and comments at its front. -/
def dropComments (inComment : Bool) : List Char → List Char
  | [] => []
  | c :: cs =>
    if inComment then dropComments (c != '\n') cs
    else if Text.isBlank c then dropComments false cs
    else if c == '#' then dropComments true cs
    else c :: cs

/-- A text without what is passed over at its front. -/
def Flags.skip (flags : Flags) (cs : List Char) : List Char :=
  if flags.spaced then dropComments false cs else cs

/-- What a step of a repetition comes to. -/
inductive Turn (σ α : Type) where
  | again (state : σ)
  | done (result : α)

/-- Repeats a step, for as long as the text in the second place lasts. -/
def repeatWithin {σ α : Type} (step : σ → Taker (Turn σ α)) : List Char → σ → Taker α
  | fuel, state, cs =>
    match step state cs with
    | none => none
    | some (.done result, rest) => some (result, rest)
    | some (.again state, rest) =>
      match fuel with
      | [] => none
      | _ :: fuel => repeatWithin step fuel state rest

/-- Repeats a step until it is done.  The text bounds the rounds: a step that goes on
leaves less of it. -/
def repeatedly {σ α : Type} (step : σ → Taker (Turn σ α)) (state : σ) : Taker α :=
  fun cs => repeatWithin step cs state cs

end ChatGateway.Pattern
