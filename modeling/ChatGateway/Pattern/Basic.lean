import ChatGateway.Pattern.CharSet

/-!
# Patterns

A pattern is a regular expression with assertions.  An assertion takes up no
character; whether it holds depends on the characters on both sides of its position.
-/

namespace ChatGateway

namespace Pattern

/-- A position in a text: the characters before and after it, where there are any. -/
structure Position where
  before : Option Char
  after : Option Char
deriving DecidableEq, Repr

/-- How a position lies to the words of a text. -/
inductive WordEdge where
  /-- A word begins or ends. -/
  | boundary
  | noBoundary
  /-- A word begins. -/
  | start
  /-- A word ends. -/
  | stop
  /-- No word character comes before. -/
  | startHalf
  /-- No word character comes after. -/
  | stopHalf
deriving DecidableEq, Repr

/-- Whether an edge lies between two characters, given which of them belong to
words. -/
def WordEdge.holds : WordEdge → (before after : Bool) → Bool
  | boundary, before, after => before != after
  | noBoundary, before, after => before == after
  | start, before, after => !before && after
  | stop, before, after => before && !after
  | startHalf, before, _ => !before
  | stopHalf, _, after => !after

/-- What a pattern can ask of a position. -/
inductive Assertion where
  | textStart
  | textEnd
  /-- The start of a line; with `crlf`, a carriage return ends a line too, and with
  the line feed after it as one. -/
  | lineStart (crlf : Bool)
  | lineEnd (crlf : Bool)
  /-- An edge of words that are made of the characters of a set. -/
  | wordEdge (edge : WordEdge) (word : CharSet)
deriving DecidableEq, Repr

/-- Whether an assertion holds at a position. -/
def Assertion.holds : Assertion → Position → Bool
  | textStart, p => p.before.isNone
  | textEnd, p => p.after.isNone
  | lineStart crlf, p =>
    p.before.isNone || p.before = some '\n' ||
      (crlf && p.before = some '\r' && p.after ≠ some '\n')
  | lineEnd false, p => p.after.isNone || p.after = some '\n'
  | lineEnd true, p =>
    p.after.isNone || p.after = some '\r' || (p.after = some '\n' && p.before ≠ some '\r')
  | wordEdge edge word, p => edge.holds (p.before.any word.holds) (p.after.any word.holds)

end Pattern

/-- A regular expression. -/
inductive Pattern where
  | empty
  | char (set : Pattern.CharSet)
  | assertion (assertion : Pattern.Assertion)
  | seq (a b : Pattern)
  | alt (a b : Pattern)
  /-- A pattern `least` times, and then up to `more` times again; without a bound, any
  number of times. -/
  | times (a : Pattern) (least : Nat) (more : Option Nat)
deriving DecidableEq, Repr

namespace Pattern

/-- Patterns one after the other. -/
def seqOf (ps : List Pattern) : Pattern := ps.foldr seq empty

/-- One of several patterns. -/
def altOf : List Pattern → Pattern
  | [] => empty
  | [p] => p
  | p :: ps => alt p (altOf ps)

/-- How large a pattern is when its repetitions are written out: the sizes of its sets,
and one for each other place. -/
def size : Pattern → Nat
  | empty => 1
  | char set => set.size
  | assertion _ => 1
  | seq a b => a.size + b.size
  | alt a b => a.size + b.size
  | times a least more => 1 + a.size * (least + more.getD 1)

end Pattern

end ChatGateway
