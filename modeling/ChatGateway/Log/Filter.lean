import ChatGateway.Log
import ChatGateway.Pattern.Parser
import ChatGateway.Pattern.Search
import ChatGateway.Text.Blank

/-!
# Which entries are written

A filter is given by a text such as `info` or `warn,chat_relay=debug`: levels for
targets whose names begin in a given way, the longest such beginning counting,
and a level for all others.  After a slash comes a pattern that has to occur in a
message for it to be written; a text that is no pattern asks for nothing.
-/

namespace ChatGateway.Log

/-- How severe an entry has to be to be written; `none` is never enough. -/
abbrev Threshold := Option Level

/-- Whether a level is severe enough. -/
def Threshold.admits : Threshold → Level → Bool
  | none, _ => false
  | some least, level => level.rank ≤ least.rank

/-- The threshold that a text names. -/
def threshold? (s : String) : Option Threshold :=
  match s.toLower with
  | "off" => some none
  | "error" => some (some .error)
  | "warn" => some (some .warn)
  | "info" => some (some .info)
  | "debug" => some (some .debug)
  | "trace" => some (some .trace)
  | _ => none

/-- A threshold for the targets whose names begin with `start`; without one, for
all targets. -/
structure Directive where
  start : Option String
  threshold : Threshold
deriving DecidableEq, Repr

namespace Directive

/-- The length of the beginning that a directive asks for, in bytes. -/
def length (d : Directive) : Nat := (d.start.map String.utf8ByteSize).getD 0

/-- Whether a directive is about a target. -/
def covers (d : Directive) (target : String) : Bool :=
  match d.start with
  | none => true
  | some start => start.toList.isPrefixOf target.toList

/-- Reads a directive: a level, a target, or both with an equals sign between. -/
def parse? (s : String) : Option Directive :=
  match s.splitOn "=" with
  | [single] =>
    match threshold? single with
    | some threshold => some ⟨none, threshold⟩
    | none => some ⟨some single, some .trace⟩
  | [start, level] =>
    if (Text.trim level).isEmpty then some ⟨some start, some .trace⟩
    else (threshold? (Text.trim level)).map fun threshold => ⟨some start, threshold⟩
  | _ => none

/-- Adds a directive, in place of one about the same targets. -/
def add (ds : List Directive) (d : Directive) : List Directive :=
  if ds.any (·.start == d.start) then ds.map fun e => if e.start == d.start then d else e
  else ds ++ [d]

end Directive

/-- Which entries are written. -/
structure Filter where
  directives : List Directive
  /-- What has to occur in a message. -/
  content : Option Pattern := none
deriving DecidableEq, Repr

namespace Filter

/-- Reads a filter; parts that cannot be read are passed over. -/
def parse (s : String) : Filter :=
  match s.splitOn "/" with
  | [] => ⟨[], none⟩
  | directives :: content =>
    if 1 < content.length then ⟨[], none⟩
    else {
      directives :=
        (((directives.splitOn ",").map Text.trim).filter fun part => !part.isEmpty).filterMap
          Directive.parse? |>.foldl Directive.add []
      content := content.head?.bind Pattern.parse? }

/-- The directives in use, in increasing order of the beginnings they ask for;
without any, only errors are written. -/
def inUse (f : Filter) : List Directive :=
  if f.directives.isEmpty then [⟨none, some .error⟩]
  else f.directives.mergeSort fun a b => a.length ≤ b.length

/-- Whether entries of a target are written at a level. -/
def admits (f : Filter) (level : Level) (target : String) : Bool :=
  match f.inUse.reverse.find? (·.covers target) with
  | some d => d.threshold.admits level
  | none => false

/-- Whether an entry is written, given by its level, its target and its message. -/
def passes (f : Filter) (level : Level) (target message : String) : Bool :=
  f.admits level target && f.content.all (·.occursIn message)

/-- Whether an entry is written. -/
def writes (f : Filter) (e : Entry) : Bool := f.passes e.level e.source.target e.message

end Filter

/-- The entry as it is written: the lines of a message after the first are
indented. -/
def Entry.written (e : Entry) : String :=
  String.intercalate "\n    " (e.render.splitOn "\n")

end ChatGateway.Log
