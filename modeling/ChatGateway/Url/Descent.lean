import ChatGateway.Url.Cut

/-!
# Following a path

The parts of a path are followed one after the other, from the root or from the
parts of another path.  A part can stand for the one it is in or for the one above.
The way up ends at the root, and also at a part that reads as a drive: it stays,
whatever the scheme.

At the root of a file a part can name its drive.  There the mark of the drive becomes
a colon, and the drive ends where a line is broken right after its colon.
-/

namespace ChatGateway.Url

/-- Whether a character parts a path. -/
def isSlash (special : Bool) (c : Char) : Bool := c == '/' || (special && c == '\\')

/-- The parts of a path between slashes. -/
def parts (special : Bool) (cs : List Char) : List (List Char) :=
  cs.splitOnP (isSlash special)

/-! ## What a part stands for -/

/-- Whether a part stands for the one it is in. -/
def isHere (part : String) : Bool := [".", "%2e"].contains part.toLower

/-- Whether a part stands for the one above. -/
def isAbove (part : String) : Bool := ["..", ".%2e", "%2e.", "%2e%2e"].contains part.toLower

/-- Whether characters name a drive. -/
def isDrive : List Char → Bool
  | [letter, mark] => letter.isAlpha && (mark == ':' || mark == '|')
  | _ => false

/-- Whether the way up ends at a part: it names a drive, or it does up to a
backslash. -/
def isPinned (part : String) : Bool := isDrive (part.toList.takeWhile (· != '\\'))

/-- A part as it stands in a path. -/
def partText (part : List Char) : String := percentEncode encodesPath (unbroken part)

/-- The drive at the front of a part, and the text after the break that ends it. -/
def cutDrive? (part : List Char) : Option (String × String) :=
  match part.dropWhile isBreak with
  | [] => none
  | letter :: more =>
    match more.dropWhile isBreak with
    | ':' :: mark :: rest =>
      if letter.isAlpha && isBreak mark && !(unbroken rest).isEmpty then
        some (String.ofList [letter, ':'], partText rest)
      else none
    | _ => none

/-! ## The way -/

/-- How far a path has been followed. -/
structure Descent where
  /-- The parts passed, the last one first. -/
  passed : List String := []
  /-- Whether the path of a file has been found to begin with a drive. -/
  drive : Bool := false
deriving DecidableEq, Repr

namespace Descent

/-- Passes a part. -/
def push (way : Descent) (part : String) : Descent := { way with passed := part :: way.passed }

/-- Goes up. -/
def up (way : Descent) : Descent :=
  match way.passed with
  | [] => way
  | part :: above => if isPinned part then way else { way with passed := above }

/-- Passes the first part of a file's path. -/
def pushFirst (way : Descent) (part : List Char) : Descent :=
  match cutDrive? part with
  | some (drive, more) => (way.push drive).push more
  | none =>
    match unbroken part with
    | [letter, mark] =>
      if isDrive [letter, mark] then { passed := [String.ofList [letter, ':']], drive := true }
      else way.push (partText part)
    | _ => way.push (partText part)

/-- Follows a part. -/
def follow (scheme : String) (way : Descent) (part : List Char) : Descent :=
  let text := partText part
  if isAbove text then way.up
  else if isHere text then way
  else if scheme == "file" && way.passed.isEmpty then way.pushFirst part
  else way.push text

/-- Follows a whole path.  One that ends with a part that stands for another one ends
below that one, with an empty part. -/
def followAll (scheme : String) (way : Descent) (path : List (List Char)) : Descent :=
  let arrived := path.foldl (follow scheme) way
  if path.getLast?.any fun part => isAbove (partText part) || isHere (partText part) then
    arrived.push ""
  else arrived

/-- The parts passed, in order. -/
def toList (way : Descent) : List String := way.passed.reverse

end Descent

/-- The path that a text spells, followed from below the parts `above`. -/
def descend (scheme : String) (above : List String) (cs : List Char) : Descent :=
  Descent.followAll scheme { passed := above.reverse } (parts (isSpecial scheme) cs)

/-- The parts of that path. -/
def pathBelow (scheme : String) (above : List String) (cs : List Char) : List String :=
  (descend scheme above cs).toList

/-- The path after an authority: the empty path can only stand in schemes that
are not special. -/
def pathAfterAuthority (scheme : String) (cs : List Char) : Path :=
  match cs with
  | [] => .segments (if isSpecial scheme then [""] else [])
  | c :: rest => .segments (pathBelow scheme [] (if isSlash (isSpecial scheme) c then rest else cs))

end ChatGateway.Url
