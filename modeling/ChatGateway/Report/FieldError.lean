import ChatGateway.Json.Writer

/-!
# Reports on fields

A `FieldError` says what is wrong with one field of a request: where the field
is, what the rule is, and which kind of rule it is.  A place in a request is a
path of names and indexes, and reports are kept in the order of their places.
-/

namespace ChatGateway

/-- A step on the way to a field. -/
inductive Segment where
  | name (s : String)
  | index (n : Nat)
deriving DecidableEq, Repr

namespace Segment

/-- The order of segments: names by their bytes, then indexes by number. -/
def compare : Segment → Segment → Ordering
  | .name s, .name t => Ord.compare s t
  | .name _, .index _ => .lt
  | .index _, .name _ => .gt
  | .index m, .index n => Ord.compare m n

/-- The segment on its own, as messages show it. -/
def render : Segment → String
  | .name s => s
  | .index n => toString n

/-- The segment as JSON. -/
def toJson : Segment → String
  | .name s => Json.Writer.text s
  | .index n => toString n

end Segment

/-- The way from the root of a request to a field. -/
abbrev Location := List Segment

namespace Location

/-- The order of locations: by their first differing segments, a location before
those that continue it. -/
def compare : Location → Location → Ordering
  | [], [] => .eq
  | [], _ :: _ => .lt
  | _ :: _, [] => .gt
  | a :: as, b :: bs =>
    match a.compare b with
    | .eq => compare as bs
    | order => order

/-- Whether one location may stand before another. -/
def le (a b : Location) : Bool := compare a b != .gt

/-- The location as messages show it. -/
def render (loc : Location) : String := String.intercalate "." (loc.map Segment.render)

/-- The body of a request. -/
def body : Location := [.name "body"]

end Location

/-- What is wrong with a field. -/
structure FieldError where
  loc : Location
  msg : String
  /-- The kind of rule that is broken. -/
  kind : String
deriving DecidableEq, Repr

namespace FieldError

/-- The report as JSON. -/
def toJson (e : FieldError) : String :=
  Json.Writer.object [
    ("loc", Json.Writer.array (e.loc.map Segment.toJson)),
    ("msg", Json.Writer.text e.msg),
    ("type", Json.Writer.text e.kind)]

/-- Reports in the order of their locations; reports on one field keep their
order. -/
def sort (errors : List FieldError) : List FieldError :=
  errors.mergeSort fun a b => a.loc.le b.loc

/-- The report in words. -/
def summary (e : FieldError) : String := e.loc.render ++ ": " ++ e.msg

end FieldError

end ChatGateway
