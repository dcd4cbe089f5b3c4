import ChatGateway.Url.Host

/-!
# URLs

A URL in its parts, and its text.  The parts hold what stands in the text: a
path that is percent-encoded there is percent-encoded here.
-/

namespace ChatGateway

namespace Url

/-- Who is asked for a resource. -/
structure Authority where
  username : String := ""
  password : String := ""
  host : Host
  /-- The TCP number, if the text has one; the default of the scheme is left
  out. -/
  portNumber : Option Nat := none
deriving DecidableEq, Repr

/-- The path of a URL. -/
inductive Path where
  /-- A path that no relative reference can be resolved against. -/
  | opaqueText (s : String)
  /-- The parts between slashes; no parts are the empty path. -/
  | segments (parts : List String)
deriving DecidableEq, Repr

end Url

/-- A URL. -/
structure Url where
  scheme : String
  authority : Option Url.Authority
  path : Url.Path
  query : Option String := none
  fragment : Option String := none
deriving DecidableEq, Repr

namespace Url

/-- The TCP number that a scheme stands for. -/
def defaultNumber? : String → Option Nat
  | "http" | "ws" => some 80
  | "https" | "wss" => some 443
  | "ftp" => some 21
  | _ => none

/-- Whether a scheme is one of those that name Internet services or files. -/
def isSpecial (scheme : String) : Bool := (defaultNumber? scheme).isSome || scheme == "file"

namespace Authority

/-- The user name and the password as they stand in a URL. -/
def credentials (a : Authority) : String :=
  if a.username.isEmpty && a.password.isEmpty then ""
  else a.username ++ (if a.password.isEmpty then "" else ":" ++ a.password) ++ "@"

/-- The host and the TCP number as they stand in a URL. -/
def hostAndNumber (a : Authority) : String :=
  a.host.render ++ match a.portNumber with
    | none => ""
    | some n => ":" ++ toString n

/-- The authority as it stands in a URL. -/
def render (a : Authority) : String := a.credentials ++ a.hostAndNumber

end Authority

/-- The path as it stands in a URL. -/
def Path.render : Path → String
  | .opaqueText s => s
  | .segments parts => String.join (parts.map ("/" ++ ·))

/-- The text before the query: without an authority, a path that begins with an
empty part is set apart from one by a dot. -/
def hierarchy (u : Url) : String :=
  match u.authority, u.path with
  | some a, path => "//" ++ a.render ++ path.render
  | none, .segments ("" :: part :: parts) => "/." ++ (Path.segments ("" :: part :: parts)).render
  | none, path => path.render

/-- The query with its mark. -/
def queryText (u : Url) : String := (u.query.map ("?" ++ ·)).getD ""

/-- The fragment with its mark. -/
def fragmentText (u : Url) : String := (u.fragment.map ("#" ++ ·)).getD ""

/-- The text of a URL. -/
def render (u : Url) : String := u.scheme ++ ":" ++ u.hierarchy ++ u.queryText ++ u.fragmentText

/-- The URL without a user name and a password. -/
def withoutCredentials (u : Url) : Url :=
  { u with authority := u.authority.map fun a => { a with username := "", password := "" } }

/-- The URL without its fragment. -/
def withoutFragment (u : Url) : Url := { u with fragment := none }

/-- The host of a URL. -/
def host? (u : Url) : Option Host := u.authority.map (·.host)

/-- The TCP number that a URL leads to. -/
def effectiveNumber? (u : Url) : Option Nat :=
  match u.authority.bind (·.portNumber) with
  | some n => some n
  | none => defaultNumber? u.scheme

end Url

end ChatGateway
