/-!
# Request targets

The address in an HTTP request: a path, a server, or both after a scheme.  What can be
written there is narrower than what a URL can hold: a server has no percent encoding
outside its credentials, and a path after a scheme needs a server.
-/

namespace ChatGateway.RequestTarget

/-- Whether a character may stand in the scheme of a target.  Any run of them is one: a
request does not have to name a scheme that is registered. -/
def isSchemeChar (c : Char) : Bool := c.isAlphanum || ['+', '-', '.', '~'].contains c

/-- The scheme of a target and the text after its slashes. -/
def cutScheme? (cs : List Char) : Option (List Char × List Char) :=
  match cs.span isSchemeChar with
  | (scheme, ':' :: '/' :: '/' :: rest) => some (scheme, rest)
  | _ => none

/-! ## Servers -/

/-- Whether a character ends the name of a server. -/
def endsServer (c : Char) : Bool := c == '/' || c == '?' || c == '#'

/-- Whether a character may stand in a server's name without percent encoding. -/
def isServerChar (c : Char) : Bool := c.isAlphanum || "!$&'()*+,-.:;=@[]_~".toList.contains c

/-- What has been seen of a server: the colons and whether there was a percent sign since
the credentials or the address in brackets, and the brackets. -/
structure Server where
  colons : Nat := 0
  percent : Bool := false
  isOpen : Bool := false
  isClosed : Bool := false
deriving DecidableEq, Repr

namespace Server

/-- Goes on by a character.  An `@` ends the credentials and a bracket an address: what
came before does not count any more. -/
def next? (s : Server) (c : Char) : Option Server :=
  if c == '%' then some { s with percent := true }
  else if !isServerChar c then none
  else
    match c with
    | ':' => if s.colons < 8 then some { s with colons := s.colons + 1 } else none
    | '[' => if s.percent || s.isOpen then none else some { s with isOpen := true }
    | ']' =>
      if s.isOpen && !s.isClosed then
        some { s with isClosed := true, colons := 0, percent := false }
      else none
    | '@' => some { s with colons := 0, percent := false }
    | _ => some s

/-- Whether what has been seen is a server: at most one colon is left, for its number. -/
def isComplete (s : Server) : Bool := s.isOpen == s.isClosed && s.colons ≤ 1 && !s.percent

end Server

/-- Whether a text names a server. -/
def isServer (cs : List Char) : Bool :=
  cs.getLast? != some '@' && (cs.foldlM Server.next? {}).any Server.isComplete

/-! ## Paths and queries -/

/-- Whether a character may stand in the path of a target. -/
def isPathChar (c : Char) : Bool :=
  !(c.toNat ≤ 0x20 || c == '<' || c == '>' || c == '\x60')

/-- Whether a character may stand in the query of a target. -/
def isQueryChar (c : Char) : Bool :=
  !(c.toNat ≤ 0x20 || c == '"' || c == '<' || c == '>')

/-- Whether a text is a path and a query. -/
def isPathAndQuery (cs : List Char) : Bool :=
  let (path, query) := (cs.takeWhile (· != '#')).span (· != '?')
  path.all isPathChar && query.all isQueryChar

/-! ## Whole targets -/

/-- The most bytes that a target may have. -/
def maxSize : Nat := 65534

/-- The most characters that a scheme may have. -/
def maxSchemeLength : Nat := 64

/-- Whether a URL's text can be written as a target. -/
def fits (url : String) : Bool :=
  url.utf8ByteSize ≤ maxSize &&
    match cutScheme? url.toList with
    | none => isServer url.toList
    | some (scheme, rest) =>
      let (server, path) := rest.span fun c => !endsServer c
      scheme.length ≤ maxSchemeLength && !server.isEmpty && isServer server && isPathAndQuery path

/-- The path of a target: without a scheme and a server at its front, and without what
follows the path. -/
def pathOf (target : String) : List Char :=
  let cs := target.toList.takeWhile fun c => c != '?' && c != '#'
  if cs.head? = some '/' then cs
  else
    match cutScheme? cs with
    | some (_, rest) => rest.dropWhile (· != '/')
    | none => []

end ChatGateway.RequestTarget
