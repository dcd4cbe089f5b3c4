import ChatGateway.Url.Descent

/-!
# Reading URLs

A text is read as a URL, alone or against a base.  What stands before the query and
the fragment is an authority and a path, or a path alone.  The URL of a file has a
host in place of the authority, and none if it names a drive.

How names that are not plain ASCII are written is a parameter (`Idna`) throughout;
only the reading of a host looks at it.
-/

namespace ChatGateway.Url

/-! ## Authorities -/

/-- The text before the last `@`, if there is one, and the text after it. -/
def cutUserInfo (cs : List Char) : Option (List Char) × List Char :=
  match cs.reverse.span (· != '@') with
  | (after, _ :: before) => (some before.reverse, after.reverse)
  | (_, []) => (none, cs)

/-- The text of a host and the text after it, which a colon outside brackets
begins. -/
def cutHost (inside : Bool) : List Char → List Char × List Char
  | [] => ([], [])
  | c :: cs =>
    if c == ':' && !inside then ([], c :: cs)
    else
      let (host, rest) := cutHost (c == '[' || (inside && c != ']')) cs
      (c :: host, rest)

/-- A TCP number; the default of the scheme is left out, and so is a missing
one. -/
def readNumber (scheme : String) (cs : List Char) : Except ParseError (Option Nat) :=
  match digitsValue? 10 cs with
  | none => .error .portNumber
  | some n =>
    if 65535 < n then .error .portNumber
    else if cs.isEmpty || defaultNumber? scheme = some n then .ok none
    else .ok (some n)

/-- Reads an authority, and answers what is left of its text: after a TCP number a
backslash begins the path already.  `last` is whether the whole text ends with the
authority.  An `@` at its front needs a host after it, unless nothing follows at
all. -/
def readAuthority (idna : Idna) (scheme : String) (last : Bool) (cs : List Char) :
    Except ParseError (Authority × List Char) := do
  let (userInfo, address) := cutUserInfo cs
  if userInfo = some [] && address.isEmpty && !last then throw .emptyHost
  let (hostText, rest) := cutHost false address
  if hostText.isEmpty && (isSpecial scheme || !rest.isEmpty) then throw .emptyHost
  let host ← if isSpecial scheme then Host.parse idna hostText else Host.parseOpaque hostText
  let (numberText, left) := (rest.drop 1).span (· != '\\')
  let portNumber ← readNumber scheme numberText
  let (username, password) := cutAt ':' (userInfo.getD [])
  let authority : Authority := {
    username := percentEncode encodesUserInfo username
    password := percentEncode encodesUserInfo (password.getD [])
    host, portNumber }
  if host.isEmpty && !authority.credentials.isEmpty then throw .emptyHost
  return (authority, left)

/-- Reads what follows the two slashes before an authority. -/
def readAfterSlashes (idna : Idna) (scheme : String) (c : Cut) (cs : List Char) :
    Except ParseError Url := do
  let (authorityText, pathText) := cs.span fun ch => !isSlash (isSpecial scheme) ch
  let last := pathText.isEmpty && c.query.isNone && c.fragment.isNone
  let (authority, left) ← readAuthority idna scheme last authorityText
  return {
    scheme
    authority := some authority
    path := pathAfterAuthority scheme (left ++ pathText)
    query := c.queryOf (isSpecial scheme)
    fragment := c.fragmentOf }

/-! ## Files -/

/-- The URL of a file.  Empty parts at the front of its path are left out, and its host
is if the path begins with a drive. -/
def fileUrl (c : Cut) (host : Host) (pathText : List Char) : Url :=
  let way := descend "file" [] pathText
  { scheme := "file"
    authority := some { host := if way.drive then .name "" else host }
    path := .segments (match way.toList.dropWhile String.isEmpty with
      | [] => [""]
      | parts => parts)
    query := c.queryOf true
    fragment := c.fragmentOf }

/-- The text after a slash at its front. -/
def afterSlash? (cs : List Char) : Option (List Char) :=
  match cs.dropWhile isBreak with
  | c :: rest => if isSlash true c then some rest else none
  | [] => none

/-- Reads the URL of a file, after two slashes: a host and a path below it.  Where the
host is missing or the local one, the slash after it begins an empty part, and where a
drive stands in its place, that is the first part. -/
def readFileAfterSlashes (idna : Idna) (c : Cut) (cs : List Char) : Except ParseError Url := do
  let (hostText, pathText) := cs.span fun ch => !isSlash true ch
  if (unbroken hostText).isEmpty then return fileUrl c (.name "") pathText
  else if isDrive (unbroken hostText) then return fileUrl c (.name "") cs
  else
    let host ← Host.parse idna (unbroken hostText)
    if host = .name "localhost" then return fileUrl c (.name "") pathText
    else return fileUrl c host (pathText.drop 1)

/-- Reads the URL of a file, after its scheme. -/
def readFile (idna : Idna) (c : Cut) : Except ParseError Url :=
  match afterSlash? c.hierarchy with
  | none => .ok (fileUrl c (.name "") c.hierarchy)
  | some rest =>
    match afterSlash? rest with
    | none => .ok (fileUrl c (.name "") rest)
    | some rest => readFileAfterSlashes idna c rest

/-! ## Whole texts -/

/-- Reads a URL, after its scheme. -/
def readAfterScheme (idna : Idna) (scheme : String) (cs : List Char) : Except ParseError Url :=
  if scheme = "file" then readFile idna (cut cs)
  else
    let c := cut (unbroken cs)
    if isSpecial scheme then readAfterSlashes idna scheme c (c.hierarchy.dropWhile (isSlash true))
    else
      match c.hierarchy with
      | '/' :: '/' :: rest => readAfterSlashes idna scheme c rest
      | '/' :: rest => .ok {
          scheme
          authority := none
          path := .segments (pathBelow scheme [] rest)
          query := c.queryOf false
          fragment := c.fragmentOf }
      | hierarchy => .ok {
          scheme
          authority := none
          path := .opaqueText (percentEncode encodesControl hierarchy)
          query := c.queryOf false
          fragment := c.fragmentOf }

/-- Reads a text as a URL on its own. -/
def parse (idna : Idna) (s : String) : Except ParseError Url :=
  match cutScheme? (trimmed s) with
  | some (scheme, rest) => readAfterScheme idna scheme rest
  | none => .error .noBase

/-- Resolves a reference without a scheme against a base. -/
def resolveAgainst (idna : Idna) (base : Url) (cs : List Char) : Except ParseError Url :=
  let c := cut cs
  let special := isSpecial base.scheme
  match base.path with
  | .opaqueText _ =>
    if c.hierarchy.isEmpty && c.query.isNone && c.fragment.isSome then
      .ok { base with fragment := c.fragmentOf }
    else .error .opaqueBase
  | .segments parts =>
    match c.hierarchy with
    | [] =>
      .ok { base with
        query := if c.query.isSome then c.queryOf special else base.query
        fragment := c.fragmentOf }
    | first :: rest =>
      if isSlash true first then
        match rest with
        | second :: others =>
          if isSlash true second then
            readAfterSlashes idna base.scheme c
              (if first == '/' && second == '/' then others
              else others.dropWhile (isSlash true))
          else .ok { base with
            path := .segments (pathBelow base.scheme [] rest)
            query := c.queryOf special
            fragment := c.fragmentOf }
        | [] => .ok { base with
            path := .segments (pathBelow base.scheme [] [])
            query := c.queryOf special
            fragment := c.fragmentOf }
      else .ok { base with
        path := .segments (pathBelow base.scheme parts.dropLast (first :: rest))
        query := c.queryOf special
        fragment := c.fragmentOf }

/-- Reads a text as a URL, against a base if it has no scheme of its own.  With
the scheme of the base and fewer than two slashes after it, what follows the
scheme is resolved against the base. -/
def join (idna : Idna) (base : Url) (s : String) : Except ParseError Url :=
  let cs := trimmed s
  match cutScheme? cs with
  | some (scheme, rest) =>
    if scheme = base.scheme && isSpecial scheme && scheme != "file" &&
        ((unbroken rest).takeWhile (isSlash true)).length < 2 then
      resolveAgainst idna base (unbroken rest)
    else readAfterScheme idna scheme rest
  | none => resolveAgainst idna base (unbroken cs)

end ChatGateway.Url
