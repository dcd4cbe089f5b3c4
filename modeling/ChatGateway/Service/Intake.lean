import ChatGateway.Chat.Request
import ChatGateway.Service.BodyFault
import ChatGateway.Service.MediaType
import ChatGateway.Text.Blank

/-!
# Taking in requests

An HTTP request is taken as a chat request if it is announced as JSON, is not
too long, and decodes.  The announced length counts as well as the true one; an
announcement that is no number is ignored.
-/

namespace ChatGateway.Service

/-- An HTTP request. -/
structure HttpRequest where
  method : String
  /-- The address as the client writes it. -/
  target : String
  headers : List (String × String)
  body : List UInt8
deriving DecidableEq, Repr

namespace HttpRequest

/-- The first value of a header; case does not matter in its name. -/
def header? (r : HttpRequest) (name : String) : Option String :=
  (r.headers.find? (·.1.toLower == name)).map (·.2)

/-- The most bytes that a body may have. -/
def bodyLimit : Nat := 2097152

/-- The value of digits, if it fits 64 bits. -/
def length? (cs : List Char) : Option Nat :=
  if cs.isEmpty || !cs.all Char.isDigit then none
  else
    let n := cs.foldl (fun n c => n * 10 + (c.toNat - '0'.toNat)) 0
    if n < UInt64.size then some n else none

/-- The announced length of the body; spaces and tabs around it do not count. -/
def announcedLength? (r : HttpRequest) : Option Nat :=
  (r.header? "content-length").bind fun value =>
    match Text.trimBoth (fun c => c == ' ' || c == '\t') value.toList with
    | '+' :: cs => length? cs
    | cs => length? cs

/-- Whether the body is announced as JSON. -/
def isJson (r : HttpRequest) : Bool :=
  match (r.header? "content-type").bind MediaType.parse? with
  | some mediaType => mediaType.isJson
  | none => false

/-- Takes the body as a chat request. -/
def chatRequest (r : HttpRequest) : Except BodyFault ChatRequest :=
  if !r.isJson then .error .contentType
  else
    let announced := r.announcedLength?.getD 0
    if bodyLimit < announced then .error (.announcedTooLong announced bodyLimit)
    else if bodyLimit < r.body.length then .error (.tooLong bodyLimit)
    else
      match ChatRequest.decode r.body with
      | .error e => .error (.undecodable e)
      | .ok request => .ok request

end HttpRequest

end ChatGateway.Service
