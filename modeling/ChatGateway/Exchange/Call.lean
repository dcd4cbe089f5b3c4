import ChatGateway.Exchange.Status
import ChatGateway.Text.Base64
import ChatGateway.Url.Parser

/-!
# Calls and replies

A call is one HTTP request to a server, and a `Reply` is what a server does
about it.  A server is given by its replies in advance, one for each call; when
they have run out it fails.
-/

namespace ChatGateway.Exchange

/-- The method of a call. -/
inductive Method where
  | get
  | post
deriving DecidableEq, Repr

/-- What a method is called. -/
def Method.name : Method → String
  | .get => "GET"
  | .post => "POST"

/-- A request to a server. -/
structure Call where
  method : Method
  /-- The address, without credentials and fragment. -/
  url : Url
  body : String
  contentType : Option String := none
  authorization : Option String := none
deriving DecidableEq, Repr

/-- What a server does about a call. -/
structure Reply where
  /-- The status in its head.  A head that only says that an answer is on its way is all that
  comes: there is no body to it, and the connection is closed after it. -/
  status : Nat := 200
  headers : List (String × String) := []
  body : List UInt8 := []
  /-- Whether the connection is closed without an answer. -/
  hangsUp : Bool := false
  /-- How many bytes of the announced body are not sent. -/
  missingBytes : Nat := 0
  /-- How many milliseconds pass before the answer. -/
  delay : Nat := 0
deriving DecidableEq, Repr

namespace Reply

/-- What a server does when its replies have run out. -/
def exhausted : Reply := { status := 500 }

/-- The first value of a header; case does not matter in its name. -/
def header? (r : Reply) (name : String) : Option String :=
  (r.headers.find? (·.1.toLower == name)).map (·.2)

/-- The body that arrives. -/
def content (r : Reply) : List UInt8 := if Status.hasNoBody r.status then [] else r.body

end Reply

/-! ## Credentials -/

/-- The text that a part of the credentials stands for. -/
def credential? (part : String) : Option String :=
  Utf8.text? (Url.percentDecode (Utf8.bytes part))

/-- The credentials of a URL as an authorization, and the URL without them.  They stay
where they are if the user name stands for no text, and if it is empty with no password
that stands for one beside it. -/
def takeCredentials (url : Url) : Url × Option String :=
  match url.authority with
  | none => (url, none)
  | some a =>
    match credential? a.username with
    | none => (url, none)
    | some username =>
      let password := if a.password.isEmpty then none else credential? a.password
      if username.isEmpty && password.isNone then (url, none)
      else
        (url.withoutCredentials,
          some ("Basic " ++ Base64.encode (Utf8.bytes (username ++ ":" ++ password.getD ""))))

end ChatGateway.Exchange
