import ChatGateway.Url.Parser
import ChatGateway.Text.Ascii

/-!
# Settings

The gateway is set up by three variables: the URL of the model server, which has
to be given, and the host and the TCP number to listen on, which have defaults.
White space around the URL and the number does not count; the host is taken as
it is.
-/

namespace ChatGateway

/-- What the gateway needs to know. -/
structure Settings where
  /-- Where the model server is asked. -/
  serverUrl : Url
  host : String
  portNumber : UInt16

namespace Settings

/-- Why a text is no TCP number. -/
inductive NumberError where
  | empty
  | invalidDigit
  | tooLarge
deriving DecidableEq, Repr

/-- The error in words. -/
def NumberError.message : NumberError → String
  | .empty => "cannot parse integer from empty string"
  | .invalidDigit => "invalid digit found in string"
  | .tooLarge => "number too large to fit in target type"

/-- Why settings cannot be used. -/
inductive Error where
  | urlMissing
  | urlInvalid (raw : String) (error : Url.ParseError)
  | numberInvalid (raw : String) (error : NumberError)
deriving DecidableEq, Repr

namespace Error

/-- What is wrong, without the reason. -/
def message : Error → String
  | .urlMissing => "LLM_API_URL must be set"
  | .urlInvalid raw _ => "LLM_API_URL is not a valid URL: " ++ raw
  | .numberInvalid raw _ => "PORT is not a valid port number: " ++ raw

/-- What is wrong, with the reason. -/
def chain (e : Error) : String :=
  match e with
  | .urlMissing => e.message
  | .urlInvalid _ reason => e.message ++ ": " ++ reason.message
  | .numberInvalid _ reason => e.message ++ ": " ++ reason.message

end Error

/-- The variables that settings are taken from. -/
inductive Variable where
  | serverUrl
  | host
  | portNumber
deriving DecidableEq, Repr

/-- What a variable is called. -/
def Variable.name : Variable → String
  | .serverUrl => "LLM_API_URL"
  | .host => "HOST"
  | .portNumber => "PORT"

/-- The host that is listened on if none is given. -/
def defaultHost : String := "0.0.0.0"

/-- The TCP number that is listened on if none is given. -/
def defaultNumber : UInt16 := 8000

/-- Appends digits to a number, up to the first one at fault. -/
def appendDigits (value : Nat) : List Char → Except NumberError Nat
  | [] => .ok value
  | c :: cs =>
    if c.isDigit then
      let value := value * 10 + (c.toNat - '0'.toNat)
      if value < UInt16.size then appendDigits value cs else .error .tooLarge
    else .error .invalidDigit

/-- Reads a TCP number: digits, after a plus sign if there is one. -/
def parseNumber (cs : List Char) : Except NumberError Nat :=
  match cs with
  | [] => .error .empty
  | '+' :: c :: cs => appendDigits 0 (c :: cs)
  | cs => appendDigits 0 cs

/-- Takes the URL of the model server from its variable. -/
def readUrl (idna : Url.Idna) (raw : Option String) : Except Error Url :=
  match raw with
  | none => .error .urlMissing
  | some raw =>
    let trimmed := Text.trim raw
    if trimmed.isEmpty then .error .urlMissing
    else
      match Url.parse idna trimmed with
      | .error e => .error (.urlInvalid raw e)
      | .ok url => .ok url

/-- Takes the TCP number from its variable. -/
def readNumber (raw : Option String) : Except Error UInt16 :=
  match raw with
  | none => .ok defaultNumber
  | some raw =>
    match parseNumber (Text.trim raw).toList with
    | .error e => .error (.numberInvalid raw e)
    | .ok n => .ok n.toUInt16

/-- Takes the settings from their variables; an unset variable has no value. -/
def ofLookup (idna : Url.Idna) (lookup : Variable → Option String) : Except Error Settings :=
  match readUrl idna (lookup .serverUrl) with
  | .error e => .error e
  | .ok serverUrl =>
    match readNumber (lookup .portNumber) with
    | .error e => .error e
    | .ok portNumber =>
      .ok { serverUrl, host := (lookup .host).getD defaultHost, portNumber }

end Settings

end ChatGateway
