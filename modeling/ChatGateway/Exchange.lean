import ChatGateway.Exchange.Call
import ChatGateway.Exchange.Error
import ChatGateway.RequestTarget

/-!
# Exchanges

An exchange posts a body to an address and ends with the body of the answer.  On
the way it follows redirections, at most ten: some turn the request into a `GET`
without a body, others repeat it.  Credentials are sent along for as long as
host and TCP number stay the same; once they have been dropped they do not come
back.
-/

namespace ChatGateway

namespace Exchange

/-- The type of a body in JSON. -/
def jsonType : String := "application/json"

/-- The most redirections that are followed. -/
def maxRedirects : Nat := 10

/-- The next request of an exchange. -/
structure Step where
  method : Method
  url : Url
  /-- The body, if one is sent. -/
  body : Option String
  authorization : Option String
deriving DecidableEq, Repr

namespace Step

/-- The call that is made for a step. -/
def call (step : Step) : Call where
  method := step.method
  url := step.url.withoutCredentials.withoutFragment
  body := step.body.getD ""
  contentType := step.body.map fun _ => jsonType
  authorization := step.authorization

/-- Whether two addresses lead to the same service: host and TCP number agree. -/
def sameService (a b : Url) : Bool :=
  a.host? == b.host? && a.effectiveNumber? == b.effectiveNumber?

/-- Whether an address can be put into an HTTP request. -/
def isRequestable (url : Url) : Bool := RequestTarget.fits url.render

/-- The address that a reply sends to, if it is one that can be requested. -/
def target? (idna : Url.Idna) (step : Step) (reply : Reply) : Option Url :=
  match reply.header? "location" with
  | none => none
  | some location =>
    match Url.join idna step.url location with
    | .error _ => none
    | .ok url => if isRequestable url then some url else none

/-- The step that a reply asks for. -/
def next? (idna : Url.Idna) (step : Step) (reply : Reply) : Option Step :=
  match step.target? idna reply with
  | none => none
  | some url =>
    let authorization := if sameService step.url url then step.authorization else none
    if Status.asksToGet reply.status then some ⟨.get, url, none, authorization⟩
    else if Status.asksToRepeat reply.status then
      some ⟨step.method, url, step.body, authorization⟩
    else none

/-- Whether the scheme of an address is one that requests are made to. -/
def isAllowed (url : Url) : Bool := url.scheme == "http" || url.scheme == "https"

end Step

/-- What an exchange comes to: the body of the answer, or why there is none; and
the calls that were made. -/
structure Outcome where
  result : Except Error (List UInt8)
  calls : List Call

namespace Outcome

/-- An exchange that ends without a further call. -/
def failed (error : Error) : Outcome := ⟨.error error, []⟩

/-- An outcome after one more call at its start. -/
def after (call : Call) (outcome : Outcome) : Outcome :=
  { outcome with calls := call :: outcome.calls }

end Outcome

/-- Why a reply that has come in time is no answer.  The connection is closed without one, or
after a head that only announces one; or the number in the head is no status. -/
def refusal? (url : Url) (reply : Reply) : Option Error :=
  if reply.hangsUp || Status.isInterim reply.status then some (.hungUp url)
  else if !Status.isValid reply.status then some (.invalidStatus url)
  else none

/-- What is made of an answer that is not followed further. -/
def conclude (step : Step) (reply : Reply) : Except Error (List UInt8) :=
  if Status.isError reply.status then .error (.badStatus reply.status step.url)
  else if 0 < reply.missingBytes && !Status.hasNoBody reply.status then .error .bodyCutShort
  else .ok reply.content

/-- Makes the call of a step and follows its reply.  `redirects` may still be
followed, and `time` milliseconds are left. -/
def follow (network : Network) : (redirects : Nat) → (time : Nat) → Step → List Reply → Outcome
  | redirects, time, step, replies =>
    match network.connect step.url with
    | some error => .failed (.unconnected step.url error)
    | none =>
      let reply := replies.headD .exhausted
      if time ≤ reply.delay then ⟨.error (.timedOut step.url), [step.call]⟩
      else
        match refusal? step.url reply with
        | some error => ⟨.error error, [step.call]⟩
        | none =>
          match step.next? network.idna reply with
          | none => ⟨conclude step reply, [step.call]⟩
          | some next =>
            match redirects with
            | 0 => ⟨.error (.tooManyRedirects step.url), [step.call]⟩
            | redirects + 1 =>
              if Step.isAllowed next.url then
                (follow network redirects (time - reply.delay) next replies.tail).after step.call
              else ⟨.error (.schemeNotAllowed next.url), [step.call]⟩

/-- Posts a body to an address, with `timeout` milliseconds for the whole
exchange. -/
def post (network : Network) (timeout : Nat) (url : Url) (body : String) (replies : List Reply) :
    Outcome :=
  let (url, authorization) := takeCredentials url
  if !Step.isAllowed url then .failed (.schemeNotAllowed url)
  else if !Step.isRequestable url then .failed (.notRequestable url)
  else follow network maxRedirects timeout ⟨.post, url, some body, authorization⟩ replies

end Exchange

end ChatGateway
