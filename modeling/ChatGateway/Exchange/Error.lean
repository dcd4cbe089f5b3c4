import ChatGateway.Exchange.Network
import ChatGateway.Exchange.Status

/-!
# Failed exchanges

Why an exchange with a server ends without a body.
-/

namespace ChatGateway.Exchange

/-- Why an exchange ends without a body.  An address in an error is the one that
was asked last. -/
inductive Error where
  | schemeNotAllowed (url : Url)
  | notRequestable (url : Url)
  | unconnected (url : Url) (error : ConnectError)
  | hungUp (url : Url)
  | invalidStatus (url : Url)
  | timedOut (url : Url)
  | tooManyRedirects (url : Url)
  | badStatus (status : Nat) (url : Url)
  | bodyCutShort
deriving DecidableEq, Repr

namespace Error

/-- The address that an error is about, in words. -/
def about (url : Url) : String := " for url (" ++ url.render ++ ")"

/-- The error in words. -/
def message : Error → String
  | .schemeNotAllowed url => "builder error" ++ about url ++ ": URL scheme is not allowed"
  | .notRequestable url => "builder error" ++ about url ++ ": Parsed Url is not a valid Uri"
  | .unconnected url error =>
    "error sending request" ++ about url ++ ": error trying to connect: " ++ error.message
  | .hungUp url =>
    "error sending request" ++ about url ++ ": connection closed before message completed"
  | .invalidStatus url =>
    "error sending request" ++ about url ++ ": invalid HTTP status-code parsed"
  | .timedOut url => "error sending request" ++ about url ++ ": operation timed out"
  | .tooManyRedirects url => "error following redirect" ++ about url ++ ": too many redirects"
  | .badStatus status url =>
    (if Status.isClientError status then "HTTP status client error ("
    else "HTTP status server error (") ++ Status.render status ++ ")" ++ about url
  | .bodyCutShort =>
    "request or response body error: error reading a body from connection: " ++
      "end of file before message length reached"

end Error

end ChatGateway.Exchange
