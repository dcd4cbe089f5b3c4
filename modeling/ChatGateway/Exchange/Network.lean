import ChatGateway.Url.Basic

/-!
# Networks

What the machine can connect to.  A `Network` says for each address whether a
connection comes about, and if not, why.  It also says how host names are written
that are not plain ASCII.
-/

namespace ChatGateway.Exchange

/-- Why no connection comes about. -/
inductive ConnectError where
  | networkUnreachable
  | refused
  /-- Only plain HTTP is spoken. -/
  | notPlain
deriving DecidableEq, Repr

/-- The error in words. -/
def ConnectError.message : ConnectError → String
  | .networkUnreachable => "tcp connect error: Network is unreachable (os error 101)"
  | .refused => "tcp connect error: Connection refused (os error 111)"
  | .notPlain => "invalid URL, scheme is not http"

/-- What can be connected to: `none` where a connection comes about. -/
structure Network where
  connect : Url → Option ConnectError
  /-- How host names are written in the addresses that replies send to. -/
  idna : Url.Idna := .plain

namespace Network

/-- The loopback address. -/
def loopback : Url.Host := .ipv4 0x7F000001

/-- A network on which all hosts but the machine itself answer. -/
def online : Network where
  connect url :=
    if url.scheme != "http" then some .notPlain
    else if url.host? = some loopback then some .refused
    else none

/-- A machine without a network. -/
def offline : Network where
  connect url := if url.scheme != "http" then some .notPlain else some .networkUnreachable

end Network

end ChatGateway.Exchange
