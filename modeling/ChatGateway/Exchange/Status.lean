/-!
# HTTP statuses

Which statuses belong to an answer, which are errors, which ask for another address,
and what a status is called.
-/

namespace ChatGateway.Exchange.Status

/-- The registered name of a status. -/
def reason? : Nat → Option String
  | 100 => "Continue"
  | 101 => "Switching Protocols"
  | 102 => "Processing"
  | 200 => "OK"
  | 201 => "Created"
  | 202 => "Accepted"
  | 203 => "Non Authoritative Information"
  | 204 => "No Content"
  | 205 => "Reset Content"
  | 206 => "Partial Content"
  | 207 => "Multi-Status"
  | 208 => "Already Reported"
  | 226 => "IM Used"
  | 300 => "Multiple Choices"
  | 301 => "Moved Permanently"
  | 302 => "Found"
  | 303 => "See Other"
  | 304 => "Not Modified"
  | 305 => "Use Proxy"
  | 307 => "Temporary Redirect"
  | 308 => "Permanent Redirect"
  | 400 => "Bad Request"
  | 401 => "Unauthorized"
  | 402 => "Payment Required"
  | 403 => "Forbidden"
  | 404 => "Not Found"
  | 405 => "Method Not Allowed"
  | 406 => "Not Acceptable"
  | 407 => "Proxy Authentication Required"
  | 408 => "Request Timeout"
  | 409 => "Conflict"
  | 410 => "Gone"
  | 411 => "Length Required"
  | 412 => "Precondition Failed"
  | 413 => "Payload Too Large"
  | 414 => "URI Too Long"
  | 415 => "Unsupported Media Type"
  | 416 => "Range Not Satisfiable"
  | 417 => "Expectation Failed"
  | 418 => "I'm a teapot"
  | 421 => "Misdirected Request"
  | 422 => "Unprocessable Entity"
  | 423 => "Locked"
  | 424 => "Failed Dependency"
  | 426 => "Upgrade Required"
  | 428 => "Precondition Required"
  | 429 => "Too Many Requests"
  | 431 => "Request Header Fields Too Large"
  | 451 => "Unavailable For Legal Reasons"
  | 500 => "Internal Server Error"
  | 501 => "Not Implemented"
  | 502 => "Bad Gateway"
  | 503 => "Service Unavailable"
  | 504 => "Gateway Timeout"
  | 505 => "HTTP Version Not Supported"
  | 506 => "Variant Also Negotiates"
  | 507 => "Insufficient Storage"
  | 508 => "Loop Detected"
  | 510 => "Not Extended"
  | 511 => "Network Authentication Required"
  | _ => none

/-- A status with its name. -/
def render (status : Nat) : String :=
  toString status ++ " " ++ (reason? status).getD "<unknown status code>"

/-- Whether a number is a status: it has three digits, and the first is not zero. -/
def isValid (status : Nat) : Bool := 100 ≤ status && status < 1000

/-- Whether a status only says that an answer is on its way.  The one for a change of
protocols is an answer. -/
def isInterim (status : Nat) : Bool := 100 ≤ status && status < 200 && status != 101

/-- Whether a status blames the client. -/
def isClientError (status : Nat) : Bool := 400 ≤ status && status < 500

/-- Whether a status blames the server. -/
def isServerError (status : Nat) : Bool := 500 ≤ status && status < 600

/-- Whether a status is an error; an answer with any other status is taken. -/
def isError (status : Nat) : Bool := isClientError status || isServerError status

/-- Whether a status asks to get the answer from another address. -/
def asksToGet (status : Nat) : Bool := status == 301 || status == 302 || status == 303

/-- Whether a status asks to repeat the request at another address. -/
def asksToRepeat (status : Nat) : Bool := status == 307 || status == 308

/-- Whether a reply with the status has no body, whatever is sent with it. -/
def hasNoBody (status : Nat) : Bool := status == 101 || status == 204 || status == 304

end ChatGateway.Exchange.Status
