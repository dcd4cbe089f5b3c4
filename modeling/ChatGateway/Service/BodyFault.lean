import ChatGateway.Failure
import ChatGateway.Json.Fault

/-!
# Bodies that cannot be taken

Why the body of an HTTP request cannot be taken as a chat request.  All of these
are reported as one fault of the body as a whole.
-/

namespace ChatGateway.Service

/-- Why the bytes of a body could not be received. -/
inductive ReceiveFault where
  | incomplete
  | corruptEncoding
  | overflow
  | unknownLength
deriving DecidableEq, Repr

/-- The fault in words. -/
def ReceiveFault.message : ReceiveFault → String
  | .incomplete => "payload reached EOF before completing: None"
  | .corruptEncoding => "can not decode content-encoding"
  | .overflow => "payload reached size limit"
  | .unknownLength => "payload length is unknown"

/-- Why a body cannot be taken. -/
inductive BodyFault where
  /-- More bytes came than may come. -/
  | tooLong (limit : Nat)
  /-- More bytes were announced than may come. -/
  | announcedTooLong (length limit : Nat)
  /-- The body is not announced as JSON. -/
  | contentType
  | unreceived (fault : ReceiveFault)
  | undecodable (error : Json.DecodeError)
  | unencodable (error : Json.DecodeError)

namespace BodyFault

/-- The fault in words. -/
def message : BodyFault → String
  | .tooLong limit => "JSON payload has exceeded limit (" ++ toString limit ++ " bytes)."
  | .announcedTooLong length limit =>
    "JSON payload (" ++ toString length ++ " bytes) is larger than allowed (limit: " ++
      toString limit ++ " bytes)."
  | .contentType => "Content type error"
  | .unreceived fault => "Error that occur during reading payload: " ++ fault.message
  | .undecodable error => "Json deserialize error: " ++ error.message
  | .unencodable error => "Json serialize error: " ++ error.message

/-- The kind of rule that the fault is reported under. -/
def kind : BodyFault → String
  | .undecodable _ => "value_error"
  | _ => "json_invalid"

/-- The failure of a request with such a body. -/
def toFailure (fault : BodyFault) : Failure :=
  .invalid [⟨Location.body, fault.message, fault.kind⟩]

end BodyFault

end ChatGateway.Service
