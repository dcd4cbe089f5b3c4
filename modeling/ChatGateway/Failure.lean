import ChatGateway.Report.FieldError

/-!
# Failures

A request that is not answered fails in one of two ways: it breaks a rule, or
the model server gave no usable answer.  A client sees the kind of failure in
the status and the reasons in the body.
-/

namespace ChatGateway

/-- Why a request is not answered. -/
inductive Failure where
  /-- The request is at fault. -/
  | invalid (fields : List FieldError)
  /-- The model server gave no usable answer. -/
  | unanswered (text : String)

namespace Failure

/-- The failure in words. -/
def message : Failure → String
  | .invalid fields =>
    "invalid chat request: " ++ String.intercalate "; " (fields.map FieldError.summary)
  | .unanswered text => text

/-- The status that a client gets. -/
def status : Failure → Nat
  | .invalid _ => 422
  | .unanswered _ => 500

/-- The body that a client gets. -/
def body : Failure → String
  | .invalid fields =>
    Json.Writer.object [("detail", Json.Writer.array (fields.map FieldError.toJson))]
  | .unanswered text => Json.Writer.object [("detail", Json.Writer.text text)]

end Failure

end ChatGateway
