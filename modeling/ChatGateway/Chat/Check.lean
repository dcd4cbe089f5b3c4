import ChatGateway.Chat.Request
import ChatGateway.Failure
import ChatGateway.Report.Tree

/-!
# The rules for requests

A request holds between 1 and 20 messages; each role is one of three; each
content has at most 2000 characters.  `ChatRequest.fieldErrors` reports every
rule that is broken, in the order of the fields, and `ChatRequest.check` turns
down a request with any report.
-/

namespace ChatGateway

/-- The roles that may speak. -/
def allowedRoles : List String := ["system", "user", "assistant"]

/-- The most messages in a request. -/
def maxMessages : Nat := 20

/-- The most characters in a message. -/
def maxContent : Nat := 2000

namespace Message

/-- The broken rule of a role that may not speak. -/
def roleViolations (m : Message) : List Report.Violation :=
  if m.role ∈ allowedRoles then []
  else [{
    code := "role"
    message := some ("role '" ++ m.role ++ "' is not one of: " ++
      String.intercalate ", " allowedRoles) }]

/-- The broken rule of a content that is too long. -/
def contentViolations (m : Message) : List Report.Violation :=
  if m.content.length ≤ maxContent then []
  else [{
    code := "length"
    message := some ("content must be at most " ++ toString maxContent ++ " characters") }]

/-- The rules that a message breaks, by field; fields without broken rules are
left out. -/
def violations (m : Message) : Report.Tree :=
  .fields ([("role", m.roleViolations), ("content", m.contentViolations)].filterMap
    fun (field, broken) => if broken.isEmpty then none else some (field, .errors broken))

/-- Whether a message breaks no rule. -/
def isValid (m : Message) : Bool := m.roleViolations.isEmpty && m.contentViolations.isEmpty

end Message

namespace ChatRequest

/-- The messages that break rules, with the rules they break, by index. -/
def faultyMessages (r : ChatRequest) : List (Nat × Report.Tree) :=
  r.messages.zipIdx.filterMap fun (m, index) =>
    if m.isValid then none else some (index, m.violations)

/-- The rules that the messages of a request break. -/
def violations (r : ChatRequest) : Report.Tree :=
  .fields (if r.faultyMessages.isEmpty then [] else [("messages", .items r.faultyMessages)])

/-- The report on the number of messages, if it is out of bounds. -/
def countErrors (r : ChatRequest) : List FieldError :=
  if r.messages.isEmpty || maxMessages < r.messages.length then
    [{
      loc := Location.body ++ [.name "messages"]
      msg := "messages must contain between 1 and " ++ toString maxMessages ++ " items"
      kind := "length" }]
  else []

/-- A report on each rule that a request breaks, in the order of the fields. -/
def fieldErrors (r : ChatRequest) : List FieldError :=
  FieldError.sort (r.countErrors ++ r.violations.fieldErrors)

/-- Turns down a request that breaks a rule. -/
def check (r : ChatRequest) : Except Failure Unit :=
  if r.fieldErrors.isEmpty then .ok () else .error (.invalid r.fieldErrors)

end ChatRequest

namespace Message

/-- The reports on a message on its own, in the order of its fields. -/
def fieldErrors (m : Message) : List FieldError := m.violations.fieldErrors

end Message

end ChatGateway
