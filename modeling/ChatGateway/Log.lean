/-!
# Log entries

What the gateway writes to its log: a level, the part of the gateway that
speaks, and a message.
-/

namespace ChatGateway.Log

/-- How severe an entry is, the most severe first. -/
inductive Level where
  | error
  | warn
  | info
  | debug
  | trace
deriving DecidableEq, Repr

namespace Level

/-- What a level is called. -/
def name : Level → String
  | .error => "ERROR"
  | .warn => "WARN"
  | .info => "INFO"
  | .debug => "DEBUG"
  | .trace => "TRACE"

/-- How far a level is from the most severe one, counting from 1. -/
def rank : Level → Nat
  | .error => 1
  | .warn => 2
  | .info => 3
  | .debug => 4
  | .trace => 5

end Level

/-- The parts of the gateway that write to the log. -/
inductive Source where
  | startup
  | relay
  | client
deriving DecidableEq, Repr

/-- What the log calls a part of the gateway. -/
def Source.target : Source → String
  | .startup => "chat_relay"
  | .relay => "chat_relay::relay"
  | .client => "chat_relay::upstream"

/-- An entry of the log. -/
structure Entry where
  level : Level
  source : Source
  message : String
deriving DecidableEq, Repr

/-- The entry as one line. -/
def Entry.render (e : Entry) : String :=
  e.level.name ++ " " ++ e.source.target ++ " " ++ e.message

end ChatGateway.Log
