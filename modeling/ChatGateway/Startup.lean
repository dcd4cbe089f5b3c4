import ChatGateway.Log.Filter
import ChatGateway.Service.Routes
import ChatGateway.Settings
import ChatGateway.Startup.Environment

/-!
# Starting

Starting the gateway takes the settings from the environment, and then listens.
An environment that cannot be set up, settings that cannot be used, and an
address that cannot be listened on end it before any request is served.  The first
of them is a crash, and is reported as one.
-/

namespace ChatGateway.Startup

/-- Why an address cannot be listened on. -/
inductive BindError where
  | permissionDenied
  | addressInUse
  | addressUnavailable
  | unknownHost
deriving DecidableEq, Repr

/-- The error in words. -/
def BindError.message : BindError → String
  | .permissionDenied =>
    "Os \x7b code: 13, kind: PermissionDenied, message: \"Permission denied\" \x7d"
  | .addressInUse =>
    "Os \x7b code: 98, kind: AddrInUse, message: \"Address already in use\" \x7d"
  | .addressUnavailable =>
    "Os \x7b code: 99, kind: AddrNotAvailable, message: \"Cannot assign requested address\" \x7d"
  | .unknownHost =>
    "Custom \x7b kind: Uncategorized, error: \"failed to lookup address information: " ++
      "Temporary failure in name resolution\" \x7d"

/-- The machine that the gateway starts on. -/
structure Machine where
  /-- Why an address cannot be listened on: `none` where it can. -/
  bind : (host : String) → (number : UInt16) → Option BindError
  /-- How host names are written in the URL of the model server. -/
  idna : Url.Idna := .plain
  /-- Who crashed, and where: the line that a report of a crash begins with. -/
  crashLine : String := "the program crashed:"
  /-- The lines on the calls under way in a crash, if they are asked for in this way. -/
  backtrace : (style : String) → List String := fun _ => []

/-- The variable that asks for the calls under way in a crash. -/
def backtraceVariable : String := "RUST_BACKTRACE"

/-- The lines that end the report of a crash: the calls under way if the environment asks for
them, or else how to ask. -/
def crashTrailer (machine : Machine) (env : Environment) : List String :=
  match env.value? backtraceVariable with
  | none | some "0" =>
    ["note: run with `RUST_BACKTRACE=1` environment variable to display a backtrace"]
  | some style => machine.backtrace style

/-- The report of a crash, after an empty line. -/
def crashReport (machine : Machine) (env : Environment) (message : String) : List String :=
  ["", machine.crashLine, message] ++ crashTrailer machine env

/-- How starting ends. -/
inductive Ending where
  /-- The file assigns a value that no variable can hold. -/
  | badFile (unheld : Unheld)
  | badSettings (error : Settings.Error)
  | unbound (error : BindError)
  | listening (settings : Settings)

namespace Ending

/-- The status that the process exits with; while it listens it has none. -/
def exitStatus? : Ending → Option Nat
  | .badFile _ => some 101
  | .badSettings _ => some 1
  | .unbound _ => some 1
  | .listening _ => none

/-- What becomes of the requests of clients, each with the replies that the model server
has for it: unless the gateway listens, they do not reach it. -/
def served (network : Exchange.Network)
    (requests : List (Service.HttpRequest × List Exchange.Reply)) : Ending → List Service.Served
  | .listening settings =>
    requests.map fun (request, replies) =>
      Service.serve { network, url := settings.serverUrl } replies request
  | _ => []

/-- The lines that are written apart from the log. -/
def complaint (machine : Machine) : Ending → List String
  | .badFile unheld => crashReport machine unheld.env unheld.message
  | .unbound error => ["Error: " ++ error.message]
  | _ => []

end Ending

/-- What starting comes to. -/
structure Outcome where
  ending : Ending
  /-- The entries that are written to the log. -/
  log : List Log.Entry

/-- The variable that says what is written to the log. -/
def logVariable : String := "RUST_LOG"

/-- The filter that an environment asks for. -/
def logFilter (env : Environment) : Log.Filter :=
  Log.Filter.parse ((env.value? logVariable).getD "info")

/-- The entry at the start. -/
def starting : Log.Entry := ⟨.info, .startup, "Starting chat relay"⟩

/-- The entry for settings that cannot be used. -/
def badSettings (error : Settings.Error) : Log.Entry :=
  ⟨.error, .startup, "Invalid configuration: " ++ error.chain⟩

/-- The entry for the model server in use. -/
def usingServer (url : Url) : Log.Entry :=
  ⟨.info, .client, "Using upstream inference server at: " ++ url.render ++ " (timeout: 60s)"⟩

/-- The entry for the address that is to be listened on. -/
def listeningOn (settings : Settings) : Log.Entry :=
  ⟨.info, .startup,
    "Listening on " ++ settings.host ++ ":" ++ toString settings.portNumber.toNat⟩

/-- Starts with the settings that were found. -/
def begin (machine : Machine) : Except Settings.Error Settings → Outcome
  | .error error => ⟨.badSettings error, [starting, badSettings error]⟩
  | .ok settings =>
    let log := [starting, usingServer settings.serverUrl, listeningOn settings]
    match machine.bind settings.host settings.portNumber with
    | some error => ⟨.unbound error, log⟩
    | none => ⟨.listening settings, log⟩

/-- Starts the gateway with the environment of its process and the content of a
`.env` file, if there is one. -/
def start (machine : Machine) (process : Environment) (file : Option (List UInt8)) : Outcome :=
  match process.withFile file with
  | .error unheld => ⟨.badFile unheld, []⟩
  | .ok env =>
    let outcome := begin machine (Settings.ofLookup machine.idna fun v => env.value? v.name)
    { outcome with log := outcome.log.filter (logFilter env).writes }

end ChatGateway.Startup
