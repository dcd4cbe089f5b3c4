import ChatGateway.Startup

/-!
# Checking an environment

The program starts the gateway in the environment of its process, with the
assignments of a `.env` file on standard input, on a machine that lets it listen
everywhere.  The log and complaints go to standard error.  The program ends with
the status that starting ends with, or with success where the gateway would go
on to listen.
-/

namespace ChatGateway.Program

/-- The variables that starting looks at. -/
def lookedAt : List String :=
  [Settings.Variable.serverUrl, .host, .portNumber].map (·.name) ++
    [Startup.logVariable, Startup.backtraceVariable]

/-- The environment of the process. -/
def environment : IO Startup.Environment :=
  lookedAt.filterMapM fun name => return (← IO.getEnv name).map (name, ·)

/-- The bytes of a stream, after those read before. -/
partial def readAll (stream : IO.FS.Stream) (before : ByteArray) : IO ByteArray := do
  let more ← stream.read 4096
  if more.isEmpty then return before else readAll stream (before ++ more)

/-- A machine that lets the gateway listen everywhere. -/
def machine : Startup.Machine where
  bind _ _ := none

/-- Starts the gateway, and says how that went. -/
def run : IO UInt32 := do
  let file ← readAll (← IO.getStdin) .empty
  let outcome := Startup.start machine (← environment) (some file.toList)
  for entry in outcome.log do
    IO.eprintln entry.written
  for line in outcome.ending.complaint machine do
    IO.eprintln line
  return (outcome.ending.exitStatus?.getD 0).toUInt32

end ChatGateway.Program

def main : IO UInt32 := ChatGateway.Program.run
