import Std.Time.DateTime.Timestamp
import Turnstile.Startup

/-!
# The command line

Starts the service with the settings of the environment and of the file `.env`
in the working directory, and writes its log to standard output.  While it
serves, every line of standard input is the target of a request, whose status
and body are written; the end of the input stops the service.
-/

namespace Turnstile
namespace CommandLine

open Settings

/-- The settings variables that the environment sets. -/
def readEnvironment : IO Environment := do
  let mut entries := []
  for setting in Variable.all do
    if let some value ← IO.getEnv setting.name then
      entries := (setting.name, Text.Utf8.encode value) :: entries
  return { entries }

/-- The environment file, if there is one. -/
def readFile : IO (Option String) := do
  try
    return some (← IO.FS.readFile ".env")
  catch _ =>
    return none

/-- Writes log lines. -/
def writeLog (lines : List Startup.LogLine) : IO Unit := do
  for line in lines do
    IO.println (line.level.name ++ " " ++ line.text)

/-- The present time. -/
def present : IO Calendar.Timestamp := do
  let now ← Std.Time.Timestamp.now
  let nanos := now.toNanosecondsSinceUnixEpoch.val
  return .ofEpoch (nanos / 1000000000) (nanos % 1000000000).toNat

/-- Answers the requests of standard input until it ends. -/
partial def serve (anchor : Anchor) (gateway : Gateway) : IO Unit := do
  let line ← (← IO.getStdin).getLine
  if line.isEmpty then return
  let running ← IO.monoMsNow
  let current := gateway.setClock (anchor.reading running)
  let rested := current.sleep (running - anchor.runningMs - current.sleptMs)
  let moment : Moment :=
    { timestamp := ← present
      uptimeSeconds := (running - anchor.runningMs) / 1000 }
  let target := String.ofList (Text.trim line.toList)
  let request : Http.Request :=
    { method := "GET", target, headers := .empty, peer := none }
  let (next, response) := rested.handle moment request
  IO.println (Text.decimalText response.status ++ " " ++ response.body)
  serve anchor next

end CommandLine
end Turnstile

open Turnstile

/-- Starts the service, serves standard input, and exits with the code of how it
ended. -/
def main : IO UInt32 := do
  let now ← CommandLine.present
  let seconds : Int := now.day * 86400 + now.second
  let anchor : Anchor :=
    { epochMs := Int64.ofInt (seconds * 1000 + now.nanos / 1000000)
      runningMs := ← IO.monoMsNow }
  let (log, launched) :=
    Startup.launch (← CommandLine.readEnvironment) (← CommandLine.readFile)
      .unrestricted { nowMs := anchor.epochMs }
  CommandLine.writeLog log
  match launched with
  | .error exit => return UInt32.ofNat exit.code
  | .ok gateway =>
      CommandLine.serve anchor gateway
      CommandLine.writeLog (Startup.stoppingLines .terminate)
      return UInt32.ofNat Startup.Exit.success.code
