/-
Module: Countersign.Main
Purpose: The service at a terminal: it takes its arguments, answers the requests that come in line by
  line, and writes its journal to the error output.
Main exports: main
-/
import Countersign.CommandLine
import Countersign.Http.Server
import Countersign.Service.Application
import Std.Time.DateTime.Timestamp

namespace Countersign

/-!
Whatever listens on the host and the port hands requests on, one a line, and takes the response to each
from the next line of the output. The service stops at the end of the input.
-/

/-- The name of the program in what it prints. -/
def programName : String := "countersign"

/-- The time of day in microseconds from 1970. -/
def wallClock : IO Int := do
  let time ← Std.Time.Timestamp.now
  return time.toNanosecondsSinceUnixEpoch.val / 1000

/-- Do a part of a command at the present time, and write out what it noted that matters enough. -/
def perform {α : Type} (settings : Settings) (held : IO.Ref ServiceState) (part : Service α) :
    IO (Except Failure α) := do
  let state ← held.get
  let (outcome, state) := part.run { state with clock := ← wallClock, journal := [] }
  let least := (Level.ofName? settings.logLevel).getD .info
  for entry in (state.journal.filter (·.reaches least)).reverse do IO.eprintln entry.line
  held.set state
  return outcome

/-- Answer requests until the input ends. -/
partial def answerLines (settings : Settings) (held : IO.Ref ServiceState)
    (input output : IO.FS.Stream) : IO Unit := do
  let line ← input.getLine
  if line.isEmpty then return
  let call := Http.Call.ofLine line.trimAscii.toString
  match ← perform settings held (Http.respondTo call settings) with
  | .ok response =>
      output.putStrLn response.line
      output.flush
  | .error _ => return
  answerLines settings held input output

/-- Run the service until the input ends. -/
def serve (settings : Settings) : IO Unit := do
  let held ← IO.mkRef { clock := 0, link := ⟨false, false⟩ : ServiceState }
  let _ ← perform settings held (Application.start settings)
  answerLines settings held (← IO.getStdin) (← IO.getStdout)
  let _ ← perform settings held Application.stop

/-- Do what the arguments ask for. -/
def runProgram (given : List String) : IO UInt32 := do
  match CommandLine.read given with
  | .help =>
      for line in CommandLine.help programName do IO.println line
      return 0
  | .wrong complaint =>
      IO.eprintln (CommandLine.usage programName)
      IO.eprintln (CommandLine.complaintLine programName complaint)
      return 2
  | .serve arguments =>
      for line in CommandLine.banner arguments do IO.println line
      serve {}
      return 0

end Countersign

def main (given : List String) : IO UInt32 := Countersign.runProgram given
