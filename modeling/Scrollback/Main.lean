import Std.Time
import Scrollback.Workspace

/-!
The program: it reads the files its arguments name and prints the report. The clock
is read once, in the local zone.

With `TENEX_LOG_FILE` set, a log is kept there. Warnings and failures go to the
standard error output.
-/

namespace Scrollback

/-- The text of a file, if it can be read. -/
def readFile? (path : String) : IO (Option String) := do
  try return some (← IO.FS.readFile path)
  catch _ => return none

/-- The texts of some files that can be read. -/
def readFiles (paths : List String) : IO (List (String × String)) := do
  let found ← paths.mapM fun path => return (← readFile? path).map (path, ·)
  return found.filterMap id

/-- The files that a run with its options may read. -/
def Options.paths (o : Options) : List String :=
  o.events :: [o.settings, o.chunks, o.agents].filterMap id

/-- Write at the end of the log, which is created if it is missing. -/
def appendLog (path text : String) : IO Unit := do
  let log ← IO.FS.Handle.mk path .append
  log.putStr text

/-- Open the log, if one is asked for. It is the path of a log that could be
opened. -/
def openLog : IO (Option String) := do
  match ← IO.getEnv "TENEX_LOG_FILE" with
  | none => return none
  | some path =>
      try
        appendLog path Workspace.logHeader
        return some path
      catch error =>
        IO.eprintln s!"Failed to open log file {path}: {error}"
        return none

/-- The clock of the machine in its local zone, or in UTC if it does not name one. -/
def localClock : IO Clock := do
  let present ← Std.Time.Timestamp.now
  let ahead ←
    try
      let zone ← Std.Time.Database.defaultGetLocalZoneRules
      pure fun second : Int =>
        (zone.timezoneAt (.ofSecondsSinceUnixEpoch ⟨second⟩)).offset.second.val
    catch _ => pure fun _ => 0
  return .inZone ahead present.toSecondsSinceUnixEpoch.val

end Scrollback

open Scrollback

/-- Run with the arguments of the command line. -/
def main (arguments : List String) : IO UInt32 := do
  let log ← openLog
  let files ← match CommandLine.read arguments with
    | .run options => readFiles options.paths
    | _ => pure []
  let clock ← localClock
  let outcome := Report.run (fun _ => clock) (fun path => files.lookup path) arguments
  for error in outcome.skipped do
    IO.eprintln ("skipping event: " ++ error.message)
    if let some path := log then appendLog path ("skipping event: " ++ error.message ++ "\n")
  IO.print outcome.output
  if let some failure := outcome.failure then
    IO.eprintln ("Error: " ++ failure.message)
  if outcome.exitCode = 2 then
    IO.eprintln "error: the arguments cannot be read; try --help"
  return outcome.exitCode.toUInt32
