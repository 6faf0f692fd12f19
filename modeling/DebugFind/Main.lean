/-
The program. Launches are not made from here: their ends come from standard input, one JSON object a line, as a recording
of the launcher gives them. Everything else is the session, whose events are written as they stand.
-/
import DebugFind.CommandLine.Reader
import DebugFind.Launcher.Script
import DebugFind.Session

namespace DebugFind

/-- the lines of standard input -/
partial def inputLines (input : IO.FS.Stream) (soFar : List String) : IO (List String) := do
  let line ← input.getLine
  if line.isEmpty then return soFar.reverse else inputLines input (line :: soFar)

/-- the bytes of a file, or why there are none -/
def fileBytes (path : String) : IO (Except Profile.FileError (List UInt8)) := do
  try
    return .ok (← IO.FS.readBinFile path).toList
  catch e =>
    match e with
    | .noFileOrDirectory .. => return .error .missing
    | e => return .error (.unreadable "unreadable" (toString e))

/-- writes an event: records to standard error from a level on, lines and the display to standard output -/
def writeEvent (least : Level) : Event → IO Unit
  | .logged r => if least.reaches r.level then do IO.eprintln (r.line (toString (← IO.monoMsNow))) else pure ()
  | .printed line => IO.println line
  | .shown (.status text) => IO.println text
  | .shown (.cell row column text) => IO.println (row ++ " " ++ column ++ " " ++ text)
  | _ => pure ()

/-- runs a session and gives its exit status -/
def runSession (options : CommandLine.Options) : IO UInt32 := do
  let runtime := Runtime.usual
  let script := Launcher.Script.ofLines runtime.json.overflow? (← inputLines (← IO.getStdin) [])
  let file ← match options.profile with
    | some path => fileBytes path
    | none => pure (.error .missing)
  let outcome := (Session.run ⟨fun _ => file, runtime, Launcher.ofScript, true, none⟩ options).run script
  outcome.events.forM (writeEvent options.leastLevel)
  match outcome.result with
  | .ok .passed => return 0
  | .ok (.stopped text) => IO.eprintln text
  | .error f => IO.eprintln f.message
  return 1

end DebugFind

def main (arguments : List String) : IO UInt32 := do
  match DebugFind.CommandLine.read arguments with
  | .error e =>
    e.lines.forM IO.eprintln
    return 2
  | .ok .help =>
    DebugFind.CommandLine.help.forM IO.println
    return 0
  | .ok (.run options) => DebugFind.runSession options
