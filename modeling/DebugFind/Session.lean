/-
A whole session: load the profile, find the machine, open the channel to it, and run the scenario, plainly or on the
display. The launcher and the files are given, so a session is an action like any other.

A session ends passed, or stopped with a text for the user. Failures that are neither findings of the scenario nor
mistakes in the set-up are no end of a session; they stay failures.
-/
import DebugFind.Attach.Run
import DebugFind.CommandLine.Basic
import DebugFind.Display.Run
import DebugFind.Profile.Reader

namespace DebugFind.Session

open DebugFind.Numeral

/-- how a session ends -/
inductive Ending where
  | passed
  | stopped (text : String)
deriving DecidableEq, Repr

/-- what a session is given by its surroundings -/
structure Host (σ : Type) where
  /-- the bytes of a file -/
  file : String → Except Profile.FileError (List UInt8)
  /-- what reading a profile takes -/
  runtime : Runtime
  launcher : Launcher σ
  hasDisplay : Bool := true
  /-- how many updates of the display the user waits for, if not for all -/
  patience : Option Nat := none

variable {σ : Type}

/-! ## The summary -/

/-- a text, filled with spaces to a width -/
def padded (width : Nat) (text : String) : String :=
  text ++ String.ofList (List.replicate (width - text.length) ' ')

def transitionLine (t : Transition) : String := padded 24 t.stage.name ++ " " ++ t.detail

def sweepLine (r : Sweep.Report) : String :=
  let tally := r.tally.counts.map fun (c, n) => c.name ++ "=" ++ toString n
  "sweep " ++ hexText r.start ++ ".." ++ hexText r.last ++ ": " ++ toString r.probes ++ " probes (" ++
    ", ".intercalate tally ++ "), " ++ toString r.errorExits ++ " non-zero exits"

/-- the lines that tell what a run has found -/
def summary (r : Scenario.Result) : List String :=
  r.transitions.map transitionLine ++ (r.threadSweep.toList ++ [r.objectSweep]).map sweepLine

/-- the line that a passed session ends with -/
def passedLine : String := "VM.debug find scenario passed"

def passed (lines : List String) : Action σ Ending := do
  Action.emitAll ((lines ++ [passedLine]).map .printed)
  return .passed

/-- the text about a finding -/
def failedText (stage : Stage) (f : Failure) : String := "Scenario failed after " ++ stage.name ++ ": " ++ f.message

/-! ## The run -/

/-- finds the machine that a call asks for -/
def attach (directory : Attach.Directory σ) : CommandLine.Target → Action σ Attach.Attached
  | .pid (.value pid) => Attach.run directory { pid := some pid }
  | .pid .blank => Attach.retrying (Attach.locateBlank directory) directory.pause
  | .mainClass (.value name) => Attach.run directory { mainClass := some name }
  | .mainClass .blank => Action.fail .blankClass

/-- loads the profile and finds the machine -/
def prepare (host : Host σ) (options : CommandLine.Options) : Action σ (Profile × Attach.Attached) := do
  let profile ← match options.profile with
    | some path => Action.ofExcept ((Profile.ofFile host.runtime path (host.file path)).mapError .profile)
    | none => pure {}
  let directory : Attach.Directory σ :=
    { launcher := host.launcher, executable := profile.launcher.executable, timeout := .real profile.launcher.timeout }
  return (profile, ← attach directory options.target)

/-- runs the scenario on the display -/
def runDisplay (host : Host σ) (channel : Channel σ) (profile : Profile) : Action σ Ending := do
  let ending ← Display.run channel profile host.hasDisplay host.patience
  match ending.failure with
  | some f => return .stopped (failedText ending.stage f)
  | none =>
    if ending.stage = .done then passed []
    else return .stopped ("Scenario interrupted after " ++ ending.stage.name ++ ".")

/-- runs the scenario plainly -/
def runPlain (channel : Channel σ) (profile : Profile) : Action σ Ending := do
  let (result, progress) ← Action.within {} (Scenario.run channel profile {})
  match result with
  | .ok r => passed (summary r)
  | .error f => if f.isFinding then return .stopped (failedText progress.stage f) else Action.fail f

/-- a mistake in the set-up, which the user is told of -/
def isSetupMistake : Failure → Bool
  | .profile (.invalid _) | .attach _ => true
  | _ => false

/-- the run of a session whose records are chosen by a level -/
def start (host : Host σ) (options : CommandLine.Options) : Action σ Ending := do
  match ← (prepare host options).attempt with
  | .error f =>
    if isSetupMistake f then return .stopped ("Startup validation failed: " ++ f.message) else Action.fail f
  | .ok (profile, attached) =>
    let machine ← Action.ofExcept
      (Jcmd.ofPid attached.pid profile.launcher.executable (.real profile.launcher.timeout))
    let channel := machine.channel host.launcher
    if options.display then runDisplay host channel profile else runPlain channel profile

/-- a whole session -/
def run (host : Host σ) (options : CommandLine.Options) : Action σ Ending :=
  match options.logLevel with
  | .value _ => start host options
  | .blank => Action.fail .blankLevel

end DebugFind.Session
