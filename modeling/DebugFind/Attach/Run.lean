/-
Finding the machine to attach to, by process id or by main class, with retries. Only a failure to attach is retried;
every attempt that failed is logged, and there is a pause before the next one. When no attempt is left, the last failure
is the result.
-/
import DebugFind.Attach.Listing
import DebugFind.Jcmd

namespace DebugFind.Attach

/-- a machine that was found -/
structure Attached where
  pid : Int
  mainClass : String
deriving DecidableEq, Repr

/-- the source of listings, and of the pauses between them -/
structure Directory (σ : Type) where
  launcher : Launcher σ
  executable : String := Jcmd.defaultExecutable
  timeout : Seconds := Jcmd.defaultTimeout
  /-- waits for so long. A host may refuse to, as one does that is told to wait for less than no time. -/
  pause : Seconds → Action σ Unit := fun delay => Action.emit (.slept delay)

/-- the machine that is looked for -/
structure Target where
  pid : Option Int := none
  mainClass : Option String := none
deriving DecidableEq, Repr

variable {σ : Type}

namespace Directory

/-- what the end of a launch means for the listing -/
def entries (d : Directory σ) (argv : List String) : Launch → Except Failure (List Entry)
  | .timedOut => .error (.attach (.listingUnavailable d.executable (Launcher.timeoutText argv d.timeout)))
  | .unavailable text => .error (.attach (.listingUnavailable d.executable text))
  | .completed stdout _ exitStatus => do
    if exitStatus = 0 then Failure.ofNumeral (readListing stdout)
    else
      let status ← Failure.ofNumeral (Numeral.write exitStatus)
      .error (.attach (.listingFailed d.executable status))

/-- the machines that run -/
def list (d : Directory σ) : Action σ (List Entry) := do
  let argv := [d.executable, "-l"]
  let launch ← d.launcher.launch argv d.timeout
  Action.ofExcept (d.entries argv launch)

/-- the process id of the machine that runs a class -/
def findPid (d : Directory σ) (mainClass : String) : Action σ (Option Nat) := do
  return pidOf? (← d.list) mainClass

/-- the main class of the machine with a process id -/
def findClass (d : Directory σ) (pid : Int) : Action σ (Option String) := do
  return classOf? (← d.list) pid

end Directory

/-- looks for a machine once; what is given is not looked up -/
def locate (d : Directory σ) (target : Target) : Action σ Attached :=
  match target.pid, target.mainClass with
  | none, none => Action.fail (.attach .noTarget)
  | some pid, some mainClass => pure ⟨pid, mainClass⟩
  | none, some mainClass => do
    match ← d.findPid mainClass with
    | some pid => return ⟨pid, mainClass⟩
    | none => Action.fail (.attach (.classNotFound mainClass))
  | some pid, none => do
    match ← d.findClass pid with
    | some mainClass => return ⟨pid, mainClass⟩
    | none =>
      let text ← Action.ofNumeral (Numeral.write pid)
      Action.fail (.attach (.notRunning text))

/-- looks once for a machine whose process id is a blank, which none has -/
def locateBlank (d : Directory σ) : Action σ Attached := do
  let _ ← d.list
  Action.fail (.attach (.notRunning "[]"))

/-- one attempt of several, told to the log; a failure to attach is given as a value -/
def tryOnce (locate : Action σ Attached) (attempt retries : Nat) : Action σ (Except Attach.Error Attached) := do
  match ← locate.attempt with
  | .ok found =>
    Action.log .info .attach ("Attached to JVM pid=" ++ toString found.pid ++ " main_class=" ++ found.mainClass)
    return .ok found
  | .error (.attach e) =>
    Action.log .warning .attach
      ("JVM attach attempt " ++ toString attempt ++ "/" ++ toString retries ++ " failed: " ++ e.message)
    return .error e
  | .error f => Action.fail f

/-- the attempts that are left, with a pause between any two; `last?` is what the attempt before them failed with -/
def tryAgain (locate : Action σ Attached) (pause : Action σ Unit) (retries : Nat) (last? : Option Attach.Error) :
    Nat → Action σ Attached
  | 0 => Action.fail (.attach (last?.getD .unknown))
  | left + 1 => do
    match ← tryOnce locate (retries - left) retries with
    | .ok found => return found
    | .error e =>
      if 0 < left then pause
      tryAgain locate pause retries (some e) left

/-- how often an attempt is made -/
def defaultRetries : Int := 3

/-- half a second -/
def defaultDelay : Seconds := .real (Binary64.ofRatio false 1 2)

/-- finds a machine by looking for it so often -/
def retrying (locate : Action σ Attached) (pause : Seconds → Action σ Unit) (retries : Int := defaultRetries)
    (delay : Seconds := defaultDelay) : Action σ Attached :=
  if 1 ≤ retries then tryAgain locate (pause delay) retries.toNat none retries.toNat
  else Action.fail .retriesBelowOne

/-- finds a machine -/
def run (d : Directory σ) (target : Target) (retries : Int := defaultRetries) (delay : Seconds := defaultDelay) :
    Action σ Attached :=
  retrying (locate d target) d.pause retries delay

end DebugFind.Attach
