/-
The scenario: find a thread in the listing and check what the inspected process says about it, check that bad addresses
are refused, find an object and check it, and sweep the neighborhoods. Every step needs the one before, so the first
failure ends the run and the stage stays where it was.

`advance` is the only way in which progress changes: a stage is reached from its predecessor alone, so the stages reached
are always an initial part of the order.
-/
import DebugFind.Classification.Assertion
import DebugFind.Extraction.Address
import DebugFind.Profile.Basic
import DebugFind.Sweep.Run

namespace DebugFind.Scenario

open DebugFind.Numeral

variable {σ : Type}

/-- how far a run has come -/
structure Progress where
  stage : Stage := .initial
  transitions : List Transition := []
deriving DecidableEq, Repr

/-- those who are told of a run as it goes on -/
structure Observers (σ : Type) where
  onTransition : Option (Transition → Action σ Unit) := none
  onProbe : Option (Sweep.Listener σ) := none

/-- what a complete run has found -/
structure Result where
  threadAddress : Nat
  objectAddress : Nat
  objectSweep : Sweep.Report
  threadSweep : Option Sweep.Report
  transitions : List Transition
deriving DecidableEq, Repr

/-- goes on to the next stage -/
def advance (observers : Observers σ) (stage : Stage) (detail : String := "") : Action (Progress × σ) Unit := do
  let (progress, _) ← Action.state
  if stage.number ≠ progress.stage.number + 1 then Action.fail (.illegalTransition progress.stage stage)
  else
    let transition : Transition := ⟨stage, detail⟩
    Action.change fun (_, s) => (⟨stage, progress.transitions ++ [transition]⟩, s)
    Action.log .info .scenario ("Scenario state " ++ stage.name ++ " " ++ detail)
    match observers.onTransition with
    | some tell => (tell transition).under
    | none => pure ()

/-- asks for an address and asserts what it is -/
def probeAndCheck (channel : Channel σ) (address : Int) (expected : Classification) (verbose : Bool := false)
    (field : Option FieldExpectation := none) : Action σ Unit := do
  let response ← channel.probe address verbose
  Action.ofExcept (response.check expected field)

/-- finds an address in a listing of the live threads -/
def findAddress (channel : Channel σ) (pattern : ExtractionPattern) : Action σ Nat := do
  let listing ← channel.listThreads
  pattern.extract listing .scenario

/-- sweeps the neighborhood of an address as the profile says -/
def sweep (channel : Channel σ) (profile : Profile) (observers : Observers σ) (address : Nat) :
    Action σ Sweep.Report :=
  Sweep.neighborhood channel address profile.sweep.lookback profile.sweep.count observers.onProbe .scenario

/-- asserts of every sentinel that it is refused -/
def checkSentinels (channel : Channel σ) : List Int → Action σ Unit
  | [] => pure ()
  | a :: rest => do
    probeAndCheck channel a .notSafe
    checkSentinels channel rest

/-- the sentinels in words -/
def describeSentinels (sentinels : List Int) : Except Numeral.Error String := do
  return ", ".intercalate (← sentinels.mapM Address.describe)

/-! ## The steps -/

def findThread (channel : Channel σ) (profile : Profile) (observers : Observers σ) :
    Action (Progress × σ) Nat := do
  let thread ← (findAddress channel profile.threadPattern).under
  advance observers .threadFound (hexText thread)
  return thread

def checkThread (channel : Channel σ) (profile : Profile) (observers : Observers σ) (thread : Nat) :
    Action (Progress × σ) (Option Sweep.Report) := do
  (probeAndCheck channel thread .thread).under
  (probeAndCheck channel thread .thread true).under
  let report ← if profile.sweepThreadNeighborhood then some <$> (sweep channel profile observers thread).under
    else pure none
  advance observers .threadClassified "thread, waiting"
  return report

def checkBadAddresses (channel : Channel σ) (profile : Profile) (observers : Observers σ) :
    Action (Progress × σ) Unit := do
  (checkSentinels channel profile.sentinels).under
  let detail ← Action.ofNumeral (describeSentinels profile.sentinels)
  advance observers .badAddressesChecked detail

def findObject (channel : Channel σ) (profile : Profile) (observers : Observers σ) :
    Action (Progress × σ) Nat := do
  let object ← (findAddress channel profile.objectPattern).under
  advance observers .objectFound (hexText object)
  return object

def checkObject (channel : Channel σ) (profile : Profile) (observers : Observers σ) (object : Nat) :
    Action (Progress × σ) Unit := do
  (probeAndCheck channel object .managedObject false (some profile.expectedField)).under
  let detail ← Action.ofNumeral profile.expectedField.describe
  advance observers .objectClassified detail

def sweepObject (channel : Channel σ) (profile : Profile) (observers : Observers σ) (object : Nat) :
    Action (Progress × σ) Sweep.Report := do
  let report ← (sweep channel profile observers object).under
  advance observers .neighborhoodSwept
    (toString report.probes ++ " probes " ++ hexText report.start ++ ".." ++ hexText report.last)
  return report

/-- all steps in order -/
def steps (channel : Channel σ) (profile : Profile) (observers : Observers σ) : Action (Progress × σ) Result := do
  let thread ← findThread channel profile observers
  let threadSweep ← checkThread channel profile observers thread
  checkBadAddresses channel profile observers
  let object ← findObject channel profile observers
  checkObject channel profile observers object
  let objectSweep ← sweepObject channel profile observers object
  advance observers .done
  let (progress, _) ← Action.state
  return ⟨thread, object, objectSweep, threadSweep, progress.transitions⟩

/-- runs the scenario; one that has come further than the initial stage is not run again -/
def run (channel : Channel σ) (profile : Profile) (observers : Observers σ) : Action (Progress × σ) Result := do
  let (progress, _) ← Action.state
  if progress.stage = .initial then steps channel profile observers else Action.fail .alreadyRun

end DebugFind.Scenario
