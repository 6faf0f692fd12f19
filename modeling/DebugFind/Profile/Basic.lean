/-
A profile: everything that a run needs besides the channel to the inspected process. What every accepted profile
guarantees stands in the types: the version and the count of a sweep are positive, and no distance is negative.
-/
import DebugFind.Binary64.Basic
import DebugFind.Extraction.Pattern
import DebugFind.ObjectField
import DebugFind.Sweep.Range

namespace DebugFind

/-- the addresses around a known one that a sweep asks for -/
structure SweepSettings where
  lookback : Nat := Sweep.defaultLookback
  count : Nat := Sweep.defaultCount
  count_pos : 0 < count := by decide
deriving DecidableEq, Repr

/-- how commands are launched -/
structure LauncherSettings where
  executable : String := "jcmd"
  /-- how many seconds a command may take -/
  timeout : Binary64 := Binary64.ofRatio false 30 1
deriving DecidableEq

structure Profile where
  version : Nat := 1
  threadPattern : ExtractionPattern := .threadId
  objectPattern : ExtractionPattern := .waitingOnMyLock
  sentinels : List Int := [0, -1]
  sweep : SweepSettings := {}
  sweepThreadNeighborhood : Bool := true
  expectedField : FieldExpectation := {}
  launcher : LauncherSettings := {}
deriving DecidableEq

end DebugFind
