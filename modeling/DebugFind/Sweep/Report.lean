/-
What a sweep counts: the probes made, those that ended with an error status, and how many answers fell into each class.
-/
import DebugFind.Classification.Basic
import DebugFind.Probe

namespace DebugFind.Sweep

/-- how many answers fell into each class -/
structure Tally where
  thread : Nat := 0
  managedObject : Nat := 0
  notSafe : Nat := 0
  unknown : Nat := 0
deriving DecidableEq, Repr

namespace Tally

def count (t : Tally) : Classification → Nat
  | .thread => t.thread
  | .managedObject => t.managedObject
  | .notSafe => t.notSafe
  | .unknown => t.unknown

/-- one more answer of a class -/
def add (t : Tally) : Classification → Tally
  | .thread => { t with thread := t.thread + 1 }
  | .managedObject => { t with managedObject := t.managedObject + 1 }
  | .notSafe => { t with notSafe := t.notSafe + 1 }
  | .unknown => { t with unknown := t.unknown + 1 }

theorem count_add (t : Tally) (c d : Classification) :
    (t.add c).count d = t.count d + if c = d then 1 else 0 := by
  cases c <;> cases d <;> rfl

/-- the classes that were met with their counts, ordered by name -/
def counts (t : Tally) : List (Classification × Nat) :=
  ([.managedObject, .thread, .unknown, .notSafe].map fun c => (c, t.count c)).filter (·.2 != 0)

end Tally

/-- the summary of a sweep from `start` to `last` -/
structure Report where
  start : Nat
  last : Nat
  probes : Nat := 0
  errorExits : Nat := 0
  tally : Tally := {}
deriving DecidableEq, Repr

/-- counts one more answer -/
def Report.add (r : Report) (response : ProbeResponse) : Report :=
  { r with
    probes := r.probes + 1
    errorExits := r.errorExits + if response.exitStatus = 0 then 0 else 1
    tally := r.tally.add (.ofText response.text) }

end DebugFind.Sweep
