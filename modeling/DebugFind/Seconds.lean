/-
A number of seconds as it is given: a whole number of any size, or a floating-point number.
-/
import DebugFind.Binary64.Text

namespace DebugFind

/-- a length of time in seconds -/
inductive Seconds where
  | whole (n : Int)
  | real (x : Binary64)
deriving DecidableEq

namespace Seconds

/-- whether the time compares as zero or less -/
def nonPositive : Seconds → Bool
  | .whole n => n ≤ 0
  | .real x => x.nonPositive

/-- whether the time compares as greater than zero -/
def positive : Seconds → Bool
  | .whole n => 0 < n
  | .real x => x.positive

/-- the nearest floating-point number, unless the time is beyond the finite ones -/
def toBinary64? : Seconds → Option Binary64
  | .whole n => Binary64.ofInt? n
  | .real x => some x

/-- the time as it was given -/
def text : Seconds → String
  | .whole n => toString n
  | .real x => x.text

end Seconds

end DebugFind
