/-
The addresses of a sweep: consecutive, from some distance before a known address on. They are never below zero.
-/
import DebugFind.Numeral.Hex

namespace DebugFind.Sweep

/-- how far before the known address a sweep starts -/
def defaultLookback : Nat := 256

/-- how many addresses a sweep asks for -/
def defaultCount : Nat := 512

/-- why there is no such sweep -/
inductive RangeError where
  | negativeLookback
  | countBelowOne
  /-- the sweep would start below zero; the distance is given as it is written -/
  | belowZero (knownGood : Int) (lookback : String)
deriving DecidableEq, Repr

def RangeError.message : RangeError → String
  | .negativeLookback => "lookback must be >= 0."
  | .countBelowOne => "count must be >= 1."
  | .belowZero knownGood lookback =>
    "Cannot sweep " ++ Numeral.hexTextSigned knownGood ++ " with lookback " ++ lookback ++
      ": range would start below zero."

/-- consecutive addresses -/
structure Range where
  start : Nat
  count : Nat
  count_pos : 0 < count
deriving Repr

namespace Range

/-- the last address -/
def last (r : Range) : Nat := r.start + r.count - 1

/-- the address at a position from zero -/
def at? (r : Range) (i : Nat) : Option Nat := if i < r.count then some (r.start + i) else none

end Range

end DebugFind.Sweep
