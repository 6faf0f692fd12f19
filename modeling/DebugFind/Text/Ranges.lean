/-
Sets of code points as increasing lists of inclusive ranges, the form in which the character tables of this folder are
kept. `within` stops at the first range that begins after the code point, so a lookup among the small code points is
short however long the table is.
-/

namespace DebugFind.Text

/-- an increasing list of disjoint inclusive ranges of code points -/
abbrev Ranges := List (Nat × Nat)

/-- whether a code point lies in one of the ranges -/
def Ranges.within : Ranges → Nat → Bool
  | [], _ => false
  | (lo, hi) :: rest, c => if c < lo then false else if c ≤ hi then true else Ranges.within rest c

/-- whether a character lies in one of the ranges -/
def Ranges.holds (rs : Ranges) (c : Char) : Bool := rs.within c.toNat

end DebugFind.Text
