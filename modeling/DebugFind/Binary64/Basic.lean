/-
Binary floating-point numbers of 64 bits, kept exactly: a sign and the remaining 63 bits as a number. Among numbers that
are not NaN the order of magnitudes is the order of that number, and infinity stands after all finite ones.

`roundRatio` rounds an exact ratio to the nearest magnitude, a tie to the even one; every reading of a number goes through
it. Nothing here uses machine arithmetic.
-/

namespace DebugFind

/-- a binary floating-point number: its sign and its other 63 bits -/
structure Binary64 where
  negative : Bool
  magnitude : Nat
  magnitude_lt : magnitude < Nat.pow 2 63
deriving DecidableEq

namespace Binary64

/-- the magnitude of infinity; greater ones are not numbers -/
def infinityMagnitude : Nat := 2047 * Nat.pow 2 52

theorem infinityMagnitude_lt : infinityMagnitude < Nat.pow 2 63 := by decide

def zero : Binary64 := ⟨false, 0, by decide⟩

def infinity (negative : Bool) : Binary64 := ⟨negative, infinityMagnitude, infinityMagnitude_lt⟩

/-- the quiet value that is not a number -/
def nan : Binary64 := ⟨false, infinityMagnitude + Nat.pow 2 51, by decide⟩

def isNan (x : Binary64) : Bool := infinityMagnitude < x.magnitude

def isInfinite (x : Binary64) : Bool := x.magnitude == infinityMagnitude

/-- all 64 bits as one number -/
def bits (x : Binary64) : Nat := (if x.negative then Nat.pow 2 63 else 0) + x.magnitude

/-- whether the number compares as zero or less; a value that is not a number does not -/
def nonPositive (x : Binary64) : Bool := !x.isNan && (x.negative || x.magnitude == 0)

/-- whether the number compares as greater than zero -/
def positive (x : Binary64) : Bool := !x.isNan && !x.negative && x.magnitude != 0

/-- the integer whose product with a power of two is the magnitude -/
def significand (x : Binary64) : Nat :=
  if x.magnitude / Nat.pow 2 52 = 0 then x.magnitude else x.magnitude % Nat.pow 2 52 + Nat.pow 2 52

/-- the exponent of that power of two -/
def exponent (x : Binary64) : Int := (max (x.magnitude / Nat.pow 2 52) 1 : Nat) - 1075

/-- a ratio `num / den` times two to the power `e` -/
def scale (num den : Nat) (e : Int) : Nat × Nat :=
  if 0 ≤ e then (num * Nat.pow 2 e.toNat, den) else (num, den * Nat.pow 2 (-e).toNat)

/-- the value of a finite number without its sign, as a ratio -/
def ratio (x : Binary64) : Nat × Nat := scale x.significand 1 x.exponent

/-- the integer nearest to a ratio, a tie going to the even one -/
def roundHalfEven (num den : Nat) : Nat :=
  let q := num / den
  let r := num % den
  if 2 * r < den then q else if 2 * r = den ∧ q % 2 = 0 then q else q + 1

/-- the magnitude nearest to the ratio `num / den`, infinity if the ratio is beyond the finite ones -/
def roundRatio (num den : Nat) : Nat :=
  if num = 0 then 0 else
    let e : Int := num.log2 - den.log2
    let reaches := let (n, d) := scale num den (-e); d ≤ n
    let e := if reaches then e else e - 1
    let last := max (e - 52) (-1074)
    let (n, d) := scale num den (-last)
    min ((last + 1074).toNat * Nat.pow 2 52 + roundHalfEven n d) infinityMagnitude

theorem roundRatio_lt (num den : Nat) : roundRatio num den < Nat.pow 2 63 := by
  unfold roundRatio
  split
  · decide
  · exact Nat.lt_of_le_of_lt (Nat.min_le_right _ _) infinityMagnitude_lt

/-- the number nearest to a signed ratio -/
def ofRatio (negative : Bool) (num den : Nat) : Binary64 := ⟨negative, roundRatio num den, roundRatio_lt num den⟩

/-- the number nearest to an integer, unless it is beyond the finite ones -/
def ofInt? (n : Int) : Option Binary64 :=
  let x := ofRatio (n < 0) n.natAbs 1
  if x.isInfinite then none else some x

/-- the number nearest to `digits · 10 ^ e` -/
def ofDecimal (negative : Bool) (digits : Nat) (e : Int) : Binary64 :=
  let places : Int := (Nat.toDigits 10 digits).length + e
  if digits = 0 ∨ places < -330 then ⟨negative, 0, by decide⟩
  else if 310 < places then infinity negative
  else if 0 ≤ e then ofRatio negative (digits * Nat.pow 10 e.toNat) 1
  else ofRatio negative digits (Nat.pow 10 (-e).toNat)

end Binary64

end DebugFind
