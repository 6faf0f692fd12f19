/-
Text of floating-point numbers: the fewest digits that read back as the number, and one fixed decimal place.

The shortest text looks, for one to seventeen digits in turn, at the two points of that decimal grid next to the value;
the first grid with a point that reads back wins, and of two such points the nearer. It is written positionally when the
point falls among the first sixteen digits or at most three zeros follow it, and with an exponent of at least two digits
otherwise.
-/
import DebugFind.Binary64.Basic

namespace DebugFind.Binary64

/-- the ratio of `digits · 10 ^ e` -/
def decimalRatio (digits : Nat) (e : Int) : Nat × Nat :=
  if 0 ≤ e then (digits * Nat.pow 10 e.toNat, 1) else (digits, Nat.pow 10 (-e).toNat)

/-- how many digits the ratio has before its decimal point; zero or less if it is below a tenth -/
def decimalPoint (num den : Nat) : Int :=
  if den ≤ num then (Nat.toDigits 10 (num / den)).length
  else
    let zeros := ((List.range 340).find? fun j => den ≤ num * Nat.pow 10 j).getD 340
    1 - (zeros : Int)

/-- the points next to `num / den` on the grid of multiples of `10 ^ e`, the nearer first -/
def gridNeighbours (num den : Nat) (e : Int) : List Nat :=
  let (n, d) := if 0 ≤ e then (num, den * Nat.pow 10 e.toNat) else (num * Nat.pow 10 (-e).toNat, den)
  let q := n / d
  let r := n % d
  if 2 * r < d ∨ (2 * r = d ∧ q % 2 = 0) then [q, q + 1] else [q + 1, q]

/-- the point of the coarsest grid that reads back as the number; `tried` grids have been given up -/
def shortestFrom (magnitude num den : Nat) (point : Int) : Nat → Nat → Nat × Int
  | 0, tried => (num, tried)
  | fuel + 1, tried =>
    let e := point - (tried + 1)
    match (gridNeighbours num den e).find? fun c => let (n, d) := decimalRatio c e; roundRatio n d == magnitude with
    | some c => (c, e)
    | none => shortestFrom magnitude num den point fuel (tried + 1)

/-- drops trailing zeros from `digits · 10 ^ e` -/
def dropZeros : Nat → Nat → Int → Nat × Int
  | 0, digits, e => (digits, e)
  | fuel + 1, digits, e => if digits % 10 = 0 then dropZeros fuel (digits / 10) (e + 1) else (digits, e)

/-- the shortest decimal that reads back as a finite number other than zero, as digits and an exponent -/
def shortest (x : Binary64) : Nat × Int :=
  let (num, den) := x.ratio
  let (digits, e) := shortestFrom x.magnitude num den (decimalPoint num den) 17 0
  dropZeros 17 digits e

/-- an exponent with its sign and at least two digits -/
def exponentText (e : Int) : String :=
  let digits := Nat.toDigits 10 e.natAbs
  (if e < 0 then "e-" else "e+") ++ String.ofList (if digits.length < 2 then '0' :: digits else digits)

/-- lays out digits whose decimal point stands after the first `point` of them -/
def layOut (digits : List Char) (point : Int) : String :=
  if point ≤ -4 ∨ 16 < point then
    match digits with
    | [] => "0.0"
    | [d] => String.ofList [d] ++ exponentText (point - 1)
    | d :: rest => String.ofList (d :: '.' :: rest) ++ exponentText (point - 1)
  else if point ≤ 0 then
    "0." ++ String.ofList (List.replicate (-point).toNat '0' ++ digits)
  else if digits.length ≤ point.toNat then
    String.ofList (digits ++ List.replicate (point.toNat - digits.length) '0') ++ ".0"
  else
    String.ofList (digits.take point.toNat ++ '.' :: digits.drop point.toNat)

/-- the shortest text that reads back as the number -/
def text (x : Binary64) : String :=
  if x.isNan then "nan"
  else (if x.negative then "-" else "") ++
    if x.isInfinite then "inf"
    else if x.magnitude = 0 then "0.0"
    else
      let (digits, e) := x.shortest
      let ds := Nat.toDigits 10 digits
      layOut ds (ds.length + e)

/-- the number with one decimal place; a half goes to the even neighbour -/
def oneDecimal (x : Binary64) : String :=
  if x.isNan then "nan"
  else (if x.negative then "-" else "") ++
    if x.isInfinite then "inf"
    else
      let (num, den) := x.ratio
      let tenths := roundHalfEven (10 * num) den
      toString (tenths / 10) ++ "." ++ toString (tenths % 10)

end DebugFind.Binary64
