/-
Hexadecimal numerals: written in lower case without leading zeros, read in either case, of any length.
-/

namespace DebugFind.Numeral

/-- the value of a digit sequence, most significant digit first -/
def ofDigits (base : Nat) (digits : List Nat) : Nat := digits.foldl (fun n d => n * base + d) 0

/-- the value of a hexadecimal digit -/
def hexValue? (c : Char) : Option Nat :=
  if '0' ≤ c ∧ c ≤ '9' then some (c.toNat - '0'.toNat)
  else if 'a' ≤ c ∧ c ≤ 'f' then some (c.toNat - 'a'.toNat + 10)
  else if 'A' ≤ c ∧ c ≤ 'F' then some (c.toNat - 'A'.toNat + 10)
  else none

def isHexDigit (c : Char) : Bool := (hexValue? c).isSome

/-- whether a text is a non-empty run of hexadecimal digits -/
def isHexNumeral (s : List Char) : Bool := !s.isEmpty && s.all isHexDigit

/-- the value of a run of hexadecimal digits -/
def ofHex (s : List Char) : Nat := ofDigits 16 (s.filterMap hexValue?)

/-- what stands behind `0x` or `0X` at the front of a text -/
def afterHexMark? : List Char → Option (List Char)
  | '0' :: 'x' :: rest | '0' :: 'X' :: rest => some rest
  | _ => none

/-- the hexadecimal digits of a number -/
def hexDigits (n : Nat) : List Char := Nat.toDigits 16 n

/-- the hexadecimal digits behind `0x`, where a minus sign stands between them for a negative number -/
def hexTextSigned (n : Int) : String :=
  (if n < 0 then "0x-" else "0x") ++ String.ofList (hexDigits n.natAbs)

/-- `0x` and the hexadecimal digits, after a minus sign for a negative number -/
def hexText (n : Int) : String :=
  (if n < 0 then "-0x" else "0x") ++ String.ofList (hexDigits n.natAbs)

end DebugFind.Numeral
