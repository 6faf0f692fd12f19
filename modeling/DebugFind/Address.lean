/-
Addresses of the inspected process and their text. An address is written in hexadecimal. A negative number is a sentinel:
it is written in decimal, as it is, so that the inspected process does its own checking. `unsignedView` is the address
that a sentinel stands for in a word of a given width.
-/
import DebugFind.Json.Value
import DebugFind.Numeral.Decimal
import DebugFind.Numeral.Mask

namespace DebugFind.Address

open DebugFind.Text DebugFind.Numeral

/-- why something is not taken for an address -/
inductive Error where
  | notInteger (kind : Json.Kind)
  | malformed (text : String)
  | numeral (e : Numeral.Error)
  /-- a word cannot have fewer than no bits -/
  | negativeWidth
deriving DecidableEq, Repr

def Error.message : Error → String
  | .notInteger kind => "Address must be int, got " ++ kind.word ++ "."
  | .malformed text => "Not a hex address: " ++ quoted text ++ "."
  | .numeral e => e.message
  | .negativeWidth => "negative shift count"

/-- the greatest address of a word of 64 bits -/
def maxUnsigned : Int := Nat.pow 2 64 - 1

/-- the address that a value gives; only a whole number gives one -/
def ofJson : Json → Except Error Int
  | .int n => .ok n
  | v => .error (.notInteger v.kind)

/-- the text of an address, decimal for a sentinel; a sentinel of too many digits has none -/
def format (a : Int) : Except Numeral.Error String := if a < 0 then Numeral.write a else .ok (hexText a)

/-- reads hexadecimal digits, with or without a mark in front, or a sentinel; blanks around them do not count -/
def parse (text : String) : Except Error Int :=
  match strip text.toList with
  | '-' :: digits =>
    if digits.isEmpty || !digits.all isAsciiDigit then .error (.malformed text)
    else match ofDecimal digits with
      | .ok n => .ok (-(n : Int))
      | .error e => .error (.numeral e)
  | s =>
    let digits := (afterHexMark? s).getD s
    if isHexNumeral digits then .ok (ofHex digits) else .error (.malformed text)

/-- the unsigned value that a sentinel denotes in a word of `width` bits; an address denotes itself -/
def unsignedView (a : Int) (width : Nat := 64) : Int := if 0 ≤ a then a else masked a ((1 <<< width) - 1)

/-- the unsigned value at a width that may turn out to be none -/
def unsignedViewAt (a width : Int) : Except Error Int :=
  if a < 0 ∧ width < 0 then .error .negativeWidth else .ok (unsignedView a width.toNat)

/-- a sentinel as it is sent, with the unsigned address it denotes if it is negative -/
def describe (a : Int) : Except Numeral.Error String := do
  let text ← format a
  return if a < 0 then text ++ " (" ++ hexText (unsignedView a) ++ ")" else text

end DebugFind.Address
