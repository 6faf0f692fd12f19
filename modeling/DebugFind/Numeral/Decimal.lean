/-
Decimal numerals and their length limit. A whole number of more than 4300 digits is neither written nor read in decimal.

Reading takes the digits of any script, a sign, single underscores between digits, and blanks around the numeral. The
limit is checked as soon as the run of digits has been scanned, so a long run wins over what stands behind it.
-/
import DebugFind.Numeral.Hex
import DebugFind.Text.Blank
import DebugFind.Text.Digit
import DebugFind.Text.Quoted

namespace DebugFind.Numeral

open DebugFind.Text

/-- the largest number of decimal digits that is written or read -/
def digitLimit : Nat := 4300

/-- why a decimal numeral cannot be written or read -/
inductive Error where
  /-- the number has too many digits to be written -/
  | tooLongToWrite
  /-- the numeral has this many digits, too many to be read -/
  | tooLongToRead (digits : Nat)
  /-- the text is no numeral -/
  | malformed (text : String)
deriving DecidableEq, Repr

def Error.message : Error → String
  | .tooLongToWrite =>
    "Exceeds the limit (4300 digits) for integer string conversion; use sys.set_int_max_str_digits() to increase the limit"
  | .tooLongToRead digits =>
    "Exceeds the limit (4300 digits) for integer string conversion: value has " ++ toString digits ++
      " digits; use sys.set_int_max_str_digits() to increase the limit"
  | .malformed text =>
    "invalid literal for int() with base 10: " ++ String.ofList ((quote text.toList).take 200)

/-- the decimal digits of a number -/
def decimalDigits (n : Nat) : List Char := Nat.toDigits 10 n

/-- a number in decimal, whatever its length -/
def decimal (n : Int) : List Char := if n < 0 then '-' :: decimalDigits n.natAbs else decimalDigits n.natAbs

/-- a number in decimal, if it is short enough to be written -/
def write (n : Int) : Except Error String :=
  if (decimalDigits n.natAbs).length ≤ digitLimit then .ok (String.ofList (decimal n)) else .error .tooLongToWrite

/-- the value of a run of decimal digits, if it is short enough to be read -/
def ofDecimalDigits (digits : List Nat) : Except Error Nat :=
  if digits.length ≤ digitLimit then .ok (ofDigits 10 digits) else .error (.tooLongToRead digits.length)

/-- the value of a run of decimal digits of any script -/
def ofDecimal (s : List Char) : Except Error Nat := ofDecimalDigits (s.filterMap digitValue?)

/-- blanks that may stand around a numeral; the information separators may not -/
def isNumeralBlank (c : Char) : Bool := isBlank c && !('\x1c' ≤ c && c ≤ '\x1f')

/-- whether underscores stand only between digits; `after` tells whether a digit came just before -/
def underscoresInside (after : Bool) : List Char → Bool
  | [] => true
  | c :: rest => if c == '_' then after && !rest.isEmpty && underscoresInside false rest else underscoresInside true rest

/-- reads a signed decimal numeral -/
def read (text : String) : Except Error Int :=
  let s := ((text.toList.dropWhile isNumeralBlank).reverse.dropWhile isNumeralBlank).reverse
  let (negative, body) := match s with
    | '-' :: rest => (true, rest)
    | '+' :: rest => (false, rest)
    | rest => (false, rest)
  let inRun := fun c => isDecimalDigit c || c == '_'
  let run := body.takeWhile inRun
  if underscoresInside false run then do
    let n ← ofDecimal run
    if run.isEmpty || !(body.dropWhile inRun).isEmpty then .error (.malformed text)
    else .ok (if negative then -(n : Int) else n)
  else .error (.malformed text)

end DebugFind.Numeral
