/-
Fields of an object as the inspected process describes them. After a header line, each field has a line like

     - private 'myInt' 'I' @12  12345 (0x00003039)

with its modifiers, name, type tag, offset and value. Other lines are passed over, and a further header changes nothing.

A `FieldExpectation` is a field that an object should have. Its value matches as a decimal numeral, followed by a
hexadecimal hint in parentheses unless the value is a single digit.
-/
import DebugFind.Numeral.Decimal
import DebugFind.Numeral.Mask
import DebugFind.Text.Lines
import DebugFind.Text.Search

namespace DebugFind

open DebugFind.Text DebugFind.Numeral

/-- one field of an object description -/
structure ObjectField where
  modifiers : List String
  name : String
  typeTag : String
  offset : Nat
  value : String
deriving DecidableEq, Repr

namespace ObjectField

/-- what a header line of a fields section contains -/
def headerMarker : String := " - ---- fields (total size"

/-- the words of small letters at the front of a text, each with one space behind it, and what follows them -/
def takeModifiers (word : List Char) : List Char → List String × List Char
  | [] => ([], word.reverse)
  | c :: rest =>
    if 'a' ≤ c ∧ c ≤ 'z' then takeModifiers (c :: word) rest
    else if c = ' ' ∧ word ≠ [] then
      let (modifiers, rest) := takeModifiers [] rest
      (String.ofList word.reverse :: modifiers, rest)
    else ([], word.reverse ++ c :: rest)

/-- a text between apostrophes at the front, and what follows it; an empty one does not count -/
def takeQuoted? : List Char → Option (String × List Char)
  | '\'' :: rest =>
    match rest.span (· != '\'') with
    | (c :: text, _ :: rest) => some (String.ofList (c :: text), rest)
    | _ => none
  | _ => none

/-- the parts of a field line, its offset still as digits -/
def split? (line : List Char) : Option (List String × String × String × List Char × List Char) :=
  match stripLeft line with
  | '-' :: ' ' :: rest => do
    let (modifiers, rest) := takeModifiers [] rest
    let (name, rest) ← takeQuoted? rest
    match rest with
    | ' ' :: rest =>
      let (typeTag, rest) ← takeQuoted? rest
      match rest with
      | ' ' :: '@' :: rest =>
        let (digits, rest) := rest.span isDecimalDigit
        if digits.isEmpty || !(rest.head?.any isBlank) then none
        else some (modifiers, name, typeTag, digits, strip rest)
      | _ => none
    | _ => none
  | _ => none

/-- the field that a line describes, if it describes one; its offset may be too long to be read -/
def ofLine (line : List Char) : Except Numeral.Error (Option ObjectField) :=
  match split? line with
  | none => .ok none
  | some (modifiers, name, typeTag, digits, value) => do
    let offset ← ofDecimal digits
    return some ⟨modifiers, name, typeTag, offset, String.ofList value⟩

/-- the fields that lines describe; `afterHeader` tells whether a header has been met -/
def ofLines (afterHeader : Bool) : List (List Char) → Except Numeral.Error (List ObjectField)
  | [] => .ok []
  | line :: rest =>
    if occurs headerMarker.toList line then ofLines true rest
    else if afterHeader then do
      let field ← ofLine line
      let fields ← ofLines true rest
      return field.toList ++ fields
    else ofLines false rest

/-- the fields that a text describes, in order -/
def ofText (text : String) : Except Numeral.Error (List ObjectField) := ofLines false (lines text.toList)

end ObjectField

/-- a field with a whole number that an object is expected to have -/
structure FieldExpectation where
  name : String := "myInt"
  typeTag : String := "I"
  value : Int := 12345
deriving DecidableEq, Repr

namespace FieldExpectation

/-- the least value of a field of 32 bits -/
def leastValue : Int := -Nat.pow 2 31

/-- the greatest one -/
def greatestValue : Int := Nat.pow 2 31 - 1

/-- whether the value is printed without a hexadecimal hint -/
def isSingleDigit (e : FieldExpectation) : Bool := 0 ≤ e.value && e.value ≤ 9

/-- the value that the hint shows: that of a word of 32 bits if it is negative -/
def hintValue (e : FieldExpectation) : Int := if e.value < 0 then masked e.value 0xffffffff else e.value

/-- the hexadecimal hint -/
def hint (e : FieldExpectation) : String := hexText e.hintValue

/-- whether a text is a numeral in any case, with any number of zeros in front of it -/
def spells (numeral text : List Char) : Bool :=
  let zeros := text.length - numeral.length
  numeral.length ≤ text.length && (text.take zeros).all (· == '0') && (text.drop zeros).map Char.toLower == numeral

/-- whether a text is a number in parentheses, in hexadecimal with its mark -/
def isHintFor (n : Nat) (text : List Char) : Bool :=
  match text with
  | '(' :: rest =>
    match afterHexMark? rest with
    | some digits => digits.getLast? == some ')' && spells (hexDigits n) digits.dropLast
    | none => false
  | _ => false

/-- the expectation in words -/
def describe (e : FieldExpectation) : Except Numeral.Error String := do
  let value ← Numeral.write e.value
  return "field '" ++ e.name ++ "' '" ++ e.typeTag ++ "' = " ++ value ++
    (if e.isSingleDigit then "" else " (" ++ e.hint ++ ")")

/-- whether a text shows the expected value -/
def acceptsValue (e : FieldExpectation) (text : String) : Except Numeral.Error Bool := do
  let value ← Numeral.write e.value
  if e.isSingleDigit then return text == value
  else
    match (value.toList ++ [' ']).isPrefixOf? text.toList with
    | some hint => return isHintFor e.hintValue.toNat hint
    | none => return false

/-- whether a field has the expected name, type and value -/
def accepts (e : FieldExpectation) (field : ObjectField) : Except Numeral.Error Bool :=
  if field.name == e.name && field.typeTag == e.typeTag then e.acceptsValue field.value else .ok false

/-- whether one of the fields is the expected one -/
def isAmong (e : FieldExpectation) : List ObjectField → Except Numeral.Error Bool
  | [] => .ok false
  | field :: rest => do if ← e.accepts field then return true else e.isAmong rest

end FieldExpectation

end DebugFind
