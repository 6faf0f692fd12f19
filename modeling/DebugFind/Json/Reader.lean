/-
Reading JSON text. Besides the standard grammar the words `NaN`, `Infinity` and `-Infinity` are numbers. A fault names the
place where reading stopped: the text that was left, from which line, column and offset follow.

Two limits apply that are no faults of syntax: a whole number of too many digits, and values nested too deeply. How deeply
is for the surroundings to say. And a string is a sequence of characters here, so one that holds half of a surrogate pair
is not read.
-/
import DebugFind.Json.Value
import DebugFind.Numeral.Decimal

namespace DebugFind.Json

open DebugFind.Text DebugFind.Numeral

/-- what is wrong with a text -/
inductive Problem where
  | expectingValue
  | expectingName
  | expectingColon
  | expectingComma
  | extraData
  | unterminatedString
  | controlCharacter
  | badEscape
  | badUnicodeEscape
deriving DecidableEq, Repr

def Problem.message : Problem → String
  | .expectingValue => "Expecting value"
  | .expectingName => "Expecting property name enclosed in double quotes"
  | .expectingColon => "Expecting ':' delimiter"
  | .expectingComma => "Expecting ',' delimiter"
  | .extraData => "Extra data"
  | .unterminatedString => "Unterminated string starting at"
  | .controlCharacter => "Invalid control character at"
  | .badEscape => "Invalid \\escape"
  | .badUnicodeEscape => "Invalid \\uXXXX escape"

/-- a place in a text: line and column from one, offset from zero -/
structure Place where
  line : Nat
  column : Nat
  offset : Nat
deriving DecidableEq, Repr

/-- the place at an offset -/
def Place.at (text : List Char) (offset : Nat) : Place :=
  let before := text.take offset
  ⟨before.count '\n' + 1, (before.reverse.takeWhile (· != '\n')).length + 1, offset⟩

/-- why a text cannot be read as JSON -/
inductive Error where
  | malformed (problem : Problem) (place : Place)
  /-- a whole number is beyond the digit limit -/
  | numeral (e : Numeral.Error)
  /-- there is no room for values nested as deeply; the message is the surroundings' -/
  | tooDeep (message : String)
  /-- a string holds half of a surrogate pair, which is no character -/
  | loneSurrogate
deriving DecidableEq, Repr

def Error.message : Error → String
  | .malformed problem place =>
    problem.message ++ ": line " ++ toString place.line ++ " column " ++ toString place.column ++
      " (char " ++ toString place.offset ++ ")"
  | .numeral e => e.message
  | .tooDeep message => message
  | .loneSurrogate => "half of a surrogate pair in a string"

/-- what is said of a value one level too deep -/
def Kind.depthMessage (kind : Kind) : String :=
  "maximum recursion depth exceeded while decoding a JSON " ++ (if kind = .array then "array" else "object") ++
    " from a unicode string"

/-- a fault met while reading, with the text left at the place it belongs to -/
inductive Fault where
  | malformed (problem : Problem) (rest : List Char)
  | numeral (e : Numeral.Error)
  /-- more levels than are allowed; the kind is that of the value one level too deep -/
  | tooDeep (kind : Kind)
  | loneSurrogate

/-- whether an array or an object begins with a character -/
def isOpening (c : Char) : Bool := c == '[' || c == '{'

def isJsonBlank (c : Char) : Bool := c == ' ' || c == '\t' || c == '\n' || c == '\r'

def skipBlanks (s : List Char) : List Char := s.dropWhile isJsonBlank

/-- the value of four hexadecimal digits -/
def hexQuad? (a b c d : Char) : Option Nat :=
  if isHexNumeral [a, b, c, d] then some (ofHex [a, b, c, d]) else none

/-- the character that a backslash and a letter stand for -/
def escape? : Char → Option Char
  | '"' => some '"'
  | '\\' => some '\\'
  | '/' => some '/'
  | 'b' => some '\x08'
  | 'f' => some '\x0c'
  | 'n' => some '\n'
  | 'r' => some '\r'
  | 't' => some '\t'
  | _ => none

def isHighHalf (n : Nat) : Bool := 0xd800 ≤ n && n ≤ 0xdbff

def isLowHalf (n : Nat) : Bool := 0xdc00 ≤ n && n ≤ 0xdfff

/-- the character of a code point, none for half of a surrogate pair -/
def codeChar? (n : Nat) : Option Char := if isHighHalf n || isLowHalf n then none else some (Char.ofNat n)

/-- reads a string after its opening quote; `start` is the text at that quote, `soFar` the part before, in reverse -/
def readString (start soFar : List Char) : List Char → Except Fault (String × List Char)
  | [] => .error (.malformed .unterminatedString start)
  | '"' :: rest => .ok (String.ofList soFar.reverse, rest)
  | ['\\'] => .error (.malformed .unterminatedString start)
  | '\\' :: 'u' :: a :: b :: c :: d :: '\\' :: 'u' :: e :: f :: g :: h :: rest =>
    match hexQuad? a b c d with
    | none => .error (.malformed .badUnicodeEscape ('u' :: a :: b :: c :: d :: '\\' :: 'u' :: e :: f :: g :: h :: rest))
    | some hi =>
      if isHighHalf hi && !rest.isEmpty then
        match hexQuad? e f g h with
        | none => .error (.malformed .badUnicodeEscape ('u' :: e :: f :: g :: h :: rest))
        | some lo =>
          if isLowHalf lo then
            readString start (Char.ofNat (0x10000 + (hi - 0xd800) * 0x400 + (lo - 0xdc00)) :: soFar) rest
          else .error .loneSurrogate
      else
        match codeChar? hi with
        | some x => readString start (x :: soFar) ('\\' :: 'u' :: e :: f :: g :: h :: rest)
        | none => .error .loneSurrogate
  | '\\' :: 'u' :: a :: b :: c :: d :: next :: rest =>
    match hexQuad? a b c d with
    | none => .error (.malformed .badUnicodeEscape ('u' :: a :: b :: c :: d :: next :: rest))
    | some n =>
      match codeChar? n with
      | some x => readString start (x :: soFar) (next :: rest)
      | none => .error .loneSurrogate
  | '\\' :: 'u' :: rest => .error (.malformed .badUnicodeEscape ('u' :: rest))
  | '\\' :: c :: rest =>
    match escape? c with
    | some x => readString start (x :: soFar) rest
    | none => .error (.malformed .badEscape ('\\' :: c :: rest))
  | c :: rest =>
    if c.toNat < 0x20 then .error (.malformed .controlCharacter (c :: rest))
    else readString start (c :: soFar) rest

/-- the integer digits of a number: a zero alone, or a run that starts with another digit -/
def readIntegerDigits : List Char → List Char × List Char
  | '0' :: rest => (['0'], rest)
  | s => (s.takeWhile isAsciiDigit, s.dropWhile isAsciiDigit)

/-- the fraction digits of a number, empty if there is no point with a digit after it -/
def readFraction : List Char → List Char × List Char
  | '.' :: d :: rest =>
    if isAsciiDigit d then (d :: rest.takeWhile isAsciiDigit, rest.dropWhile isAsciiDigit) else ([], '.' :: d :: rest)
  | s => ([], s)

/-- the exponent of a number, none if the mark is not followed by digits -/
def readExponent (s : List Char) : Option Int × List Char :=
  match s with
  | mark :: rest =>
    if mark == 'e' || mark == 'E' then
      let (negative, digits) := match rest with
        | '-' :: r => (true, r)
        | '+' :: r => (false, r)
        | r => (false, r)
      let run := digits.takeWhile isAsciiDigit
      if run.isEmpty then (none, s)
      else
        let e : Int := ofDigits 10 (run.filterMap digitValue?)
        (some (if negative then -e else e), digits.dropWhile isAsciiDigit)
    else (none, s)
  | [] => (none, s)

/-- reads a number; without a digit in front there is none -/
def readNumber (s : List Char) : Except Fault (Json × List Char) :=
  let (negative, body) := match s with
    | '-' :: rest => (true, rest)
    | rest => (false, rest)
  let (whole, rest) := readIntegerDigits body
  let (fraction, rest) := readFraction rest
  let (e, rest) := readExponent rest
  if whole.isEmpty then .error (.malformed .expectingValue s)
  else if fraction.isEmpty && e.isNone then
    match ofDecimal whole with
    | .ok n => .ok (.int (if negative then -(n : Int) else n), rest)
    | .error err => .error (.numeral err)
  else
    let digits := ofDigits 10 ((whole ++ fraction).filterMap digitValue?)
    .ok (.float (Binary64.ofDecimal negative digits (e.getD 0 - fraction.length)), rest)

/-- a word that is a value, with what follows it -/
def readWord? (s : List Char) : Option (Json × List Char) :=
  let words : List (String × Json) :=
    [("null", .null), ("true", .bool true), ("false", .bool false), ("NaN", .float .nan),
      ("Infinity", .float (.infinity false)), ("-Infinity", .float (.infinity true))]
  (words.find? fun w => w.1.toList.isPrefixOf s).map fun w => (w.2, s.drop w.1.length)

mutual

/-- reads a value; the first argument bounds the steps, the second the depth still allowed -/
def readValue : Nat → Nat → List Char → Except Fault (Json × List Char)
  | 0, _, s => .error (.malformed .expectingValue s)
  | fuel + 1, depth, s =>
    match s with
    | '"' :: rest => do
      let (text, rest) ← readString s [] rest
      .ok (.string text, rest)
    | '{' :: rest =>
      match depth with
      | 0 => .error (.tooDeep .object)
      | depth + 1 =>
        match skipBlanks rest with
        | '}' :: rest => .ok (.object [], rest)
        | rest => readMembers fuel depth [] rest
    | '[' :: rest =>
      match depth with
      | 0 => .error (.tooDeep .array)
      | depth + 1 =>
        match skipBlanks rest with
        | ']' :: rest => .ok (.array [], rest)
        | rest => readItems fuel depth [] rest
    | _ =>
      match readWord? s with
      | some answer => .ok answer
      | none => readNumber s

/-- reads the members of an object from a name on; `soFar` are those before, in reverse -/
def readMembers : Nat → Nat → List (String × Json) → List Char → Except Fault (Json × List Char)
  | 0, _, _, s => .error (.malformed .expectingName s)
  | fuel + 1, depth, soFar, s =>
    match s with
    | '"' :: rest => do
      let (name, rest) ← readString s [] rest
      match skipBlanks rest with
      | ':' :: rest =>
        let (value, rest) ← readValue fuel depth (skipBlanks rest)
        let soFar := (name, value) :: soFar
        match skipBlanks rest with
        | '}' :: rest => .ok (.object soFar.reverse, rest)
        | ',' :: rest => readMembers fuel depth soFar (skipBlanks rest)
        | rest => .error (.malformed .expectingComma rest)
      | rest => .error (.malformed .expectingColon rest)
    | _ => .error (.malformed .expectingName s)

/-- reads the items of an array from a value on; `soFar` are those before, in reverse -/
def readItems : Nat → Nat → List Json → List Char → Except Fault (Json × List Char)
  | 0, _, _, s => .error (.malformed .expectingValue s)
  | fuel + 1, depth, soFar, s => do
    let (value, rest) ← readValue fuel depth s
    let soFar := value :: soFar
    match skipBlanks rest with
    | ']' :: rest => .ok (.array soFar.reverse, rest)
    | ',' :: rest => readItems fuel depth soFar (skipBlanks rest)
    | rest => .error (.malformed .expectingComma rest)

end

/-- reads a whole text: one value with blanks around it, nested up to so many levels -/
def readText (levels : Nat) (s : List Char) : Except Fault (Json × List Char) := do
  let (value, rest) ← readValue (2 * s.length + 2) levels (skipBlanks s)
  match skipBlanks rest with
  | [] => .ok (value, [])
  | rest => .error (.malformed .extraData rest)

/-- the value that a text spells, if there is room for its levels, of which a text has no more than characters -/
def read (overflow? : String → Option String) (text : String) : Except Error Json :=
  let s := text.toList
  match overflow? text with
  | some message => .error (.tooDeep message)
  | none =>
    match readText s.length s with
    | .ok (value, _) => .ok value
    | .error (.malformed problem rest) => .error (.malformed problem (Place.at s (s.length - rest.length)))
    | .error (.numeral e) => .error (.numeral e)
    | .error (.tooDeep kind) => .error (.tooDeep kind.depthMessage)
    | .error .loneSurrogate => .error .loneSurrogate

end DebugFind.Json
