/-
Reading a profile from the bytes of its file: ASCII text with any line ends, then JSON, then the sections one after the
other. The first thing that is wrong decides. A truth value is never taken for a number.

What the runtime is asked for is passed on to the readers of JSON and of patterns. A file with a string that holds half of
a surrogate pair is not read, since that is no text here.
-/
import DebugFind.Address
import DebugFind.Profile.Basic
import DebugFind.Profile.Error
import DebugFind.Seconds
import DebugFind.Text.Lines

namespace DebugFind.Profile

open DebugFind.Text DebugFind.Numeral

/-- an object of the file, with the name that messages use for it -/
structure Section where
  place : String
  members : List (String × Json)

/-- a value, or what is wrong -/
abbrev Reading := Except Fault

def refuse {α : Type} (e : Error) : Reading α := .error (.invalid e)

namespace Section

/-- the value of a key that has to be there -/
def value (s : Section) (key : String) : Reading Json :=
  match Json.member? s.members key with
  | some v => .ok v
  | none => refuse (.missingKey key s.place)

/-- refuses a value for its kind -/
def refuseKind {α : Type} (s : Section) (key : String) (expected : List Json.Kind) (v : Json) : Reading α :=
  refuse (.wrongKind key s.place expected v.kind)

def text (s : Section) (key : String) : Reading String := do
  match ← s.value key with
  | .string t => return t
  | v => s.refuseKind key [.string] v

/-- a text without the blanks around it -/
def stripped (s : Section) (key : String) : Reading String := do
  return String.ofList (strip (← s.text key).toList)

def whole (s : Section) (key : String) : Reading Int := do
  match ← s.value key with
  | .int n => return n
  | v => s.refuseKind key [.int] v

def truth (s : Section) (key : String) : Reading Bool := do
  match ← s.value key with
  | .bool b => return b
  | v => s.refuseKind key [.bool] v

def seconds (s : Section) (key : String) : Reading Seconds := do
  match ← s.value key with
  | .int n => return .whole n
  | .float x => return .real x
  | v => s.refuseKind key [.int, .float] v

def items (s : Section) (key : String) : Reading (List Json) := do
  match ← s.value key with
  | .array vs => return vs
  | v => s.refuseKind key [.array] v

/-- an object that a key holds -/
def subsection (s : Section) (key : String) : Reading Section := do
  match ← s.value key with
  | .object members => return ⟨key, members⟩
  | v => s.refuseKind key [.object] v

end Section

/-! ## The sections -/

def readPattern (runtime : Runtime) (s : Section) : Reading ExtractionPattern := do
  let name ← s.stripped "name"
  let source ← s.text "regex"
  let group ← s.whole "group"
  if name.isEmpty then refuse (.emptyName s.place)
  else
    match ExtractionPattern.compile runtime name source group with
    | .ok p => return p
    | .error (.pattern (.tooDeep message)) => throw (.tooDeep message)
    | .error (.pattern .countTooLarge) => throw .countTooLarge
    | .error (.pattern .reachTooFar) => throw .reachTooFar
    | .error (.pattern (.malformed problem place)) => refuse (.patternMalformed s.place (.malformed problem place))
    | .error e => refuse (.patternRefused s.place e)

/-- whether a text is a sentinel as a profile spells it -/
def isSentinel (text : List Char) : Bool :=
  match strip text with
  | '0' :: 'x' :: digits => isHexNumeral digits
  | '-' :: digits => !digits.isEmpty && digits.all isAsciiDigit
  | _ => false

/-- reads sentinels; `index` is the place of the first of them in the list -/
def readSentinels (index : Nat) : List Json → Reading (List Int)
  | [] => return []
  | .string text :: rest =>
    if isSentinel text.toList then
      match Address.parse text with
      | .ok a => return a :: (← readSentinels (index + 1) rest)
      | .error (.numeral e) => throw (.numeral e)
      | .error _ => refuse (.badSentinel index)
    else refuse (.badSentinel index)
  | _ :: _ => refuse (.badSentinel index)

def readSweep (s : Section) : Reading SweepSettings := do
  let lookback ← s.whole "lookback"
  let count ← s.whole "count"
  if lookback < 0 then refuse .negativeLookback
  else if h : 0 < count.toNat then return ⟨lookback.toNat, count.toNat, h⟩
  else refuse .countBelowOne

def readExpectedField (s : Section) : Reading FieldExpectation := do
  let name ← s.stripped "name"
  let typeTag ← s.stripped "type_tag"
  let value ← s.whole "value"
  if name.isEmpty then refuse (.emptyName s.place)
  else if typeTag ≠ "I" then refuse (.foreignTypeTag typeTag)
  else if FieldExpectation.leastValue ≤ value ∧ value ≤ FieldExpectation.greatestValue then
    return { name, typeTag, value }
  else
    match Numeral.write value with
    | .ok text => refuse (.valueTooWide text)
    | .error e => throw (.numeral e)

def readLauncher (s : Section) : Reading LauncherSettings := do
  let executable ← s.stripped "executable"
  let timeout ← s.seconds "timeout_seconds"
  if executable.isEmpty then refuse .emptyExecutable
  else if timeout.nonPositive then refuse .timeoutNotPositive
  else
    match timeout.toBinary64? with
    | some x => return { executable, timeout := x }
    | none => throw .timeoutTooLarge

/-- reads the members of the outermost object -/
def readRoot (runtime : Runtime) (s : Section) : Reading Profile := do
  let version ← s.whole "version"
  if version < 1 then refuse .versionBelowOne
  else
    let threadPattern ← readPattern runtime (← s.subsection "thread_pattern")
    let objectPattern ← readPattern runtime (← s.subsection "object_pattern")
    let listed ← s.items "sentinel_addresses"
    let sentinels ← if listed.isEmpty then refuse .noSentinels else readSentinels 0 listed
    let sweep ← readSweep (← s.subsection "sweep")
    let sweepThreadNeighborhood ← s.truth "sweep_thread_neighborhood"
    let expectedField ← readExpectedField (← s.subsection "expected_field")
    let launcher ← readLauncher (← s.subsection "jcmd")
    return {
      version := version.toNat, threadPattern, objectPattern, sentinels, sweep, sweepThreadNeighborhood,
      expectedField, launcher }

/-! ## Whole files -/

/-- the profile that a JSON value describes -/
def ofJson (runtime : Runtime) (path : String) : Json → Reading Profile
  | .object members => readRoot runtime ⟨"root", members⟩
  | _ => refuse (.notObject path)

/-- the ASCII characters that bytes stand for -/
def ofAscii (bytes : List UInt8) : Reading (List Char) :=
  let ascii := bytes.takeWhile (· < 128)
  match bytes.drop ascii.length with
  | [] => .ok (ascii.map fun b => Char.ofNat b.toNat)
  | b :: _ => .error (.notAscii b ascii.length)

/-- the profile that the text of a file describes -/
def ofText (runtime : Runtime) (path : String) (text : List Char) : Reading Profile :=
  match Json.read runtime.json.overflow? (String.ofList (unifyLineEnds text)) with
  | .ok v => ofJson runtime path v
  | .error (.malformed problem place) => refuse (.notJson path problem place)
  | .error (.numeral e) => .error (.numeral e)
  | .error (.tooDeep message) => .error (.tooDeep message)
  | .error .loneSurrogate => .error .loneSurrogate

/-- the profile that a file holds -/
def ofFile (runtime : Runtime) (path : String) : Except FileError (List UInt8) → Reading Profile
  | .ok bytes => do ofText runtime path (← ofAscii bytes)
  | .error .missing => refuse (.missingFile path)
  | .error (.unreadable kind message) => .error (.unreadable kind message)

end DebugFind.Profile
