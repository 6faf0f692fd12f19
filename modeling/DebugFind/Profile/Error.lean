/-
Why a profile file is refused. An `Error` says what is wrong with the profile in words of its own; a `Fault` is that, or a
limit that was met on the way.
-/
import DebugFind.Extraction.Pattern
import DebugFind.Json.Reader

namespace DebugFind.Profile

open DebugFind.Numeral

/-- what is wrong with a profile; `place` names the section -/
inductive Error where
  | missingFile (path : String)
  | notJson (path : String) (problem : Json.Problem) (place : Json.Place)
  | notObject (path : String)
  | missingKey (key place : String)
  | wrongKind (key place : String) (expected : List Json.Kind) (found : Json.Kind)
  | versionBelowOne
  | emptyName (place : String)
  | patternMalformed (place : String) (problem : Pattern.Error)
  | patternRefused (place : String) (problem : ExtractionPattern.Error)
  | noSentinels
  | badSentinel (index : Nat)
  | negativeLookback
  | countBelowOne
  | foreignTypeTag (tag : String)
  | valueTooWide (value : String)
  | emptyExecutable
  | timeoutNotPositive
deriving DecidableEq, Repr

def Error.message : Error → String
  | .missingFile path => "Probe profile not found: " ++ path ++ "."
  | .notJson path problem place =>
    "Probe profile is not valid JSON (" ++ path ++ "): " ++ (Json.Error.malformed problem place).message
  | .notObject path => "Probe profile must be a JSON object: " ++ path ++ "."
  | .missingKey key place => "Missing required key '" ++ key ++ "' in " ++ place ++ "."
  | .wrongKind key place expected found =>
    "Key '" ++ key ++ "' in " ++ place ++ " must be of type " ++ "/".intercalate (expected.map (·.word)) ++
      ", got " ++ found.word ++ "."
  | .versionBelowOne => "Probe profile version must be >= 1."
  | .emptyName place => place ++ ".name cannot be empty."
  | .patternMalformed place problem => place ++ ".regex does not compile: " ++ problem.message
  | .patternRefused place problem => place ++ ": " ++ problem.message
  | .noSentinels => "sentinel_addresses must list at least one address."
  | .badSentinel index =>
    "sentinel_addresses[" ++ toString index ++
      "] must be a hex string like 0x0 or a negative sentinel like -1."
  | .negativeLookback => "sweep.lookback must be >= 0."
  | .countBelowOne => "sweep.count must be >= 1."
  | .foreignTypeTag tag => "expected_field.type_tag must be 'I' (32-bit int), got '" ++ tag ++ "'."
  | .valueTooWide value => "expected_field.value " ++ value ++ " does not fit a 32-bit int."
  | .emptyExecutable => "jcmd.executable cannot be empty."
  | .timeoutNotPositive => "jcmd.timeout_seconds must be > 0."

/-- why a file cannot be read -/
inductive FileError where
  | missing
  /-- another reason, which the host gives -/
  | unreadable (kind message : String)
deriving DecidableEq, Repr

/-- why no profile comes from a file -/
inductive Fault where
  | invalid (e : Error)
  | unreadable (kind message : String)
  /-- a byte that is not ASCII, at an offset -/
  | notAscii (byte : UInt8) (offset : Nat)
  | numeral (e : Numeral.Error)
  /-- values nested too deeply, or groups in a pattern; the message is the runtime's -/
  | tooDeep (message : String)
  /-- a string of the file holds half of a surrogate pair, which is no character -/
  | loneSurrogate
  /-- a repetition count in a pattern that is too large to be kept -/
  | countTooLarge
  /-- a look behind in a pattern that reaches further than can be counted -/
  | reachTooFar
  /-- a timeout beyond the finite floating-point numbers -/
  | timeoutTooLarge
deriving DecidableEq, Repr

def Fault.message : Fault → String
  | .invalid e => e.message
  | .unreadable _ message => message
  | .notAscii byte offset =>
    "'ascii' codec can't decode byte " ++ hexText byte.toNat ++ " in position " ++ toString offset ++
      ": ordinal not in range(128)"
  | .numeral e => e.message
  | .tooDeep message => message
  | .loneSurrogate => Json.Error.loneSurrogate.message
  | .countTooLarge => Pattern.Error.countTooLarge.message
  | .reachTooFar => Pattern.Error.reachTooFar.message
  | .timeoutTooLarge => "int too large to convert to float"

/-- the name of the kind of fault -/
def Fault.title : Fault → String
  | .invalid _ => "ProbeProfileValidationError"
  | .unreadable kind _ => kind
  | .notAscii .. => "UnicodeDecodeError"
  | .numeral _ => "ValueError"
  | .tooDeep _ => "RecursionError"
  | .loneSurrogate => "UnicodeError"
  | .countTooLarge | .timeoutTooLarge => "OverflowError"
  | .reachTooFar => "RuntimeError"

end DebugFind.Profile
