/-
A listing in which a pattern found no address.
-/
import DebugFind.Extraction.Pattern

namespace DebugFind

open DebugFind.Text

/-- why a pattern found no address in a text; without a reason no line matched -/
structure ExtractionFailure where
  pattern : ExtractionPattern
  text : String
  reason : Option String
deriving DecidableEq

namespace ExtractionFailure

/-- the reason that a matching line captured something else than hexadecimal digits, or nothing -/
def notHexReason (name : String) (captured : Option (List Char)) (line : List Char) : String :=
  "Pattern '" ++ name ++ "' captured non-hex address " ++ (captured.elim "None" fun c => String.ofList (quote c)) ++
    " on line " ++ String.ofList (quote line)

/-- what is said first; an empty reason counts as none -/
def summary (f : ExtractionFailure) : String :=
  match f.reason with
  | some reason => if reason.isEmpty then noLine else reason
  | none => noLine
where
  noLine := "Failed to find '" ++ f.pattern.source ++ "' (" ++ f.pattern.name ++ ")"

def message (f : ExtractionFailure) : String := f.summary ++ " in output:\n" ++ f.text

end ExtractionFailure

end DebugFind
