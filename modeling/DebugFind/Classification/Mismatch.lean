/-
A response that is not what it was expected to be: the markers it lacks and the markers it should not have.
-/
import DebugFind.Classification.Basic
import DebugFind.Text.Quoted

namespace DebugFind

open DebugFind.Text

/-- how a response differs from an expected class -/
structure Mismatch where
  expected : Classification
  text : String
  missing : List String
  unexpected : List String
deriving DecidableEq, Repr

namespace Mismatch

/-- a list of markers with a word in front, nothing for an empty list -/
def part (word : String) (markers : List String) : List String :=
  if markers.isEmpty then [] else [word ++ " " ++ quotedList markers]

def message (m : Mismatch) : String :=
  "Expected classification " ++ m.expected.name ++ ": " ++
    "; ".intercalate (part "missing" m.missing ++ part "unexpected" m.unexpected) ++ ". Response:\n" ++ m.text

end Mismatch

end DebugFind
