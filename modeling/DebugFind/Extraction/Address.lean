/-
The address that a pattern finds in a text. The first line that the pattern matches decides: what is captured there must
be hexadecimal digits, and later lines are not looked at.
-/
import DebugFind.Action

namespace DebugFind

open DebugFind.Text DebugFind.Numeral

namespace ExtractionPattern

/-- what the pattern captures in a line that it matches: none if the group took no part -/
def captureIn? (p : ExtractionPattern) (line : List Char) : Option (Option (List Char)) :=
  (p.pattern.root.search line).map (·.capture? p.group)

/-- the first line that the pattern matches, with what it captures there -/
def firstMatch? (p : ExtractionPattern) : List (List Char) → Option (List Char × Option (List Char))
  | [] => none
  | line :: rest =>
    match p.captureIn? line with
    | some captured => some (line, captured)
    | none => p.firstMatch? rest

/-- the address in a text, with the line it stands on -/
def locate (p : ExtractionPattern) (text : String) : Except ExtractionFailure (Nat × String) :=
  match p.firstMatch? (lines text.toList) with
  | none => .error ⟨p, text, none⟩
  | some (line, captured) =>
    match captured with
    | some digits =>
      if isHexNumeral digits then .ok (ofHex digits, String.ofList line)
      else .error ⟨p, text, some (ExtractionFailure.notHexReason p.name captured line)⟩
    | none => .error ⟨p, text, some (ExtractionFailure.notHexReason p.name captured line)⟩

/-- finds the address in a text, and tells the log where -/
def extract {σ : Type} (p : ExtractionPattern) (text : String) (logger : Logger := .extractor) : Action σ Nat := do
  match p.locate text with
  | .error f => Action.fail (.extraction f)
  | .ok (address, line) =>
    Action.log .info logger ("Matched line: " ++ line)
    Action.log .info logger ("Found '" ++ p.name ++ "', using pointer: " ++ hexText address)
    return address

end ExtractionPattern

end DebugFind
