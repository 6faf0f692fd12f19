/-
What can be wrong with a pattern. Most problems have a place; it is told as an offset, with line and column added when the
pattern has several lines.
-/
import DebugFind.Numeral.Decimal

namespace DebugFind.Pattern

open DebugFind.Text

/-- what is wrong with a pattern's text -/
inductive Problem where
  | unterminatedGroup
  | unterminatedComment
  | unbalancedParenthesis
  | nothingToRepeat
  | multipleRepeat
  | leastAboveMost
  | unterminatedSet
  | badRange (first last : String)
  | danglingEscape
  | badEscape (text : String)
  | incompleteEscape (text : String)
  | octalTooLarge (text : String)
  | missingBrace
  | unknownCharacterName (name : String)
  | missingName (what : String)
  | unterminatedName (terminator : Char)
  | badGroupName (name : String)
  | unknownGroupName (name : String)
  | openGroup
  | groupOfSameLookBehind
  | invalidGroup (index : Nat)
  | groupZero
  | redefinedGroup (name : String) (index before : Nat)
  | unknownExtension (text : String)
  | endOfPattern
  | unknownFlag
  | missingFlag
  | missingFlagEnd
  | missingColon
  | localeFlag
  | incompatibleFlags
  | globalFlagOn
  | globalFlagOff
  | typeFlagOff
  | flagOnAndOff
  | lateGlobalFlags
  | tooManyBranches
  | lookBehindWidth
  | templateLoop (mode : String)
deriving DecidableEq, Repr

def Problem.message : Problem → String
  | .unterminatedGroup => "missing ), unterminated subpattern"
  | .unterminatedComment => "missing ), unterminated comment"
  | .unbalancedParenthesis => "unbalanced parenthesis"
  | .nothingToRepeat => "nothing to repeat"
  | .multipleRepeat => "multiple repeat"
  | .leastAboveMost => "min repeat greater than max repeat"
  | .unterminatedSet => "unterminated character set"
  | .badRange first last => "bad character range " ++ first ++ "-" ++ last
  | .danglingEscape => "bad escape (end of pattern)"
  | .badEscape text => "bad escape " ++ text
  | .incompleteEscape text => "incomplete escape " ++ text
  | .octalTooLarge text => "octal escape value " ++ text ++ " outside of range 0-0o377"
  | .missingBrace => "missing \x7b"
  | .unknownCharacterName name => "undefined character name " ++ quoted name
  | .missingName what => "missing " ++ what
  | .unterminatedName terminator => "missing " ++ String.ofList [terminator] ++ ", unterminated name"
  | .badGroupName name => "bad character in group name " ++ quoted name
  | .unknownGroupName name => "unknown group name " ++ quoted name
  | .openGroup => "cannot refer to an open group"
  | .groupOfSameLookBehind => "cannot refer to group defined in the same lookbehind subpattern"
  | .invalidGroup index => "invalid group reference " ++ toString index
  | .groupZero => "bad group number"
  | .redefinedGroup name index before =>
    "redefinition of group name " ++ quoted name ++ " as group " ++ toString index ++ "; was group " ++ toString before
  | .unknownExtension text => "unknown extension " ++ text
  | .endOfPattern => "unexpected end of pattern"
  | .unknownFlag => "unknown flag"
  | .missingFlag => "missing flag"
  | .missingFlagEnd => "missing -, : or )"
  | .missingColon => "missing :"
  | .localeFlag => "bad inline flags: cannot use 'L' flag with a str pattern"
  | .incompatibleFlags => "bad inline flags: flags 'a', 'u' and 'L' are incompatible"
  | .globalFlagOn => "bad inline flags: cannot turn on global flag"
  | .globalFlagOff => "bad inline flags: cannot turn off global flag"
  | .typeFlagOff => "bad inline flags: cannot turn off flags 'a', 'u' and 'L'"
  | .flagOnAndOff => "bad inline flags: flag turned on and off"
  | .lateGlobalFlags => "global flags not at the start of the expression"
  | .tooManyBranches => "conditional backref with more than two branches"
  | .lookBehindWidth => "look-behind requires fixed-width pattern"
  | .templateLoop mode => "internal: unsupported template operator " ++ mode

/-- a place in a pattern -/
structure Place where
  offset : Nat
  /-- line and column, in a pattern of several lines -/
  lineColumn : Option (Nat × Nat)
deriving DecidableEq, Repr

/-- the place at an offset of a pattern -/
def Place.at (pattern : List Char) (offset : Nat) : Place :=
  let before := pattern.take offset
  ⟨offset, if pattern.contains '\n' then
      some (before.count '\n' + 1, (before.reverse.takeWhile (· != '\n')).length + 1) else none⟩

def Place.text (p : Place) : String :=
  " at position " ++ toString p.offset ++
    match p.lineColumn with
    | none => ""
    | some (line, column) => " (line " ++ toString line ++ ", column " ++ toString column ++ ")"

/-- why a pattern cannot be used -/
inductive Error where
  | malformed (problem : Problem) (place : Option Place)
  /-- a repetition count is beyond the digit limit -/
  | numeral (e : Numeral.Error)
  /-- a repetition count is beyond what can be counted -/
  | countTooLarge
  /-- a look behind reaches further than can be counted -/
  | reachTooFar
  /-- the classes are asked to be of ASCII and of all characters at once -/
  | asciiAndUnicode
  /-- there is no room to compile the pattern; the message is the runtime's -/
  | tooDeep (message : String)
deriving DecidableEq, Repr

def Error.message : Error → String
  | .malformed problem none => problem.message
  | .malformed problem (some place) => problem.message ++ place.text
  | .numeral e => e.message
  | .countTooLarge => "the repetition number is too large"
  | .reachTooFar => "invalid SRE code"
  | .asciiAndUnicode => "ASCII and UNICODE flags are incompatible"
  | .tooDeep message => message

end DebugFind.Pattern
