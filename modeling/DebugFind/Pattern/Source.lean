/-
The text of a pattern while it is read. It is read by tokens: a character, or a backslash with the character behind it.
The token after the one being taken is looked at at once, so a backslash that ends the pattern is refused as soon as the
token before it has been taken, whatever that token would have meant.
-/
import DebugFind.Pattern.Error
import DebugFind.Pattern.Node

namespace DebugFind.Pattern

/-- the switches of a pattern -/
structure Flags where
  ignoreCase : Bool := false
  multiline : Bool := false
  dotAll : Bool := false
  verbose : Bool := false
  ascii : Bool := false
  unicode : Bool := false
  template : Bool := false
deriving DecidableEq, Repr

namespace Flags

def union (a b : Flags) : Flags :=
  ⟨a.ignoreCase || b.ignoreCase, a.multiline || b.multiline, a.dotAll || b.dotAll, a.verbose || b.verbose,
    a.ascii || b.ascii, a.unicode || b.unicode, a.template || b.template⟩

def minus (a b : Flags) : Flags :=
  ⟨a.ignoreCase && !b.ignoreCase, a.multiline && !b.multiline, a.dotAll && !b.dotAll, a.verbose && !b.verbose,
    a.ascii && !b.ascii, a.unicode && !b.unicode, a.template && !b.template⟩

def meets (a b : Flags) : Bool :=
  (a.ignoreCase && b.ignoreCase) || (a.multiline && b.multiline) || (a.dotAll && b.dotAll) ||
    (a.verbose && b.verbose) || (a.ascii && b.ascii) || (a.unicode && b.unicode) || (a.template && b.template)

/-- whether the reach of the classes is set -/
def hasType (f : Flags) : Bool := f.ascii || f.unicode

/-- the switches inside a group that turns some on and some off -/
def within (f add remove : Flags) : Flags :=
  let f := if add.hasType then { f with ascii := false, unicode := false } else f
  (f.union add).minus remove

/-- how letters are compared -/
def folding (f : Flags) : Folding := if !f.ignoreCase then .exact else if f.ascii then .ascii else .unicode

/-- the switch that a letter names; `L` names one that texts do not have -/
def ofChar? : Char → Option Flags
  | 'i' => some { ignoreCase := true }
  | 'm' => some { multiline := true }
  | 's' => some { dotAll := true }
  | 'x' => some { verbose := true }
  | 'a' => some { ascii := true }
  | 'u' => some { unicode := true }
  | 't' => some { template := true }
  | 'L' => some {}
  | _ => none

end Flags

/-- what is known while a pattern is read -/
structure Reader where
  pattern : List Char
  /-- how many characters have been taken -/
  offset : Nat := 0
  rest : List Char
  /-- the code point of the character that bears a name -/
  characterNamed? : List Char → Option Nat
  /-- the switches set for the whole pattern -/
  flags : Flags := {}
  names : List (String × Nat) := []
  /-- the widths of the groups in order, none while a group is open -/
  widths : List (Option Width) := []
  /-- inside a look behind, the number of the first group opened in it -/
  lookBehindFrom : Option Nat := none
  /-- groups that conditions asked for by number, with the place of the first request -/
  asked : List (Nat × Nat) := []

/-- a step of reading a pattern -/
abbrev Reading := StateT Reader (Except Error)

/-- the token at the front of a text, nothing at its end -/
def tokenOf : List Char → List Char
  | [] => []
  | '\\' :: c :: _ => ['\\', c]
  | c :: _ => [c]

/-- refuses the pattern for a problem found `back` characters before the next token -/
def refuse {α : Type} (problem : Problem) (back : Nat := 0) : Reading α := do
  let r ← get
  throw (.malformed problem (some (Place.at r.pattern (r.offset - back))))

/-- refuses a lone backslash at the end -/
def lookAhead : Reading Unit := do
  let r ← get
  if r.rest == ['\\'] then
    throw (.malformed .danglingEscape (some (Place.at r.pattern (r.pattern.length - 1))))

/-- the next token, not taken -/
def peek : Reading (List Char) := return tokenOf (← get).rest

/-- takes the next token -/
def next : Reading (List Char) := do
  let r ← get
  let token := tokenOf r.rest
  set { r with offset := r.offset + token.length, rest := r.rest.drop token.length }
  lookAhead
  return token

/-- takes the next token if it is the given character -/
def accept (c : Char) : Reading Bool := do
  if (← peek) == [c] then
    let _ ← next
    return true
  else return false

/-- takes up to `n` characters that pass a test -/
def takeUpTo (p : Char → Bool) : Nat → Reading (List Char)
  | 0 => return []
  | n + 1 => do
    match ← peek with
    | [c] =>
      if p c then
        let _ ← next
        return c :: (← takeUpTo p n)
      else return []
    | _ => return []

/-- takes characters while they pass a test -/
def takeAll (p : Char → Bool) : Reading (List Char) := do takeUpTo p (← get).rest.length

/-- reads a name up to a terminator; `soFar` is what has been read, the number bounds the tokens left -/
def nameUntil (terminator : Char) (what : String) (soFar : List Char) : Nat → Reading (List Char)
  | 0 => refuse (.missingName what)
  | fuel + 1 => do
    let token ← next
    if token.isEmpty then
      if soFar.isEmpty then refuse (.missingName what) else refuse (.unterminatedName terminator) soFar.length
    else if token == [terminator] then
      if soFar.isEmpty then refuse (.missingName what) 1 else return soFar
    else nameUntil terminator what (soFar ++ token) fuel

/-- reads a name up to a terminator -/
def readName (terminator : Char) (what : String) : Reading (List Char) := do
  nameUntil terminator what [] ((← get).rest.length + 1)

namespace Reader

/-- how many groups there are, the whole match counted -/
def groups (r : Reader) : Nat := r.widths.length + 1

/-- the width of a group that is closed -/
def width? (r : Reader) (group : Nat) : Option Width :=
  if group = 0 then none else (r.widths[group - 1]?).join

def named? (r : Reader) (name : List Char) : Option Nat :=
  (r.names.find? (·.1 == String.ofList name)).map (·.2)

end Reader

end DebugFind.Pattern
