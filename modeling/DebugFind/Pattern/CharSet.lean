/-
Sets of characters in patterns: single code points, ranges and classes, possibly negated, with the treatment of case and
the reach of the classes fixed in the set itself. A code point may be one that no character has (half a surrogate pair);
it then matches nothing.

Where all letters match in either case, a set of one code point covers all its twins. Among further entries, a code point
beyond the basic plane covers only the characters of which it is the lower case; a capital there covers nothing. Where ASCII
letters alone match in either case, a range that ends beyond the basic plane still covers what has its upper case in it.
-/
import DebugFind.Text.Blank
import DebugFind.Text.Case
import DebugFind.Text.Letter

namespace DebugFind.Pattern

open DebugFind.Text

/-- how case is treated -/
inductive Folding where
  | exact
  /-- ASCII letters match in either case -/
  | ascii
  /-- all letters match in either case -/
  | unicode
deriving DecidableEq, Repr

/-- the code points that count as the same as `c` -/
def Folding.twins : Folding → Nat → List Nat
  | .exact, c => [c]
  | .ascii, c => asciiCaseTwins c
  | .unicode, c => caseTwins c

/-- whether a code point has another case, as case is treated -/
def Folding.isCased : Folding → Nat → Bool
  | .exact, _ => false
  | .ascii, c => (asciiCaseTwins c).length != 1
  | .unicode, c => Text.isCased c

/-- whether two characters count as the same in a back reference -/
def Folding.same : Folding → Char → Char → Bool
  | .exact, a, b => a == b
  | .ascii, a, b => (asciiCaseTwins a.toNat).contains b.toNat
  | .unicode, a, b => lowerCode a.toNat == lowerCode b.toNat

/-- a named class of characters -/
inductive CharClass where
  | digit
  | space
  | word
deriving DecidableEq, Repr

/-- the blanks of ASCII, without the information separators -/
def isAsciiBlank (c : Char) : Bool := c == ' ' || ('\t' ≤ c && c ≤ '\r')

/-- letters and digits of ASCII, and the underscore -/
def isAsciiWordChar (c : Char) : Bool :=
  isAsciiDigit c || ('a' ≤ c && c ≤ 'z') || ('A' ≤ c && c ≤ 'Z') || c == '_'

/-- whether a character is of a class, among ASCII alone or among all characters -/
def CharClass.holds (ascii : Bool) : CharClass → Char → Bool
  | .digit, c => if ascii then isAsciiDigit c else isDecimalDigit c
  | .space, c => if ascii then isAsciiBlank c else isBlank c
  | .word, c => if ascii then isAsciiWordChar c else isWordChar c

/-- one entry of a set -/
inductive SetItem where
  | one (code : Nat)
  | range (first last : Nat)
  | ofClass (c : CharClass) (negated : Bool)
deriving DecidableEq, Repr

/-- a set of characters -/
structure CharSet where
  items : List SetItem
  negated : Bool := false
  folding : Folding := .exact
  ascii : Bool := false
deriving DecidableEq, Repr

namespace CharSet

/-- whether a code point covers only the characters of which it is the lower case -/
def wantsLower (s : CharSet) (code : Nat) : Bool := s.folding == .unicode && 0xffff < code && s.items.length != 1

/-- whether an entry of the set covers a character whose twins are given -/
def covers (s : CharSet) (c : Char) (twins : List Nat) : SetItem → Bool
  | .one code => if s.wantsLower code then lowerCode c.toNat == code else twins.contains code
  | .range first last =>
    let inside := fun t => first ≤ t && t ≤ last
    twins.any inside || (s.folding == .ascii && 0xffff < last && inside (upperCode c.toNat))
  | .ofClass k negated => k.holds s.ascii c != negated

/-- whether a character belongs to the set -/
def holds (s : CharSet) (c : Char) : Bool :=
  let twins := s.folding.twins c.toNat
  s.items.any (s.covers c twins) != s.negated

/-- whether an entry holds a letter that has another case, as case is treated -/
def hasCase (s : CharSet) : SetItem → Bool
  | .one code => s.folding.isCased code
  | .range first last => 0xffff < last || (List.range (last + 1 - first)).any fun i => s.folding.isCased (first + i)
  | .ofClass .. => false

/-- the set with every entry once -/
def distinct (s : CharSet) : CharSet := { s with items := s.items.eraseDups }

end CharSet

end DebugFind.Pattern
