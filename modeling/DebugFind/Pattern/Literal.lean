/-
Patterns that match one text and nothing else: as pattern text, with a backslash before every character that could mean
something else, and as a tree.
-/
import DebugFind.Pattern.Node

namespace DebugFind.Pattern

/-- the characters that are written after a backslash -/
def isSpecial (c : Char) : Bool := "()[]\x7b\x7d?*+-|^$\\.&~# \t\n\r\x0b\x0c".toList.contains c

def escapeChar (c : Char) : List Char := if isSpecial c then ['\\', c] else [c]

/-- the pattern text that matches a text -/
def escape (text : String) : String := String.ofList (text.toList.flatMap escapeChar)

/-- the pattern that matches one character -/
def Node.char (c : Char) : Node := .set { items := [.one c.toNat] }

/-- the patterns that match the characters of a text, in order -/
def Node.chars (text : String) : List Node := text.toList.map Node.char

end DebugFind.Pattern
