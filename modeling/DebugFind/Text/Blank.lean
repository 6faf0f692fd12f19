/-
Blank characters: the Unicode white space together with the four information separators U+001C to U+001F. Stripping and
splitting into words use this one class.
-/
import DebugFind.Text.Ranges

namespace DebugFind.Text

/-- code points of the blank characters -/
def blanks : Ranges := [
  (0x9, 0xd), (0x1c, 0x20), (0x85, 0x85), (0xa0, 0xa0), (0x1680, 0x1680), (0x2000, 0x200a), (0x2028, 0x2029),
  (0x202f, 0x202f), (0x205f, 0x205f), (0x3000, 0x3000)]

def isBlank (c : Char) : Bool := blanks.holds c

/-- the text without the blanks in front -/
def stripLeft (s : List Char) : List Char := s.dropWhile isBlank

/-- the text without the blanks behind -/
def stripRight (s : List Char) : List Char := (s.reverse.dropWhile isBlank).reverse

/-- the text without the blanks at either end -/
def strip (s : List Char) : List Char := stripRight (stripLeft s)

/-- the words of a text: `word` is the word being read, in reverse -/
def wordsFrom (word : List Char) : List Char → List (List Char)
  | [] => if word.isEmpty then [] else [word.reverse]
  | c :: rest =>
    if isBlank c then
      if word.isEmpty then wordsFrom [] rest else word.reverse :: wordsFrom [] rest
    else wordsFrom (c :: word) rest

/-- the maximal runs of characters that are not blank, in order -/
def words (s : List Char) : List (List Char) := wordsFrom [] s

end DebugFind.Text
