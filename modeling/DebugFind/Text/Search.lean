/-
Occurrence of one text in another, as a contiguous piece.
-/

namespace DebugFind.Text

/-- whether `needle` stands somewhere in the text -/
def occurs (needle : List Char) : List Char → Bool
  | [] => needle.isEmpty
  | c :: rest => needle.isPrefixOf (c :: rest) || occurs needle rest

/-- whether `needle` stands somewhere in `text` -/
def contains (text needle : String) : Bool := occurs needle.toList text.toList

/-- whether `text` begins with `start` -/
def beginsWith (text start : String) : Bool := start.toList.isPrefixOf text.toList

/-- what follows the last occurrence of `c`, or the whole text if there is none -/
def afterLast (c : Char) (s : List Char) : List Char := (s.reverse.takeWhile (· != c)).reverse

end DebugFind.Text
