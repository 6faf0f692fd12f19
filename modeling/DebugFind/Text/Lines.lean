/-
Lines of a text. Ten characters end a line, and a carriage return followed by a line feed ends it once. A text that does
not end with a line break has its last line too; an empty text has no line.
-/

namespace DebugFind.Text

/-- the characters that end a line -/
def isLineBreak (c : Char) : Bool :=
  c == '\n' || c == '\r' || c == '\x0b' || c == '\x0c' || c == '\x1c' || c == '\x1d' || c == '\x1e' ||
    c == '\x85' || c == '\u2028' || c == '\u2029'

/-- the lines of the rest of a text; `line` is the line being read, in reverse -/
def linesFrom (line : List Char) : List Char → List (List Char)
  | [] => if line.isEmpty then [] else [line.reverse]
  | '\r' :: '\n' :: rest => line.reverse :: linesFrom [] rest
  | c :: rest => if isLineBreak c then line.reverse :: linesFrom [] rest else linesFrom (c :: line) rest

/-- the lines of a text, without their line breaks -/
def lines (s : List Char) : List (List Char) := linesFrom [] s

/-- there is a line where anything has been read or is left to read -/
theorem linesFrom_ne_nil {line s : List Char} (h : line ≠ [] ∨ s ≠ []) : linesFrom line s ≠ [] := by
  fun_induction linesFrom line s with
  | case1 line hline => exact absurd (List.isEmpty_iff.1 hline) (h.resolve_right (· rfl))
  | case2 | case3 | case4 => exact List.cons_ne_nil _ _
  | case5 line c rest _ _ ih => exact ih (Or.inl (List.cons_ne_nil c line))

/-- a text that is not empty has a first line, which may be empty -/
theorem lines_ne_nil {s : List Char} (h : s ≠ []) : lines s ≠ [] := linesFrom_ne_nil (Or.inr h)

/-- reads the three spellings of a line end as a line feed -/
def unifyLineEnds : List Char → List Char
  | [] => []
  | '\r' :: '\n' :: rest => '\n' :: unifyLineEnds rest
  | '\r' :: rest => '\n' :: unifyLineEnds rest
  | c :: rest => c :: unifyLineEnds rest

end DebugFind.Text
