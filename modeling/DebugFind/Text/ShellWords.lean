/-
Words of a command line as a shell reads them. Blanks (space, tab, carriage return, line feed) separate words; quotes keep
blanks inside a word and are dropped; a backslash keeps the next character, between double quotes only before a backslash
or a double quote. A quoted empty text is a word.
-/

namespace DebugFind.Text.ShellWords

/-- why a command line cannot be split -/
inductive Error where
  | unclosedQuote
  | trailingBackslash
deriving DecidableEq, Repr

def Error.message : Error → String
  | .unclosedQuote => "No closing quotation"
  | .trailingBackslash => "No escaped character"

/-- where in the line the reader stands -/
inductive Place where
  /-- between words -/
  | gap
  /-- in a word, outside quotes -/
  | word
  /-- between quotes of the given kind -/
  | quoted (mark : Char)
  /-- after a backslash outside quotes -/
  | escaped
  /-- after a backslash between double quotes -/
  | quotedEscaped
deriving DecidableEq, Repr

def isGap (c : Char) : Bool := c == ' ' || c == '\t' || c == '\r' || c == '\n'

def isQuote (c : Char) : Bool := c == '\'' || c == '"'

/-- the words of the rest of a line; `word` is the word being read, in reverse -/
def splitFrom (place : Place) (word : List Char) : List Char → Except Error (List (List Char))
  | [] =>
    match place with
    | .gap => .ok []
    | .word => .ok [word.reverse]
    | .quoted _ => .error .unclosedQuote
    | .escaped | .quotedEscaped => .error .trailingBackslash
  | c :: rest =>
    match place with
    | .gap =>
      if isGap c then splitFrom .gap [] rest
      else if c == '\\' then splitFrom .escaped [] rest
      else if isQuote c then splitFrom (.quoted c) [] rest
      else splitFrom .word [c] rest
    | .word =>
      if isGap c then (word.reverse :: ·) <$> splitFrom .gap [] rest
      else if c == '\\' then splitFrom .escaped word rest
      else if isQuote c then splitFrom (.quoted c) word rest
      else splitFrom .word (c :: word) rest
    | .quoted mark =>
      if c == mark then splitFrom .word word rest
      else if c == '\\' && mark == '"' then splitFrom .quotedEscaped word rest
      else splitFrom (.quoted mark) (c :: word) rest
    | .escaped => splitFrom .word (c :: word) rest
    | .quotedEscaped =>
      splitFrom (.quoted '"') (if c == '\\' || c == '"' then c :: word else c :: '\\' :: word) rest

/-- the words of a command line -/
def split (line : String) : Except Error (List String) :=
  (·.map String.ofList) <$> splitFrom .gap [] line.toList

end DebugFind.Text.ShellWords
