/-
Quoted form of a text for messages. The quote is the apostrophe, unless the text has an apostrophe and no double quote.
The quote in use and the backslash are written after a backslash; tab, line feed and carriage return have names; other
characters that do not print are written by code point in two, four or eight hexadecimal digits.
-/
import DebugFind.Text.Printable

namespace DebugFind.Text

/-- the last `width` hexadecimal digits of `n`, with leading zeros -/
def hexField : Nat → Nat → List Char
  | 0, _ => []
  | width + 1, n => hexField width (n / 16) ++ [Nat.digitChar (n % 16)]

/-- one character of a quoted text -/
def quoteChar (quote c : Char) : List Char :=
  if c == quote || c == '\\' then ['\\', c]
  else if c == '\t' then ['\\', 't']
  else if c == '\n' then ['\\', 'n']
  else if c == '\r' then ['\\', 'r']
  else if isPrintable c then [c]
  else if c.toNat < 0x100 then '\\' :: 'x' :: hexField 2 c.toNat
  else if c.toNat < 0x10000 then '\\' :: 'u' :: hexField 4 c.toNat
  else '\\' :: 'U' :: hexField 8 c.toNat

/-- the quote that a text is put in -/
def quoteFor (s : List Char) : Char := if s.contains '\'' && !s.contains '"' then '"' else '\''

def quote (s : List Char) : List Char :=
  let q := quoteFor s
  q :: s.flatMap (quoteChar q) ++ [q]

/-- the quoted form of a text -/
def quoted (s : String) : String := String.ofList (quote s.toList)

/-- the texts of a list, quoted, in brackets -/
def quotedList (ss : List String) : String := "[" ++ ", ".intercalate (ss.map quoted) ++ "]"

end DebugFind.Text
