/-
Runs of character names. The names of neighbouring code points share most of their words, so a run writes each name as what
is new in it: a small letter before the new words says how many words of the name before it stand in front of them (`a` is
one, `b` is two), a small letter behind them how many stand behind. After `LATIN CAPITAL LETTER A WITH GRAVE`, `eACUTE` is
`LATIN CAPITAL LETTER A WITH ACUTE` and `aSMALLd` is `LATIN SMALL LETTER A WITH ACUTE`. An entry with nothing in it is a
code point without a name.
-/

namespace DebugFind.Text.CharacterName

/-- a run of code points and lines of their names, with commas between the names of a line -/
structure NameRun where
  first : Nat
  lines : List String
deriving DecidableEq, Repr

/-- how many words the letter at an end of an entry keeps of the name before it -/
def keptWords : Option Char → Nat
  | none => 0
  | some c => if c.isLower then c.toNat - 'a'.toNat + 1 else 0

/-- the words of an entry, `before` being the words of the name before it -/
def entryWords (before : List String) (entry : String) : List String :=
  let new := String.ofList (entry.toList.filter fun c => !c.isLower)
  let front := keptWords entry.toList.head?
  let back := keptWords entry.toList.getLast?
  before.take front ++ new.splitOn " " ++ before.drop (before.length - back)

/-- the code point with the words `name` among entries that start at `code` -/
def findWords (name : List String) (code : Nat) (before : List String) : List String → Option Nat
  | [] => none
  | entry :: rest =>
    if entry.isEmpty then findWords name (code + 1) before rest
    else
      let words := entryWords before entry
      if words = name then some code else findWords name (code + 1) words rest

/-- the code point of a run with a name -/
def NameRun.find? (run : NameRun) (name : String) : Option Nat :=
  findWords (name.splitOn " ") run.first [] (run.lines.flatMap (·.splitOn ","))

end DebugFind.Text.CharacterName
