/-
What reading a profile takes from the program that it runs in: the names of characters, and the room there is for what
stands inside one another in a text. Neither is fixed here. How much room there is depends on the program and on whoever
called it, so what is shown of reading holds for every `Runtime`.

Room is taken by each value of a JSON text and by each group of a pattern that is open, how much depends on what stands in
it and on what is wrong with it. So it is said of each text whether there is room; only for texts that open few of them it
has to be enough.
-/
import DebugFind.Json.Reader
import DebugFind.Text.CharacterName

namespace DebugFind

/-- the room there is to read texts, which open so many things that can stand inside one another -/
structure Room (openings : List Char → Nat) where
  /-- the message with which there is no room to read a text, if there is none -/
  overflow? : String → Option String
  /-- so many levels there are at least -/
  levels : Nat
  levels_pos : 0 < levels
  overflow?_eq_none (text : String) (h : openings text.toList ≤ levels) : overflow? text = none

/-- as many levels, behind which it is said of each text whether there is room -/
def Room.beyond {openings : List Char → Nat} (levels : Nat) (levels_pos : 0 < levels)
    (overflow? : String → Option String) : Room openings where
  overflow? text := if openings text.toList ≤ levels then none else overflow? text
  levels
  levels_pos
  overflow?_eq_none _ h := if_pos h

namespace Pattern

/-- how many parentheses the text of a pattern opens, those behind a backslash not counted -/
def openings : List Char → Nat
  | '\\' :: _ :: rest => openings rest
  | '(' :: rest => openings rest + 1
  | _ :: rest => openings rest
  | [] => 0

/-- how many of them stand inside one another, `opened` being open already -/
def nesting (opened : Nat) : List Char → Nat
  | '\\' :: _ :: rest => nesting opened rest
  | '(' :: rest => nesting (opened + 1) rest
  | ')' :: rest => max opened (nesting (opened - 1) rest)
  | _ :: rest => nesting opened rest
  | [] => opened

end Pattern

/-- what reading a profile takes from the program that it runs in -/
structure Runtime where
  /-- the code point of the character that bears a name -/
  characterNamed? : List Char → Option Nat
  json : Room (List.countP Json.isOpening)
  pattern : Room Pattern.openings

/-- a runtime that knows the names in the table. Of a thousand calls inside one another a few are taken when a profile is
read; a value takes one, and a group takes two. -/
def Runtime.usual : Runtime where
  characterNamed? := Text.CharacterName.named?
  json := .beyond 980 (by decide) fun text =>
    match Json.readText 980 text.toList with
    | .error (.tooDeep kind) => some kind.depthMessage
    | _ => none
  pattern := .beyond 490 (by decide) fun source =>
    if Pattern.nesting 0 source.toList ≤ 490 then none else some "maximum recursion depth exceeded"

end DebugFind
