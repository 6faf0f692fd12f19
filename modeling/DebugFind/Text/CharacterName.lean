/-
A table of the characters that names name. It is no complete one, and nothing depends on which names it holds. Most names
are listed, in the runs of letters and of signs and among the further names; the rest follow a rule:

- the name of an East Asian ideograph ends in its code point in hexadecimal;
- the name of a Korean syllable spells its lead, vowel and tail;
- the selectors of variants are counted.

The lists hold the scripts of Europe and Japan and the signs in general use; the names of other scripts are not in the
table. Small letters count as capitals, but not in the names of Korean syllables and unified ideographs.
-/
import DebugFind.Numeral.Hex
import DebugFind.Text.CharacterName.Alias
import DebugFind.Text.CharacterName.Letters
import DebugFind.Text.CharacterName.Symbols
import DebugFind.Text.Ranges

namespace DebugFind.Text.CharacterName

open DebugFind.Numeral

/-- what is left of a text behind a start -/
def after? (start : String) (name : List Char) : Option (List Char) :=
  if start.toList.isPrefixOf name then some (name.drop start.length) else none

/-! ## Korean syllables -/

/-- the leads of a syllable, in the order of their code points -/
def leads : List String :=
  ["G", "GG", "N", "D", "DD", "R", "M", "B", "BB", "S", "SS", "", "J", "JJ", "C", "K", "T", "P", "H"]

/-- the vowels of a syllable -/
def vowels : List String :=
  ["A", "AE", "YA", "YAE", "EO", "E", "YEO", "YE", "O", "WA", "WAE", "OE", "YO", "U", "WEO", "WE", "WI", "YU", "EU", "YI",
    "I"]

/-- the tails of a syllable; most syllables have none -/
def tails : List String :=
  ["", "G", "GG", "GS", "N", "NJ", "NH", "D", "L", "LG", "LM", "LB", "LS", "LT", "LP", "LH", "M", "B", "BS", "S", "SS",
    "NG", "J", "C", "K", "T", "P", "H"]

/-- the syllable spelled by a text: one lead, one vowel and one tail. No vowel letter is in a lead or begins a tail, so at
most one division of the text fits. -/
def syllable? (text : List Char) : Option Nat :=
  leads.zipIdx.findSome? fun (lead, l) => (after? lead text).bind fun text =>
    vowels.zipIdx.findSome? fun (vowel, v) => (after? vowel text).bind fun text =>
      (tails.idxOf? (String.ofList text)).map fun t =>
        0xac00 + (l * vowels.length + v) * tails.length + t

/-! ## Names with a number -/

/-- the unified ideographs -/
def ideographs : Ranges := [
  (0x3400, 0x4dbf), (0x4e00, 0x9fff), (0x20000, 0x2a6df), (0x2a700, 0x2b738), (0x2b740, 0x2b81d), (0x2b820, 0x2cea1),
  (0x2ceb0, 0x2ebe0), (0x30000, 0x3134a)]

/-- the ideograph with a code point of four or five digits, capitals among them; a zero may stand in front -/
def ideograph? (digits : List Char) : Option Nat :=
  let code := ofHex digits
  if (digits.length = 4 ∨ digits.length = 5) ∧ digits.all (fun c => isHexDigit c && !c.isLower) ∧ ideographs.within code
  then some code else none

/-- starts of names that end in their code point, and the code points that have them -/
def codedNames : List (String × Ranges) := [
  ("CJK COMPATIBILITY IDEOGRAPH-", [(0xf900, 0xfa6d), (0xfa70, 0xfad9), (0x2f800, 0x2fa1d)]),
  ("KHITAN SMALL SCRIPT CHARACTER-", [(0x18b00, 0x18cd5)]),
  ("NUSHU CHARACTER-", [(0x1b170, 0x1b2fb)])]

/-- the character whose name ends in its code point -/
def coded? (name : List Char) : Option Nat :=
  codedNames.findSome? fun (start, ranges) => (after? start name).bind fun digits =>
    let code := ofHex digits
    if digits = (hexDigits code).map Char.toUpper ∧ ranges.within code then some code else none

/-- the starts of the names of the selectors of variants -/
def selectorNames : List String := ["VARIATION SELECTOR-", "VS"]

/-- the selector of a variant: sixteen stand together, the other 240 further on -/
def selector? (name : List Char) : Option Nat :=
  selectorNames.findSome? fun start => (after? start name).bind fun digits =>
    ((List.range 256).find? fun n => digits = Nat.toDigits 10 (n + 1)).map fun n =>
      if n < 16 then 0xfe00 + n else 0xe0100 + (n - 16)

/-! ## The table -/

/-- the code point with a listed name -/
def listed? (name : String) : Option Nat :=
  (letterRuns ++ symbolRuns).findSome? (·.find? name) <|> findAlias? name

/-- the code point that a name in the table names -/
def named? (name : List Char) : Option Nat :=
  match after? "HANGUL SYLLABLE " name, after? "CJK UNIFIED IDEOGRAPH-" name with
  | some rest, _ => syllable? rest
  | none, some digits => ideograph? digits
  | none, none =>
    let name := name.map Char.toUpper
    coded? name <|> selector? name <|> listed? (String.ofList name)

end DebugFind.Text.CharacterName
