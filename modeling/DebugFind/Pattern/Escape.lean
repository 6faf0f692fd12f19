/-
Escapes: a backslash with what follows it. Inside a character set an escape is an entry (`setEscape`); outside it is an item
(`readEscape`), which may also be an anchor or a reference to a group.
-/
import DebugFind.Numeral.Hex
import DebugFind.Pattern.Item

namespace DebugFind.Pattern

open DebugFind.Text DebugFind.Numeral

def isOctal (c : Char) : Bool := '0' ≤ c && c ≤ '7'

def isAsciiLetter (c : Char) : Bool := ('a' ≤ c && c ≤ 'z') || ('A' ≤ c && c ≤ 'Z')

def ofOctal (s : List Char) : Nat := ofDigits 8 (s.filterMap digitValue?)

/-- refuses, inside a look behind, a group that is open or was opened in it -/
def checkLookBehind (group : Nat) : Reading Unit := do
  let r ← get
  match r.lookBehindFrom with
  | none => return ()
  | some first =>
    if (r.width? group).isNone then refuse .openGroup
    else if first ≤ group then refuse .groupOfSameLookBehind
    else return ()

/-- a reference to a group, `back` being the length of its text -/
def backReference (flags : Flags) (group back : Nat) : Reading Node := do
  match (← get).width? group with
  | none => refuse .openGroup back
  | some width =>
    checkLookBehind group
    return .backref group width flags.folding

/-- the control characters with a letter of their own, and the backslash -/
def controlEscape? : Char → Option Nat
  | 'a' => some 7
  | 'b' => some 8
  | 'f' => some 12
  | 'n' => some 10
  | 'r' => some 13
  | 't' => some 9
  | 'v' => some 11
  | '\\' => some '\\'.toNat
  | _ => none

/-- the class that a letter names -/
def classEscape? : Char → Option SetItem
  | 'd' => some (.ofClass .digit false)
  | 'D' => some (.ofClass .digit true)
  | 's' => some (.ofClass .space false)
  | 'S' => some (.ofClass .space true)
  | 'w' => some (.ofClass .word false)
  | 'W' => some (.ofClass .word true)
  | _ => none

/-- the test that a letter names -/
def anchorEscape? (ascii : Bool) : Char → Option Anchor
  | 'A' => some .textStart
  | 'Z' => some .textEnd
  | 'b' => some (.wordEdge ascii false)
  | 'B' => some (.wordEdge ascii true)
  | _ => none

/-- an escape with exactly `n` hexadecimal digits -/
def hexEscape (escape : List Char) (n : Nat) : Reading Nat := do
  let escape := escape ++ (← takeUpTo isHexDigit n)
  let code := ofHex (escape.drop 2)
  if escape.length ≠ n + 2 then refuse (.incompleteEscape (String.ofList escape)) escape.length
  else if 0x10ffff < code then refuse (.badEscape (String.ofList escape)) escape.length
  else return code

/-- an escape that spells a code point by number or by name -/
def codeEscape? (escape : List Char) (c : Char) : Reading (Option Nat) := do
  if c == 'x' then return some (← hexEscape escape 2)
  else if c == 'u' then return some (← hexEscape escape 4)
  else if c == 'U' then return some (← hexEscape escape 8)
  else if c == 'N' then
    if !(← accept '\x7b') then refuse .missingBrace
    else
      let name ← readName '\x7d' "character name"
      match (← get).characterNamed? name with
      | some code => return some code
      | none => refuse (.unknownCharacterName (String.ofList name)) (name.length + 4)
  else return none

/-- an escape that spells its own character, unless it is a letter -/
def plainEscape (escape : List Char) (c : Char) : Reading Nat := do
  if isAsciiLetter c then refuse (.badEscape (String.ofList escape)) escape.length else return c.toNat

/-- an escape inside a character set -/
def setEscape (c : Char) : Reading SetItem := do
  let escape := ['\\', c]
  match controlEscape? c, classEscape? c with
  | some code, _ => return .one code
  | none, some item => return item
  | none, none =>
    match ← codeEscape? escape c with
    | some code => return .one code
    | none =>
      if isOctal c then
        let escape := escape ++ (← takeUpTo isOctal 2)
        let code := ofOctal (escape.drop 1)
        if 0o377 < code then refuse (.octalTooLarge (String.ofList escape)) escape.length else return .one code
      else if isAsciiDigit c then refuse (.badEscape (String.ofList escape)) escape.length
      else return .one (← plainEscape escape c)

/-- an escape of digits: a character in octal, or a group by its number -/
def digitEscape (flags : Flags) (c : Char) : Reading (Nat ⊕ Node) := do
  if c == '0' then
    return .inl (ofOctal (← takeUpTo isOctal 2))
  else
    let second ← takeUpTo isAsciiDigit 1
    let escape := '\\' :: c :: second
    let third ← if isOctal c && !second.isEmpty && second.all isOctal then takeUpTo isOctal 1 else pure []
    if third.isEmpty then
      let group := ofDigits 10 ((c :: second).filterMap digitValue?)
      if group < (← get).groups then return .inr (← backReference flags group escape.length)
      else refuse (.invalidGroup group) (escape.length - 1)
    else
      let escape := escape ++ third
      let code := ofOctal (escape.drop 1)
      if 0o377 < code then refuse (.octalTooLarge (String.ofList escape)) escape.length else return .inl code

/-- an escape outside a character set -/
def readEscape (flags : Flags) (c : Char) : Reading Item := do
  let escape := ['\\', c]
  match anchorEscape? flags.ascii c, classEscape? c, controlEscape? c with
  | some a, _, _ => return ⟨[.anchor a], .anchor⟩
  | none, some item, _ => return single flags item
  | none, none, some code => return single flags (.one code)
  | none, none, none =>
    match ← codeEscape? escape c with
    | some code => return single flags (.one code)
    | none =>
      if isAsciiDigit c then
        match ← digitEscape flags c with
        | .inl code => return single flags (.one code)
        | .inr node => return ⟨[node], .plain⟩
      else return single flags (.one (← plainEscape escape c))

end DebugFind.Pattern
