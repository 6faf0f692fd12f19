/-
How a group begins, and the groups that a pattern has opened and closed so far.
-/
import DebugFind.Pattern.Escape
import DebugFind.Pattern.Switch

namespace DebugFind.Pattern

open DebugFind.Text DebugFind.Numeral

/-- group numbers stay below this -/
def groupLimit : Nat := 1073741823

/-- refuses a text that is no name -/
def checkName (name : List Char) : Reading Unit := do
  if isName name then return () else refuse (.badGroupName (String.ofList name)) (name.length + 1)

/-- opens a group and gives its number -/
def openGroup (name : Option (List Char)) : Reading Nat := do
  let r ← get
  let index := r.groups
  set { r with widths := r.widths ++ [none] }
  match name with
  | none => return index
  | some name =>
    match r.named? name with
    | some before => refuse (.redefinedGroup (String.ofList name) index before) (name.length + 1)
    | none =>
      modify fun r => { r with names := r.names ++ [(String.ofList name, index)] }
      return index

def closeGroup (index : Nat) (body : Node) : Reading Unit :=
  modify fun r => { r with widths := r.widths.set (index - 1) (some body.width) }

/-- the group that a condition asks for -/
def conditionGroup (name : List Char) : Reading Nat := do
  let r ← get
  let text := String.ofList name
  let group ← if isName name then
      match r.named? name with
      | some group => pure group
      | none => refuse (.unknownGroupName text) (name.length + 1)
    else
      match Numeral.read text with
      | .error _ => refuse (.badGroupName text) (name.length + 1)
      | .ok n =>
        if n < 0 then refuse (.badGroupName text) (name.length + 1)
        else if n = 0 then refuse .groupZero (name.length + 1)
        else if (groupLimit : Int) ≤ n then refuse (.invalidGroup n.toNat) (name.length + 1)
        else
          if !r.asked.any (·.1 == n.toNat) then
            modify fun r => { r with asked := r.asked ++ [(n.toNat, r.offset - name.length - 1)] }
          pure n.toNat
  checkLookBehind group
  return group

/-- skips a comment group that opened at offset `start` -/
def skipComment (start : Nat) : Nat → Reading Unit
  | 0 => refuse .unterminatedComment
  | fuel + 1 => do
    if (← peek).isEmpty then refuse .unterminatedComment ((← get).offset - start)
    else if (← next) == [')'] then return ()
    else skipComment start fuel

/-- skips the rest of a line -/
def skipLine : Nat → Reading Unit
  | 0 => return ()
  | fuel + 1 => do
    let token ← next
    if token.isEmpty || token == ['\n'] then return () else skipLine fuel

/-- takes the closing parenthesis of a group that opened at offset `start` -/
def closeParenthesis (start : Nat) : Reading Unit := do
  if ← accept ')' then return () else refuse .unterminatedGroup ((← get).offset - start)

/-- the switches in force: those of the group, or those of the whole pattern outside groups -/
def flagsIn (scope : Option Flags) : Reading Flags := do
  match scope with
  | some flags => return flags
  | none => return (← get).flags

/-- how a group that holds a pattern begins -/
inductive Opening where
  /-- a group that captures, perhaps by a name -/
  | capture (name : Option (List Char))
  /-- a group that only sets switches -/
  | scoped (on off : Flags)
  | atomic
  | look (behind negated : Bool)
  | condition (group : Nat)
  /-- a reference to a named group -/
  | reference (node : Node)
  /-- nothing to match: a comment, or switches for the whole pattern -/
  | nothing

/-- what follows `(?P` -/
def namedOpening (flags : Flags) : Reading Opening := do
  if ← accept '<' then
    let name ← readName '>' "group name"
    checkName name
    return .capture (some name)
  else if ← accept '=' then
    let name ← readName ')' "group name"
    checkName name
    match (← get).named? name with
    | none => refuse (.unknownGroupName (String.ofList name)) (name.length + 1)
    | some group => return .reference (← backReference flags group (name.length + 1))
  else
    let token ← next
    if token.isEmpty then refuse .endOfPattern
    else refuse (.unknownExtension (String.ofList ('?' :: 'P' :: token))) (token.length + 2)

/-- what follows `(?<` -/
def behindOpening : Reading Opening := do
  let token ← next
  if token.isEmpty then refuse .endOfPattern
  else if token == ['='] then return .look true false
  else if token == ['!'] then return .look true true
  else refuse (.unknownExtension (String.ofList ('?' :: '<' :: token))) (token.length + 2)

/-- what follows `(`, which stands at offset `start`; `early` tells whether nothing has been read before it -/
def readOpening (flags : Flags) (start : Nat) (early : Bool) : Reading Opening := do
  if !(← accept '?') then return .capture none
  else
    match ← next with
    | [] => refuse .endOfPattern
    | ['P'] => namedOpening flags
    | [':'] => return .scoped {} {}
    | ['#'] =>
      skipComment start ((← get).rest.length + 1)
      return .nothing
    | ['='] => return .look false false
    | ['!'] => return .look false true
    | ['<'] => behindOpening
    | ['('] => return .condition (← conditionGroup (← readName ')' "group name"))
    | ['>'] => return .atomic
    | token =>
      match token with
      | [c] =>
        if c == '-' || (Flags.ofChar? c).isSome then
          match ← readFlags c with
          | none => if early then return .nothing else refuse .lateGlobalFlags ((← get).offset - start)
          | some (on, off) => return .scoped on off
        else refuse (.unknownExtension (String.ofList ('?' :: token))) (token.length + 1)
      | _ => refuse (.unknownExtension (String.ofList ('?' :: token))) (token.length + 1)

/-- enters a look behind: groups from here on are its own, unless it stands inside another -/
def enterLook (behind : Bool) : Reading (Option Nat) := do
  let outer := (← get).lookBehindFrom
  if behind && outer.isNone then modify fun r => { r with lookBehindFrom := some r.groups }
  return outer

def leaveLook (behind : Bool) (outer : Option Nat) : Reading Unit := do
  if behind && outer.isNone then modify fun r => { r with lookBehindFrom := none }

end DebugFind.Pattern
