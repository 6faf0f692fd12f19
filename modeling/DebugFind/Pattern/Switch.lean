/-
Switches in a group: letters to turn on, a minus sign, letters to turn off. Switches without a body are for the whole pattern.
-/
import DebugFind.Pattern.Source

namespace DebugFind.Pattern

open DebugFind.Text

/-- refuses a token that is no switch letter -/
def refuseFlag {α : Type} (token : List Char) (otherwise : Problem) : Reading α :=
  refuse (if token.all isLetter then .unknownFlag else otherwise) token.length

/-- reads switches to turn on, from the letter `c`; gives them with the token behind -/
def flagsOn (soFar : Flags) (c : Char) (flag : Flags) : Nat → Reading (Flags × List Char)
  | 0 => refuse .missingFlagEnd
  | fuel + 1 => do
    if c == 'L' then refuse .localeFlag
    else
      let soFar := soFar.union flag
      if flag.hasType && soFar.ascii && soFar.unicode then refuse .incompatibleFlags
      else
        match ← next with
        | [] => refuse .missingFlagEnd
        | [d] =>
          if d == ')' || d == '-' || d == ':' then return (soFar, [d])
          else match Flags.ofChar? d with
            | some flag => flagsOn soFar d flag fuel
            | none => refuseFlag [d] .missingFlagEnd
        | token => refuseFlag token .missingFlagEnd

/-- reads switches to turn off, from the letter `c`, up to the colon -/
def flagsOff (soFar : Flags) (c : Char) (flag : Flags) : Nat → Reading Flags
  | 0 => refuse .missingColon
  | fuel + 1 => do
    if flag.hasType || c == 'L' then refuse .typeFlagOff
    else
      let soFar := soFar.union flag
      match ← next with
      | [] => refuse .missingColon
      | [d] =>
        if d == ':' then return soFar
        else match Flags.ofChar? d with
          | some flag => flagsOff soFar d flag fuel
          | none => refuseFlag [d] .missingColon
      | token => refuseFlag token .missingColon

/-- reads the switches of a group from its first character: those on and off inside it, or none if they are for all -/
def readFlags (c : Char) : Reading (Option (Flags × Flags)) := do
  let fuel := (← get).rest.length + 1
  let (on, mark) ← match Flags.ofChar? c with
    | some flag => flagsOn {} c flag fuel
    | none => pure ({}, ['-'])
  if mark == [')'] then
    modify fun r => { r with flags := r.flags.union on }
    return none
  else if on.template then refuse .globalFlagOn 1
  else
    let off ← if mark == ['-'] then
        match ← next with
        | [] => refuse .missingFlag
        | [d] =>
          match Flags.ofChar? d with
          | some flag => flagsOff {} d flag fuel
          | none => refuseFlag [d] .missingFlag
        | token => refuseFlag token .missingFlag
      else pure {}
    if off.template then refuse .globalFlagOff 1
    else if on.meets off then refuse .flagOnAndOff 1
    else return some (on, off)

end DebugFind.Pattern
