/-
Character sets in brackets. A closing bracket that comes first is a character of the set, and a minus sign that comes last too.
-/
import DebugFind.Pattern.Escape

namespace DebugFind.Pattern

open DebugFind.Text DebugFind.Numeral

/-- the entry that a token of a set spells; only a backslash begins a token of two characters -/
def setToken (token : List Char) : Reading SetItem :=
  match token with
  | [_, c] => setEscape c
  | [c] => return .one c.toNat
  | _ => return .one 0

/-- the range between two entries -/
def setRange (this that : List Char) (first last : SetItem) : Reading SetItem := do
  let bad : Reading SetItem :=
    refuse (.badRange (String.ofList this) (String.ofList that)) (this.length + 1 + that.length)
  match first, last with
  | .one lo, .one hi => if hi < lo then bad else return .range lo hi
  | _, _ => bad

/-- reads the entries of a set that opened at offset `start`; `soFar` are those before, in reverse -/
def setItems (start : Nat) (soFar : List SetItem) : Nat → Reading (List SetItem)
  | 0 => refuse .unterminatedSet
  | fuel + 1 => do
    let this ← next
    if this.isEmpty then refuse .unterminatedSet ((← get).offset - start)
    else if this == [']'] && !soFar.isEmpty then return soFar.reverse
    else
      let first ← setToken this
      if ← accept '-' then
        let that ← next
        if that.isEmpty then refuse .unterminatedSet ((← get).offset - start)
        else if that == [']'] then return (.one '-'.toNat :: first :: soFar).reverse
        else
          let last ← setToken that
          setItems start ((← setRange this that first last) :: soFar) fuel
      else setItems start (first :: soFar) fuel

/-- reads a set after its opening bracket -/
def readSet (flags : Flags) : Reading Item := do
  let start := (← get).offset - 1
  let negated ← accept '^'
  let items ← setItems start [] ((← get).rest.length + 1)
  let set : CharSet := { items, negated, folding := flags.folding, ascii := flags.ascii }
  return ⟨[.set set.distinct], .plain⟩

end DebugFind.Pattern
