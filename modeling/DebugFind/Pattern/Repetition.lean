/-
Repetitions: counts in braces, and the loop that takes the place of the last item. Braces that hold no count are characters
of their own.
-/
import DebugFind.Numeral.Decimal
import DebugFind.Pattern.Item

namespace DebugFind.Pattern

open DebugFind.Text DebugFind.Numeral

/-- repetition counts stay below this -/
def countLimit : Nat := 4294967295

/-- a repetition count -/
def readCount (digits : List Char) : Reading Nat := do
  match ofDecimal digits with
  | .error e => throw (.numeral e)
  | .ok n => if countLimit ≤ n then throw .countTooLarge else return n

/-- the counts of a repetition after its opening brace; none if the brace is a character of its own -/
def readCounts : Reading (Option (Nat × Option Nat)) := do
  if (← peek) == ['\x7d'] then return none
  else
    let start ← get
    let lo ← takeAll isAsciiDigit
    let hi ← if ← accept ',' then takeAll isAsciiDigit else pure lo
    if !(← accept '\x7d') then
      set start
      return none
    else
      let least ← if lo.isEmpty then pure 0 else readCount lo
      if hi.isEmpty then return some (least, none)
      else
        let most ← readCount hi
        if most < least then refuse .leastAboveMost ((← get).offset - start.offset)
        else return some (least, some most)

/-- the preference of a repetition, which the character behind its counts tells -/
def readMode : Reading LoopMode := do
  if ← accept '?' then return .lazy
  else if ← accept '+' then return .possessive
  else return .greedy

/-- repeats the last item of a sequence; `start` is the offset behind the repetition's first character -/
def repeatLast (start least : Nat) (most : Option Nat) : List Item → Reading (List Item)
  | [] => do refuse .nothingToRepeat ((← get).offset - start + 1)
  | item :: before => do
    match item.shape with
    | .anchor => refuse .nothingToRepeat ((← get).offset - start + 1)
    | .loop => refuse .multipleRepeat ((← get).offset - start + 1)
    | .plain =>
      let mode ← readMode
      return ⟨[.loop least most mode (.ofList item.nodes)], .loop⟩ :: before

end DebugFind.Pattern
