/-
The launcher's listing of the machines that run: a process id and a main class a line, then arguments. The launcher is a
machine of the same kind and lists itself; it is passed over.
-/
import DebugFind.Numeral.Decimal
import DebugFind.Text.Case
import DebugFind.Text.Lines
import DebugFind.Text.Search

namespace DebugFind.Attach

open DebugFind.Text DebugFind.Numeral

/-- a machine of the listing -/
structure Entry where
  pid : Nat
  mainClass : String
deriving DecidableEq, Repr

namespace Entry

/-- how the main class of the launcher itself ends -/
def launcherClass : String := "sun.tools.jcmd.JCmd"

/-- the machine that a line lists, if its first word looks like a number -/
def ofLine (line : List Char) : Except Numeral.Error (Option Entry) :=
  match words line with
  | [] => .ok none
  | first :: rest =>
    let mainClass := rest.headD []
    if !first.all isDigitLike || launcherClass.toList.isSuffixOf mainClass then .ok none
    else do
      let pid ← Numeral.read (String.ofList first)
      return some ⟨pid.toNat, String.ofList mainClass⟩

/-- whether a machine runs a class, given in full or by what follows the last dot, in any case -/
def runs (e : Entry) (mainClass : String) : Bool :=
  let wanted := lower mainClass.toList
  let name := lower e.mainClass.toList
  name == wanted || afterLast '.' name == wanted

end Entry

/-- the machines that the lines of a listing name -/
def entriesOf : List (List Char) → Except Numeral.Error (List Entry)
  | [] => .ok []
  | line :: rest => do
    let entry ← Entry.ofLine line
    let entries ← entriesOf rest
    return entry.toList ++ entries

/-- the machines that a listing names, in order -/
def readListing (text : String) : Except Numeral.Error (List Entry) := entriesOf (lines text.toList)

/-- the process id of the first machine that runs a class -/
def pidOf? (entries : List Entry) (mainClass : String) : Option Nat :=
  (entries.find? (·.runs mainClass)).map (·.pid)

/-- the main class of the first machine with a process id -/
def classOf? (entries : List Entry) (pid : Int) : Option String :=
  (entries.find? fun e => (e.pid : Int) == pid).map (·.mainClass)

end DebugFind.Attach
