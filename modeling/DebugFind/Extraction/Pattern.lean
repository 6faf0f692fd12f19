/-
Patterns that find an address in a listing: a pattern with a name and the number of the group that captures the
hexadecimal digits. The group exists, by type.

The two patterns of a usual run are given as trees: the number of a thread, and the object a thread waits on.
-/
import DebugFind.Pattern.Literal
import DebugFind.Pattern.Reader

namespace DebugFind

/-- a named pattern with the group that captures an address -/
structure ExtractionPattern where
  name : String
  /-- the pattern as it was written -/
  source : String
  pattern : Pattern
  group : Nat
  one_le_group : 1 ≤ group
  group_le : group ≤ pattern.groups
deriving DecidableEq

namespace ExtractionPattern

/-- why there is no such pattern -/
inductive Error where
  | pattern (e : Pattern.Error)
  | groupBelowOne
  /-- the pattern has fewer groups; the group asked for is given as it is written -/
  | noSuchGroup (name : String) (groups : Nat) (group : String)
  | numeral (e : Numeral.Error)
deriving DecidableEq, Repr

def Error.message : Error → String
  | .pattern e => e.message
  | .groupBelowOne => "group must be >= 1."
  | .noSuchGroup name groups group =>
    "Pattern '" ++ name ++ "' has " ++ toString groups ++ " groups, cannot use group " ++ group ++ "."
  | .numeral e => e.message

/-- checks the group of a pattern that has been read -/
def ofPattern (name source : String) (pattern : Pattern) (group : Int) : Except Error ExtractionPattern :=
  if h : 1 ≤ group.toNat then
    if h' : group.toNat ≤ pattern.groups then .ok ⟨name, source, pattern, group.toNat, h, h'⟩
    else
      match Numeral.write group with
      | .ok text => .error (.noSuchGroup name pattern.groups text)
      | .error e => .error (.numeral e)
  else .error .groupBelowOne

/-- reads a pattern from its text -/
def compile (runtime : Runtime) (name source : String) (group : Int := 1) : Except Error ExtractionPattern :=
  match Pattern.compile runtime source with
  | .ok pattern => ofPattern name source pattern group
  | .error e => .error (.pattern e)

/-! ## The usual patterns -/

open Pattern

/-- a hexadecimal digit in either case -/
def hexDigit : Node :=
  .set { items := [.range '0'.toNat '9'.toNat, .range 'a'.toNat 'f'.toNat, .range 'A'.toNat 'F'.toNat] }

/-- a capture of hexadecimal digits between two texts -/
def hexBetween (before after : String) : Pattern where
  root := .ofList (Node.chars before ++ [.group 1 (.loop 1 none .greedy hexDigit)] ++ Node.chars after)
  groups := 1

/-- the text of that pattern, the texts being escaped already -/
def hexBetweenSource (before after : String) : String := before ++ "([0-9a-fA-F]+)" ++ after

/-- finds the number of a thread, as in `tid=0x0000153418029c20` -/
def threadId : ExtractionPattern where
  name := "thread_id"
  source := hexBetweenSource " tid=0x" " "
  pattern := hexBetween " tid=0x" " "
  group := 1
  one_le_group := Nat.le_refl 1
  group_le := Nat.le_refl 1

/-- finds the object of a class that a thread waits on, as in `- waiting on <0x00000007dd0135e8> (a MyLock)` -/
def waitingOnLock (lockClass : String) : ExtractionPattern where
  name := "waiting_on_" ++ lockClass
  source := hexBetweenSource "- waiting on <0x" ("> \\(a " ++ escape lockClass ++ "\\)")
  pattern := hexBetween "- waiting on <0x" ("> (a " ++ lockClass ++ ")")
  group := 1
  one_le_group := Nat.le_refl 1
  group_le := Nat.le_refl 1

/-- the object of the class that the inspected program waits on -/
def waitingOnMyLock : ExtractionPattern := waitingOnLock "MyLock"

end ExtractionPattern

end DebugFind
