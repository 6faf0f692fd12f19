/-
Items of a sequence. An item is a pattern, as the nodes it adds to the sequence, together with what a repetition behind it
has to know: an anchor and a loop cannot be repeated.
-/
import DebugFind.Pattern.Node
import DebugFind.Pattern.Source

namespace DebugFind.Pattern

/-- what matters about an item of a sequence to a repetition behind it -/
inductive Shape where
  | plain
  | anchor
  | loop
deriving DecidableEq, Repr

/-- an item of a sequence -/
structure Item where
  nodes : List Node
  shape : Shape := .plain

/-- a set of one entry -/
def single (flags : Flags) (item : SetItem) : Item :=
  ⟨[.set { items := [item], folding := flags.folding, ascii := flags.ascii }], .plain⟩

/-- the item that a dot stands for -/
def anyItem (flags : Flags) : Item :=
  ⟨[.set { items := if flags.dotAll then [] else [.one '\n'.toNat], negated := true }], .plain⟩

end DebugFind.Pattern
