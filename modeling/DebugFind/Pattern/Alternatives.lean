/-
Alternatives, each a sequence of nodes. The leaves that all of them begin with are taken out in front; if a set that is not
negated is then left of each, they become one set. A leaf matches in at most one way, so both steps keep what is matched and
in which order, but for the treatment of case in sets of several entries.
-/
import DebugFind.Pattern.Node

namespace DebugFind.Pattern

/-- whether a node may be taken out of alternatives that begin with it -/
def Node.isLeaf : Node → Bool
  | .set _ | .anchor _ | .backref .. => true
  | _ => false

/-- the leaves that a sequence and others begin with, and what follows them -/
def commonStart : List Node → List (List Node) → List Node × List (List Node)
  | [], others => ([], [] :: others)
  | n :: rest, others =>
    if n.isLeaf && others.all (·.head? == some n) then
      let (common, left) := commonStart rest (others.map (·.drop 1))
      (n :: common, left)
    else ([], (n :: rest) :: others)

/-- the entries of alternatives of which each is a set that is not negated -/
def entriesOf? : List (List Node) → Option (List SetItem)
  | [] => some []
  | [.set s] :: rest => if s.negated then none else (entriesOf? rest).map (s.items ++ ·)
  | _ => none

/-- the set that stands for alternatives of which each is a set that is not negated; they treat case in one way -/
def unionOf? (alternatives : List (List Node)) : Option CharSet :=
  match alternatives with
  | [.set s] :: _ => (entriesOf? alternatives).map fun items => CharSet.distinct { s with items }
  | _ => none

/-- alternatives as one sequence -/
def joinAlternatives : List (List Node) → List Node
  | [] => []
  | [only] => only
  | first :: rest =>
    let (common, left) := commonStart first rest
    match unionOf? left with
    | some s => common ++ [.set s]
    | none => common ++ [Node.ofAlternatives (left.map Node.ofList)]

end DebugFind.Pattern
