/-
Patterns after reading: a tree whose leaves carry their own treatment of case, lines and classes. `Node.width` bounds how
many characters a pattern takes; a look behind needs both bounds equal.
-/
import DebugFind.Pattern.CharSet

namespace DebugFind.Pattern

/-- a test of a position that takes no character -/
inductive Anchor where
  | textStart
  | textEnd
  /-- the end of the text, or just before a line feed that ends it -/
  | finalEnd
  /-- the start of the text, and of every further line if asked for -/
  | start (everyLine : Bool)
  | lineEnd
  /-- between a word character and another, or not -/
  | wordEdge (ascii negated : Bool)
deriving DecidableEq, Repr

/-- the preference of a repetition -/
inductive LoopMode where
  | greedy
  | lazy
  /-- greedy, and what it has taken is not given back -/
  | possessive
deriving DecidableEq, Repr

/-- the least and greatest number of characters taken -/
structure Width where
  least : Nat
  most : Nat
deriving DecidableEq, Repr

/-- a pattern -/
inductive Node where
  | empty
  | set (s : CharSet)
  | anchor (a : Anchor)
  /-- the text that a group took, whose width bounds are known -/
  | backref (group : Nat) (width : Width) (folding : Folding)
  | seq (first second : Node)
  | alt (first second : Node)
  | group (index : Nat) (body : Node)
  /-- `least` to `most` repetitions, any number from `least` on without `most` -/
  | loop (least : Nat) (most : Option Nat) (mode : LoopMode) (body : Node)
  /-- a test of what follows or stands before -/
  | look (behind negated : Bool) (body : Node)
  /-- the first match of the body alone -/
  | atomic (body : Node)
  /-- one of two patterns, by whether a group has taken part -/
  | ifGroup (index : Nat) (yes no : Node)
deriving DecidableEq, Repr

/-- patterns one after the other -/
def Node.ofList : List Node → Node
  | [] => .empty
  | [n] => n
  | n :: rest => .seq n (Node.ofList rest)

/-- a pattern that is no leaf of what stands around it, whatever it is itself -/
def Node.apart (n : Node) : Node := .seq n .empty

/-- patterns as alternatives, the earlier preferred -/
def Node.ofAlternatives : List Node → Node
  | [] => .empty
  | [n] => n
  | n :: rest => .alt n (Node.ofAlternatives rest)

namespace Width

/-- the greatest number of characters counts no further than this, the least number one less far -/
def limit : Nat := 4294967295

def capped (least most : Nat) : Width := ⟨min least (limit - 1), min most limit⟩

def zero : Width := ⟨0, 0⟩

def add (a b : Width) : Width := capped (a.least + b.least) (a.most + b.most)

def either (a b : Width) : Width := ⟨min a.least b.least, max a.most b.most⟩

def times (w : Width) (least : Nat) : Option Nat → Width
  | none => capped (w.least * least) (if w.most = 0 then 0 else limit)
  | some most => capped (w.least * least) (w.most * most)

end Width

/-- bounds on the number of characters that a pattern takes -/
def Node.width : Node → Width
  | .empty | .anchor _ | .look .. => .zero
  | .set _ => ⟨1, 1⟩
  | .backref _ w _ => w
  | .seq a b => a.width.add b.width
  | .alt a b => a.width.either b.width
  | .group _ body | .atomic body => body.width
  | .loop least most _ body => body.width.times least most
  | .ifGroup _ yes no => yes.width.either no.width

/-- how far a look behind can reach -/
def reachLimit : Nat := 2147483648

/-- whether a look behind reaches too far -/
def Node.reachesTooFar : Node → Bool
  | .empty | .set _ | .anchor _ | .backref .. => false
  | .seq a b | .alt a b | .ifGroup _ a b => a.reachesTooFar || b.reachesTooFar
  | .group _ body | .atomic body | .loop _ _ _ body => body.reachesTooFar
  | .look behind _ body => (behind && reachLimit ≤ body.width.least) || body.reachesTooFar

/-- the set that takes the first character of every match, where the pattern begins with one -/
def Node.firstSet? : Node → Option CharSet
  | .set s => some s
  | .seq a _ => a.firstSet?
  | .group _ body => body.firstSet?
  | _ => none

end DebugFind.Pattern
