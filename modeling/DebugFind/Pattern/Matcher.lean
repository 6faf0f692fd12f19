/-
Matching by backtracking. `Node.run` tries the ways a pattern can match at a cursor in order of preference and hands each
to a continuation; the first that the continuation accepts is the answer. What groups have taken travels with the cursor,
so a way that is given up leaves no trace.

A repetition goes on only after an iteration that took a character. An iteration that took nothing is kept, at its place
in the order, and ends the repetition. So the number of iterations that go on is bounded by the text left.
-/
import DebugFind.Pattern.Node

namespace DebugFind.Pattern

open DebugFind.Text

/-- a position in a text, with what the groups have taken so far, latest first -/
structure Cursor where
  /-- the text before the position, in reverse -/
  before : List Char
  after : List Char
  captures : List (Nat × List Char)
deriving DecidableEq, Repr

namespace Cursor

/-- what a group has taken -/
def capture? (c : Cursor) (group : Nat) : Option (List Char) := (c.captures.find? (·.1 == group)).map (·.2)

/-- the text from this cursor to a later one -/
def textTo (c later : Cursor) : List Char := c.after.take (c.after.length - later.after.length)

def record (c : Cursor) (group : Nat) (text : List Char) : Cursor :=
  { c with captures := (group, text) :: c.captures }

/-- the cursor one character on, if that character belongs to the set -/
def step? (s : CharSet) (c : Cursor) : Option Cursor :=
  match c.after with
  | [] => none
  | x :: rest => if s.holds x then some { c with before := x :: c.before, after := rest } else none

/-- the cursor behind a text that stands at it -/
def follow? (folding : Folding) (c : Cursor) : List Char → Option Cursor
  | [] => some c
  | x :: text =>
    match c.after with
    | [] => none
    | y :: rest =>
      if folding.same x y then follow? folding { c with before := y :: c.before, after := rest } text else none

/-- the cursor `n` characters back -/
def back? (c : Cursor) : Nat → Option Cursor
  | 0 => some c
  | n + 1 =>
    match c.before with
    | [] => none
    | x :: rest => back? { c with before := rest, after := x :: c.after } n

end Cursor

/-- whether the position between two texts, the first in reverse, passes a test -/
def Anchor.holds (before after : List Char) : Anchor → Bool
  | .textStart => before.isEmpty
  | .textEnd => after.isEmpty
  | .finalEnd => after.isEmpty || after == ['\n']
  | .start everyLine => before.isEmpty || (everyLine && before.head? == some '\n')
  | .lineEnd => after.isEmpty || after.head? == some '\n'
  | .wordEdge ascii negated =>
    let inWord := fun c => CharClass.word.holds ascii c
    !(before.isEmpty && after.isEmpty) && ((before.head?.any inWord != after.head?.any inWord) != negated)

/-- what is done with a way to match -/
abbrev Continuation := Cursor → Option Cursor

/-- the first of two answers -/
def firstOf (a : Option Cursor) (b : Unit → Option Cursor) : Option Cursor :=
  match a with
  | some c => some c
  | none => b ()

/-- `n` matches of a body in a row -/
def times (body : Continuation → Continuation) (k : Continuation) : Nat → Continuation
  | 0 => k
  | n + 1 => body (times body k n)

/-- whether one more iteration is allowed -/
def mayRepeat (left : Option Nat) : Bool := left != some 0

/-- up to `left` more matches of a body, more before fewer; the first number bounds the text left -/
def manyGreedy (body : Continuation → Continuation) (k : Continuation) : Nat → Option Nat → Continuation
  | 0, left, c => if mayRepeat left then firstOf (body k c) fun _ => k c else k c
  | fuel + 1, left, c =>
    if mayRepeat left then
      firstOf (body (fun d =>
        if d.after.length < c.after.length then manyGreedy body k fuel (left.map (· - 1)) d else k d) c) fun _ => k c
    else k c

/-- up to `left` more matches of a body, fewer before more; the first number bounds the text left -/
def manyLazy (body : Continuation → Continuation) (k : Continuation) : Nat → Option Nat → Continuation
  | 0, left, c => firstOf (k c) fun _ => if mayRepeat left then body k c else none
  | fuel + 1, left, c =>
    firstOf (k c) fun _ =>
      if mayRepeat left then
        body (fun d =>
          if d.after.length < c.after.length then manyLazy body k fuel (left.map (· - 1)) d else k d) c
      else none

/-- `n` matches of a body in a row, each the first there is -/
def timesFirst (first : Continuation) : Nat → Continuation
  | 0, c => some c
  | n + 1, c => (first c).bind (timesFirst first n)

/-- as many further matches as there are, each the first; the first number bounds the text left -/
def manyFirst (first : Continuation) : Nat → Option Nat → Cursor → Cursor
  | 0, left, c => if mayRepeat left then (first c).getD c else c
  | fuel + 1, left, c =>
    if mayRepeat left then
      match first c with
      | some d => if d.after.length < c.after.length then manyFirst first fuel (left.map (· - 1)) d else d
      | none => c
    else c

/-- the first way to match a pattern at a cursor that the continuation accepts -/
def Node.run : Node → Continuation → Continuation
  | .empty, k, c => k c
  | .set s, k, c => (c.step? s).bind k
  | .anchor a, k, c => if a.holds c.before c.after then k c else none
  | .backref i _ folding, k, c => (c.capture? i).bind fun text => (c.follow? folding text).bind k
  | .seq a b, k, c => a.run (b.run k) c
  | .alt a b, k, c => firstOf (a.run k c) fun _ => b.run k c
  | .group i body, k, c => body.run (fun d => k (d.record i (c.textTo d))) c
  | .loop least most .greedy body, k, c =>
    times body.run (fun d => manyGreedy body.run k d.after.length (most.map (· - least)) d) least c
  | .loop least most .lazy body, k, c =>
    times body.run (fun d => manyLazy body.run k d.after.length (most.map (· - least)) d) least c
  | .loop least most .possessive body, k, c =>
    (timesFirst (body.run some) least c).bind fun d =>
      k (manyFirst (body.run some) d.after.length (most.map (· - least)) d)
  | .look behind negated body, k, c =>
    let found := (if behind then c.back? body.width.least else some c).bind (body.run some)
    if negated then (if found.isNone then k c else none)
    else found.bind fun d => k { c with captures := d.captures }
  | .atomic body, k, c => (body.run some c).bind k
  | .ifGroup i yes no, k, c => if (c.capture? i).isSome then yes.run k c else no.run k c

/-- the first match of a pattern in the rest of a text, leftmost first -/
def Node.searchFrom (n : Node) (before : List Char) : List Char → Option Cursor
  | [] => n.run some ⟨before, [], []⟩
  | x :: rest => firstOf (n.run some ⟨before, x :: rest, []⟩) fun _ => n.searchFrom (x :: before) rest

/-- the first match of a pattern in a text, as the cursor at its end -/
def Node.search (n : Node) (text : List Char) : Option Cursor := n.searchFrom [] text

end DebugFind.Pattern
