/-
Reading a pattern from its text. `Pattern.compile` gives the tree and the number of groups, or says what is wrong where.

Switches for the whole pattern stand at its start, so those in force are known when a leaf is read and are written into it.
-/
import DebugFind.Pattern.Alternatives
import DebugFind.Pattern.Bracket
import DebugFind.Pattern.Matcher
import DebugFind.Pattern.Opening
import DebugFind.Pattern.Repetition
import DebugFind.Runtime

namespace DebugFind

open DebugFind.Text DebugFind.Numeral

/-- a pattern ready for matching -/
structure Pattern where
  root : Pattern.Node
  /-- how many groups can be captured -/
  groups : Nat
deriving DecidableEq, Repr

namespace Pattern

/-! ## Sequences and alternatives -/

/-- a character that verbose patterns skip -/
def isVerboseBlank (c : Char) : Bool := isAsciiBlank c

mutual

/-- reads alternatives up to a closing parenthesis or the end; the number bounds the steps -/
def readAlternatives (scope : Option Flags) (early : Bool) : Nat → Reading (List (List Node))
  | 0 => refuse .unterminatedGroup
  | fuel + 1 => do
    let nodes ← readSequence scope early [] fuel
    if ← accept '|' then return nodes :: (← readAlternatives scope false fuel) else return [nodes]

/-- reads a sequence; `soFar` are the items before, in reverse -/
def readSequence (scope : Option Flags) (early : Bool) (soFar : List Item) : Nat → Reading (List Node)
  | 0 => refuse .unterminatedGroup
  | fuel + 1 => do
    let token ← peek
    if token.isEmpty || token == ['|'] || token == [')'] then
      return soFar.reverse.flatMap (·.nodes)
    else
      let _ ← next
      let flags ← flagsIn scope
      match token with
      -- only a backslash begins a token of two characters
      | [_, c] => readSequence scope early ((← readEscape flags c) :: soFar) fuel
      | [c] =>
        if flags.verbose && isVerboseBlank c then readSequence scope early soFar fuel
        else if flags.verbose && c == '#' then
          skipLine ((← get).rest.length + 1)
          readSequence scope early soFar fuel
        else if c == '[' then readSequence scope early ((← readSet flags) :: soFar) fuel
        else if c == '.' then readSequence scope early (anyItem flags :: soFar) fuel
        else if c == '^' then
          readSequence scope early (⟨[.anchor (.start flags.multiline)], .anchor⟩ :: soFar) fuel
        else if c == '$' then
          readSequence scope early (⟨[.anchor (if flags.multiline then .lineEnd else .finalEnd)], .anchor⟩ :: soFar) fuel
        else if c == '*' then
          readSequence scope early (← repeatLast (← get).offset 0 none soFar) fuel
        else if c == '+' then
          readSequence scope early (← repeatLast (← get).offset 1 none soFar) fuel
        else if c == '?' then
          readSequence scope early (← repeatLast (← get).offset 0 (some 1) soFar) fuel
        else if c == '\x7b' then
          let start := (← get).offset
          match ← readCounts with
          | none => readSequence scope early (single flags (.one c.toNat) :: soFar) fuel
          | some (least, most) => readSequence scope early (← repeatLast start least most soFar) fuel
        else if c == '(' then
          let start := (← get).offset - 1
          let opening ← readOpening flags start (early && soFar.isEmpty)
          match ← readGroup flags start opening fuel with
          | none => readSequence scope early soFar fuel
          | some nodes => readSequence scope early (⟨nodes, .plain⟩ :: soFar) fuel
        else readSequence scope early (single flags (.one c.toNat) :: soFar) fuel
      | _ => refuse .unterminatedGroup

/-- reads the rest of a group that opened at offset `start`; none if it is no item. A group that neither captures nor sets
switches adds its nodes to the sequence around it. -/
def readGroup (flags : Flags) (start : Nat) (opening : Opening) : Nat → Reading (Option (List Node))
  | 0 => refuse .unterminatedGroup
  | fuel + 1 => do
    match opening with
    | .nothing => return none
    | .reference node => return some [node]
    | .capture name =>
      let index ← openGroup name
      let body := Node.ofList (joinAlternatives (← readAlternatives (some flags) false fuel))
      closeParenthesis start
      closeGroup index body
      return some [.group index body]
    | .scoped on off =>
      let nodes := joinAlternatives (← readAlternatives (some (flags.within on off)) false fuel)
      closeParenthesis start
      return some (if on == {} && off == {} then nodes else [Node.apart (.ofList nodes)])
    | .atomic =>
      let body := Node.ofList (joinAlternatives (← readAlternatives (some flags) false fuel))
      closeParenthesis start
      return some [.atomic body]
    | .look behind negated =>
      let outer ← enterLook behind
      let body := Node.ofList (joinAlternatives (← readAlternatives (some flags) false fuel))
      leaveLook behind outer
      closeParenthesis start
      return some [.look behind negated body]
    | .condition group =>
      let yes ← readSequence (some flags) false [] fuel
      let no ← if ← accept '|' then
          let no ← readSequence (some flags) false [] fuel
          if (← peek) == ['|'] then refuse .tooManyBranches else pure no
        else pure []
      closeParenthesis start
      return some [.ifGroup group (.ofList yes) (.ofList no)]

end

/-! ## Whole patterns -/

/-- the first thing in a pattern that cannot be matched: a look behind without a fixed width, a loop in a template -/
def Node.problem? (template : Bool) : Node → Option Problem
  | .empty | .set _ | .anchor _ | .backref .. => none
  | .seq a b | .alt a b | .ifGroup _ a b => (a.problem? template).or (b.problem? template)
  | .group _ body | .atomic body => body.problem? template
  | .loop _ _ mode body =>
    if template then
      some (.templateLoop (match mode with
        | .greedy => "MAX_REPEAT"
        | .lazy => "MIN_REPEAT"
        | .possessive => "POSSESSIVE_REPEAT"))
    else body.problem? template
  | .look behind _ body =>
    if behind && body.width.least != body.width.most then some .lookBehindWidth else body.problem? template

/-- a test of the character that stands first. A pattern that begins with a set without letters of two cases is looked for
only where that set, with the classes as the switches of the whole pattern have them, holds the next character. -/
def Node.firstTest? (n : Node) (ascii : Bool) : Option Node :=
  match n.firstSet? with
  | some s =>
    if s.ascii == ascii || s.items.any s.hasCase then none
    else some (.look false false (.set { s with folding := .exact, ascii }))
  | none => none

/-- reads a whole pattern -/
def readPattern : Reading Pattern := do
  lookAhead
  let root := Node.ofList (joinAlternatives (← readAlternatives none true (4 * (← get).rest.length + 4)))
  let r ← get
  if r.flags.ascii && r.flags.unicode then throw .asciiAndUnicode
  else if !r.rest.isEmpty then refuse .unbalancedParenthesis
  else
    match r.asked.find? (r.groups ≤ ·.1) with
    | some (group, offset) => throw (.malformed (.invalidGroup group) (some (Place.at r.pattern offset)))
    | none =>
      match root.problem? r.flags.template with
      | some problem => throw (.malformed problem none)
      | none =>
        if root.reachesTooFar then throw .reachTooFar
        else return ⟨.ofList ((root.firstTest? r.flags.ascii).toList ++ [root]), r.widths.length⟩

/-- the pattern that a text spells, if there is room to compile it -/
def compile (runtime : Runtime) (text : String) : Except Error Pattern :=
  match runtime.pattern.overflow? text with
  | some message => .error (.tooDeep message)
  | none =>
    (·.1) <$> readPattern.run
      { pattern := text.toList, rest := text.toList, characterNamed? := runtime.characterNamed? }

end Pattern

end DebugFind
