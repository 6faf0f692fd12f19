/-
Reading a command line. All arguments are first told apart: options (in full, by an unambiguous beginning, or with a value
behind an equals sign), values, and arguments that look like options and are none. Then the options are taken in order. A
lone double dash ends the options; attached to an option by an equals sign, it is a blank in place of a value.

A negative number and a text with a blank in it are values even if a dash stands in front.
-/
import DebugFind.CommandLine.Basic
import DebugFind.Numeral.Decimal
import DebugFind.Text.Path
import DebugFind.Text.Search

namespace DebugFind.CommandLine

open DebugFind.Text

/-- what an argument is taken for -/
inductive Token where
  | plain (text : String)
  | endOfOptions
  /-- an option, whether it is spelled by a letter, and the text attached to it -/
  | option (f : Flag) (byLetter : Bool) (attached : Option (List Char))
  /-- an argument like an option that is none -/
  | foreign (text : String)
deriving DecidableEq, Repr

/-! ## Telling arguments apart -/

/-- a text up to the first equals sign, and what stands behind it if there is one -/
def splitAtEquals (text : List Char) : List Char × Option (List Char) :=
  match text.span (· != '=') with
  | (before, []) => (before, none)
  | (before, _ :: after) => (before, some after)

/-- the option that a text spells in full -/
def inFull? (text : List Char) : Option Flag := (Flag.spellings.find? (·.1.toList == text)).map (·.2)

/-- the options that an argument may mean, by a beginning of their spelling or by a letter with text behind it -/
def candidates (text : List Char) : List (String × Token) :=
  match text with
  | '-' :: '-' :: _ =>
    let (start, value) := splitAtEquals text
    (Flag.spellings.filter (start.isPrefixOf ·.1.toList)).map fun (s, f) => (s, .option f false value)
  | a :: b :: rest =>
    Flag.spellings.filterMap fun (s, f) =>
      if s.toList == [a, b] then some (s, .option f true (some rest))
      else if text.isPrefixOf s.toList then some (s, .option f false none)
      else none
  | _ => []

/-- digits, perhaps with a point before some of them, behind a minus sign; a line feed may end the text -/
def isNegativeNumber (text : List Char) : Bool :=
  match text with
  | '-' :: body =>
    let body := if body.getLast? == some '\n' then body.dropLast else body
    match body.span isDecimalDigit with
    | (_ :: _, []) => true
    | (_, '.' :: fraction) => !fraction.isEmpty && fraction.all isDecimalDigit
    | _ => false
  | _ => false

/-- whether a spelling in full is a dash and a letter -/
def isLetterSpelling (text : List Char) : Bool := text.length == 2

/-- what an argument before the end of the options is taken for -/
def Token.ofArgument (argument : String) : Except Error Token :=
  let text := argument.toList
  if text.head? != some '-' || text.length == 1 then .ok (.plain argument)
  else
    match inFull? text, splitAtEquals text with
    | some f, _ => .ok (.option f (isLetterSpelling text) none)
    | none, (start, value) =>
      match value.bind fun v => (inFull? start).map fun f => Token.option f (isLetterSpelling start) (some v) with
      | some token => .ok token
      | none =>
        match candidates text with
        | [] => .ok (if isNegativeNumber text || text.contains ' ' then .plain argument else .foreign argument)
        | [(_, token)] => .ok token
        | found => .error (.ambiguous argument (found.map (·.1)))

/-- what the arguments are taken for -/
def tokens : List String → Except Error (List Token)
  | [] => .ok []
  | "--" :: rest => .ok (.endOfOptions :: rest.map .plain)
  | argument :: rest => do
    let token ← Token.ofArgument argument
    return token :: (← tokens rest)

/-! ## Taking the options -/

/-- the options taken so far, and the arguments that are none -/
structure Progress where
  target : Option Target := none
  profile : Option String := none
  logLevel : Given Level := .value .info
  display : Bool := false
  extras : List String := []
deriving DecidableEq, Repr

/-- a reading that goes on, or that ends with a request for help -/
inductive Call where
  | run (o : Options)
  | help
deriving DecidableEq, Repr

/-- takes a target, unless one of the other kind has been taken -/
def Progress.aim (p : Progress) (target : Target) : Except Error Progress :=
  match p.target with
  | some before =>
    if before.flag = target.flag then .ok { p with target := some target }
    else .error (.conflict target.flag before.flag)
  | none => .ok { p with target := some target }

/-- takes an option with its value -/
def Progress.take (p : Progress) (f : Flag) (value : String) : Except Error Progress :=
  match f with
  | .pid =>
    match Numeral.read value with
    | .error _ => .error (.invalidNumber .pid value)
    | .ok n => p.aim (.pid (.value n))
  | .mainClass => p.aim (.mainClass (.value value))
  | .profile => .ok { p with profile := some (Path.normal value) }
  | .logLevel =>
    match Level.ofName? value with
    | some level => .ok { p with logLevel := .value level }
    | none => .error (.invalidChoice .logLevel value (Level.all.map (·.name)))
  | .help | .display => .ok p

/-- takes an option with a blank -/
def Progress.takeBlank (p : Progress) (f : Flag) : Except Error Progress :=
  match f with
  | .pid => p.aim (.pid .blank)
  | .mainClass => p.aim (.mainClass .blank)
  | .profile => .ok { p with profile := none }
  | .logLevel => .ok { p with logLevel := .blank }
  | .help | .display => .ok p

/-- takes an option with the text attached to it -/
def Progress.takeAttached (p : Progress) (f : Flag) (text : String) : Except Error Progress :=
  if text == "--" then p.takeBlank f else p.take f text

/-- checks the text attached to a request for help: behind a letter it can be further such letters -/
def checkAttachedHelp (byLetter : Bool) (attached : Option (List Char)) : Except Error Unit :=
  match attached with
  | none => .ok ()
  | some text =>
    let rest := if byLetter then text.dropWhile (· == 'h') else text
    if rest.isEmpty && !text.isEmpty then .ok () else .error (.ignoredValue .help (String.ofList rest))

/-- takes the arguments in order; none stands for a request for help -/
def takeAll (p : Progress) : List Token → Except Error (Option Progress)
  | [] => .ok (some p)
  | .plain text :: rest => takeAll { p with extras := p.extras ++ [text] } rest
  | .endOfOptions :: rest => takeAll { p with extras := p.extras ++ ["--"] } rest
  | .foreign text :: rest => takeAll { p with extras := p.extras ++ [text] } rest
  | .option .help byLetter attached :: _ => do
    checkAttachedHelp byLetter attached
    return none
  | .option .display _ none :: rest => takeAll { p with display := true } rest
  | .option .display _ (some text) :: _ => .error (.ignoredValue .display (String.ofList text))
  | .option f _ (some text) :: rest => do takeAll (← p.takeAttached f (String.ofList text)) rest
  | .option f _ none :: .plain text :: rest => do takeAll (← p.take f text) rest
  | .option f _ none :: _ => .error (.expectedValue f)

/-- what the arguments ask for -/
def read (arguments : List String) : Except Error Call := do
  match ← takeAll {} (← tokens arguments) with
  | none => return .help
  | some p =>
    match p.target with
    | none => throw .noTarget
    | some target =>
      if !p.extras.isEmpty then throw (.unrecognized p.extras)
      else return .run ⟨target, p.profile, p.logLevel, p.display⟩

end DebugFind.CommandLine
