/-
The command line: its options, what a call asks for, and the texts that explain it.
-/
import DebugFind.Event
import DebugFind.Text.Quoted

namespace DebugFind.CommandLine

/-- the options of the command line -/
inductive Flag where
  | help
  | pid
  | mainClass
  | profile
  | logLevel
  | display
deriving DecidableEq, Repr

namespace Flag

/-- the spellings of the options, in the order in which help shows them -/
def spellings : List (String × Flag) :=
  [("-h", .help), ("--help", .help), ("--pid", .pid), ("--main-class", .mainClass), ("--profile", .profile),
    ("--log-level", .logLevel), ("--tui", .display)]

/-- the option in messages, by all its spellings -/
def name (f : Flag) : String := "/".intercalate ((spellings.filter (·.2 = f)).map (·.1))

end Flag

/-- what an option is given: a value, or a blank, which is written as a double dash behind an equals sign -/
inductive Given (α : Type) where
  | value (a : α)
  | blank
deriving DecidableEq, Repr

/-- the machine that a call asks for -/
inductive Target where
  | pid (n : Given Int)
  | mainClass (name : Given String)
deriving DecidableEq, Repr

/-- the option that names a target in such a way -/
def Target.flag : Target → Flag
  | .pid _ => .pid
  | .mainClass _ => .mainClass

/-- what a call of the program asks for -/
structure Options where
  target : Target
  /-- the file with the profile; without it, or with a blank, the packaged profile is used -/
  profile : Option String := none
  logLevel : Given Level := .value .info
  display : Bool := false
deriving DecidableEq, Repr

/-- the level from which on records are written -/
def Options.leastLevel (o : Options) : Level :=
  match o.logLevel with
  | .value level => level
  | .blank => .info

/-- what is wrong with a command line -/
inductive Error where
  | ambiguous (text : String) (candidates : List String)
  | expectedValue (f : Flag)
  | invalidNumber (f : Flag) (text : String)
  | invalidChoice (f : Flag) (text : String) (choices : List String)
  | conflict (f other : Flag)
  /-- a value for an option that takes none -/
  | ignoredValue (f : Flag) (text : String)
  | noTarget
  | unrecognized (arguments : List String)
deriving DecidableEq, Repr

/-- a message about an option -/
def about (f : Flag) (text : String) : String := "argument " ++ f.name ++ ": " ++ text

def Error.message : Error → String
  | .ambiguous text candidates =>
    "ambiguous option: " ++ text ++ " could match " ++ ", ".intercalate candidates
  | .expectedValue f => about f "expected one argument"
  | .invalidNumber f text => about f ("invalid int value: " ++ Text.quoted text)
  | .invalidChoice f text choices =>
    about f ("invalid choice: " ++ Text.quoted text ++ " (choose from " ++
      ", ".intercalate (choices.map Text.quoted) ++ ")")
  | .conflict f other => about f ("not allowed with argument " ++ other.name)
  | .ignoredValue f text => about f ("ignored explicit argument " ++ Text.quoted text)
  | .noTarget => "one of the arguments --pid --main-class is required"
  | .unrecognized arguments => "unrecognized arguments: " ++ " ".intercalate arguments

/-- the name of the program -/
def program : String := "vmdebug-find"

/-- the lines that show how the program is called -/
def usage : List String := [
  "usage: vmdebug-find [-h] (--pid PID | --main-class MAIN_CLASS)",
  "                    [--profile PROFILE]",
  "                    [--log-level \x7bDEBUG,INFO,WARNING,ERROR\x7d] [--tui]"]

/-- the lines that explain the program -/
def help : List String := usage ++ [
  "",
  "VM.debug find verification scenario",
  "",
  "options:",
  "  -h, --help            show this help message and exit",
  "  --pid PID             PID of the JVM to inspect.",
  "  --main-class MAIN_CLASS",
  "                        Main class (or jar) of the JVM to inspect, as listed",
  "                        by `jcmd -l`.",
  "  --profile PROFILE     Optional path to a probe profile (default:",
  "                        src/config/probe_profile.json).",
  "  --log-level \x7bDEBUG,INFO,WARNING,ERROR\x7d",
  "                        Logging level (default: INFO).",
  "  --tui                 Show scenario progress in an interactive TUI."]

/-- the lines that say what is wrong with a call -/
def Error.lines (e : Error) : List String := usage ++ [program ++ ": error: " ++ e.message]

end DebugFind.CommandLine
