/-
Everything about a run that can be observed from outside, in the order in which it happens.
-/
import DebugFind.Display.Event
import DebugFind.Seconds
import DebugFind.Stage

namespace DebugFind

/-- how grave a record is -/
inductive Level where
  | debug
  | info
  | warning
  | error
deriving DecidableEq, Repr

namespace Level

def all : List Level := [.debug, .info, .warning, .error]

def name : Level → String
  | .debug => "DEBUG"
  | .info => "INFO"
  | .warning => "WARNING"
  | .error => "ERROR"

def rank : Level → Nat
  | .debug => 10
  | .info => 20
  | .warning => 30
  | .error => 40

def ofName? (text : String) : Option Level := all.find? (·.name == text)

/-- whether a record is kept where `least` is the lowest level wanted -/
def reaches (least l : Level) : Bool := least.rank ≤ l.rank

end Level

/-- who writes a record -/
inductive Logger where
  | scenario
  | extractor
  | sweeper
  | launcher
  | attach
deriving DecidableEq, Repr

def Logger.name : Logger → String
  | .scenario => "src.probe.scenario"
  | .extractor => "src.probe.extractor"
  | .sweeper => "src.probe.sweeper"
  | .launcher => "src.channel.jcmd"
  | .attach => "src.channel.attach"

/-- a record of the log -/
structure Record where
  level : Level
  logger : Logger
  message : String
deriving DecidableEq, Repr

/-- a record as a line, with the time of day in front -/
def Record.line (time : String) (r : Record) : String :=
  time ++ " " ++ r.level.name ++ " " ++ r.logger.name ++ ": " ++ r.message

inductive Event where
  | logged (r : Record)
  /-- a command went to the inspected process -/
  | asked (command : String)
  /-- the launcher was started -/
  | launched (argv : List String) (timeout : Seconds)
  | slept (delay : Seconds)
  /-- an address of a sweep was answered -/
  | probed (address : Int) (exitStatus : Int)
  | reached (t : Transition)
  | shown (e : Display.Event)
  /-- a line of output -/
  | printed (line : String)
deriving DecidableEq

end DebugFind
