/-
The channel to a virtual machine through the `jcmd` launcher. A command line becomes the arguments behind the process id.
The launcher prints the id and a colon first once it has reached the machine, so a launch that ends with an error status
counts as an answer exactly if its output begins so.
-/
import DebugFind.Channel
import DebugFind.Launcher

namespace DebugFind

/-- the channel to one machine -/
structure Jcmd where
  pid : Nat
  executable : String
  timeout : Seconds
  pid_pos : 0 < pid
  timeout_ok : timeout.nonPositive = false

namespace Jcmd

def defaultExecutable : String := "jcmd"

def defaultTimeout : Seconds := .real (Binary64.ofRatio false 30 1)

/-- the channel to the machine with a process id; the id and the timeout have to be positive -/
def ofPid (pid : Int) (executable : String := defaultExecutable) (timeout : Seconds := defaultTimeout) :
    Except Failure Jcmd :=
  if hp : 0 < pid.toNat then
    if ht : timeout.nonPositive = false then .ok ⟨pid.toNat, executable, timeout, hp, ht⟩
    else .error .timeoutNotPositive
  else .error .pidNotPositive

/-- the arguments that a command line is launched with -/
def argv (j : Jcmd) (command : String) : Except Failure (List String) := do
  let pid ← Failure.ofNumeral (Numeral.write j.pid)
  let words ← (Text.ShellWords.split command).mapError .quoting
  return j.executable :: pid :: words

/-- whether an output shows that the launcher reached the machine -/
def reached (j : Jcmd) (stdout : String) : Except Failure Bool := do
  let pid ← Failure.ofNumeral (Numeral.write j.pid)
  return Text.beginsWith stdout (pid ++ ":")

/-- the timeout in seconds, with one decimal place -/
def timeoutText (j : Jcmd) : Except Failure String :=
  match j.timeout.toBinary64? with
  | some x => .ok x.oneDecimal
  | none => .error .timeoutTooLarge

/-- the text about a command that took too long -/
def timedOutMessage (j : Jcmd) (command : String) : Except Failure String := do
  let timeout ← j.timeoutText
  let pid ← Failure.ofNumeral (Numeral.write j.pid)
  return "Command '" ++ command ++ "' timed out after " ++ timeout ++ "s for pid=" ++ pid ++ "."

/-- the text about a launch that did not reach the machine -/
def notReachedMessage (j : Jcmd) (command : String) (exitStatus : Int) : Except Failure String := do
  let pid ← Failure.ofNumeral (Numeral.write j.pid)
  let status ← Failure.ofNumeral (Numeral.write exitStatus)
  return "Could not attach to pid=" ++ pid ++ " for '" ++ command ++ "' (exit status " ++ status ++ ")."

/-- what the end of a launch means for the command -/
def answer (j : Jcmd) (command : String) : Launch → Except Failure CommandOutput
  | .timedOut => do .error (.channel ⟨← j.timedOutMessage command, some command, ""⟩)
  | .unavailable text =>
    .error (.channel ⟨"Unable to launch '" ++ j.executable ++ "': " ++ text, some command, ""⟩)
  | .completed stdout stderr exitStatus => do
    let text := stdout ++ stderr
    if exitStatus = 0 || (← j.reached stdout) then return ⟨text, exitStatus⟩
    else .error (.channel ⟨← j.notReachedMessage command exitStatus, some command, text⟩)

/-- what the log says about a command -/
def note (j : Jcmd) (command : String) : String :=
  "jcmd pid=" ++ toString j.pid ++ " command=" ++ Text.quoted command

/-- runs a command -/
def execute {σ : Type} (j : Jcmd) (launcher : Launcher σ) (command : String) : Action σ CommandOutput := do
  let argv ← Action.ofExcept (j.argv command)
  Action.log .debug .launcher (j.note command)
  let launch ← launcher.launch argv j.timeout
  let output ← Action.ofExcept (j.answer command launch)
  if output.exitStatus ≠ 0 then
    Action.log .debug .launcher (j.note command ++ " exit status " ++ toString output.exitStatus)
  return output

/-- the machine as a channel -/
def channel {σ : Type} (j : Jcmd) (launcher : Launcher σ) : Channel σ := ⟨j.execute launcher⟩

end Jcmd

end DebugFind
