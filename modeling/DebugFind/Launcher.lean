/-
The launcher: it starts a program with its arguments and waits for it, up to a timeout.
-/
import DebugFind.Action

namespace DebugFind

/-- how a launch ended -/
inductive Launch where
  | completed (stdout stderr : String) (exitStatus : Int)
  /-- the program could not be started; the text is the host's -/
  | unavailable (text : String)
  | timedOut
deriving DecidableEq, Repr

structure Launcher (σ : Type) where
  launch : List String → Seconds → Action σ Launch

namespace Launcher

/-- how the host reports a launch that took too long -/
def timeoutText (argv : List String) (timeout : Seconds) : String :=
  "Command '" ++ Text.quotedList argv ++ "' timed out after " ++ timeout.text ++ " seconds"

/-- the launcher, each launch being an event -/
def traced {σ : Type} (launcher : Launcher σ) : Launcher σ where
  launch argv timeout := do
    Action.emit (.launched argv timeout)
    launcher.launch argv timeout

end Launcher

end DebugFind
