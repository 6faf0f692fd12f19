/-
Channels to the inspected process: a command goes out and its output comes back, or the channel fails. What the channel
knows is part of the surroundings `σ`, so an answer may depend on everything that was asked before.
-/
import DebugFind.Action
import DebugFind.Probe

namespace DebugFind

/-- what a command printed, and its exit status -/
structure CommandOutput where
  text : String
  exitStatus : Int := 0
deriving DecidableEq, Repr

structure Channel (σ : Type) where
  execute : String → Action σ CommandOutput

namespace Channel

variable {σ ρ : Type}

/-- asks what an address is -/
def probe (channel : Channel σ) (address : Int) (verbose : Bool := false) : Action σ ProbeResponse := do
  let command ← Action.ofNumeral (Command.find address verbose)
  let output ← channel.execute command
  return ⟨address, command, output.text, verbose, output.exitStatus⟩

/-- asks for the live threads -/
def listThreads (channel : Channel σ) : Action σ String := do
  return (← channel.execute Command.threadListing).text

/-- the channel, each command being an event -/
def traced (channel : Channel σ) : Channel σ where
  execute command := do
    Action.emit (.asked command)
    channel.execute command

/-- the channel with a further part of the surroundings -/
def under (channel : Channel σ) : Channel (ρ × σ) := ⟨fun command => (channel.execute command).under⟩

end Channel

end DebugFind
