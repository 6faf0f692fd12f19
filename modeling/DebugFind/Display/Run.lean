/-
The scenario on the display: a table of the stages and a status line. A stage that is reached is marked in its row, every
answer of a sweep changes the status line, and the last status tells how the run ended.

The user may leave at any time. The display then takes no further update, and the run stops at the update it was about to
make; `patience` is the number of updates up to there.
-/
import DebugFind.Scenario

namespace DebugFind.Display

open DebugFind.Scenario

variable {σ : Type}

/-- what the display knows while the scenario runs -/
structure State where
  /-- the answers shown so far -/
  shown : Nat := 0
  /-- the updates left until the user leaves, none for a user who stays -/
  patience : Option Nat := none
deriving DecidableEq, Repr

/-! ## Texts -/

/-- the cells of a stage that was reached: its name, its status, its detail -/
def cells (t : Transition) : List String := [t.stage.name, "done", t.detail]

/-- the status after an answer of a sweep -/
def probeStatus (shown : Int) (address : Int) (response : String) : Except Numeral.Error String := do
  let count ← Numeral.write shown
  let text ← Address.format address
  return "sweep probes=" ++ count ++ " last=" ++ text ++ " -> " ++ (Classification.ofText response).name

/-- the status after a complete run -/
def passedStatus (shown : Nat) : String := "passed, " ++ toString shown ++ " sweep probes"

/-- what is on the display before the scenario starts -/
def layout : List Event :=
  [.binding "q" "quit" "Quit", .widget "Header" none [], .widget "DataTable" (some "state_table") [],
    .widget "Static" (some "status_line") ["starting"], .widget "Footer" none [], .column "State" "state",
    .column "Status" "status", .column "Detail" "detail"] ++
  Stage.reachable.map fun s => .row s.name [s.name, "pending", ""]

/-! ## Updates -/

/-- changes the display, unless the user has left -/
def update (events : List Event) : Action (State × σ) Unit := do
  let (state, _) ← Action.state
  match state.patience with
  | some 0 => Action.fail .interrupted
  | patience =>
    Action.change fun (state, s) => ({ state with patience := patience.map (· - 1) }, s)
    Action.emitAll (events.map .shown)

/-- marks a stage that was reached -/
def showTransition (t : Transition) : Action (State × σ) Unit :=
  update [.cell t.stage.name "status" "done", .cell t.stage.name "detail" t.detail]

/-- shows an answer of a sweep -/
def showProbe (address : Int) (response : ProbeResponse) : Action (State × σ) Unit := do
  Action.change fun (state, s) => ({ state with shown := state.shown + 1 }, s)
  let (state, _) ← Action.state
  update [.status (← Action.ofNumeral (probeStatus state.shown address response.text))]

def observers : Observers (State × σ) := ⟨some showTransition, some showProbe⟩

/-! ## Runs -/

/-- how a run on the display ended: the stage it reached, and the finding that stopped it -/
structure Ending where
  stage : Stage
  failure : Option Failure
deriving DecidableEq

/-- shows how the scenario ended; a finding is known even if its status is not shown any more -/
def conclude (stage : Stage) : Except Failure Scenario.Result → Action (State × σ) Ending
  | .ok _ => do
    let (state, _) ← Action.state
    update [.status (passedStatus state.shown)]
    return ⟨stage, none⟩
  | .error f => do
    if f.isFinding then
      match ← (update [.status (f.line stage)]).attempt with
      | .ok () | .error .interrupted => return ⟨stage, some f⟩
      | .error g => Action.fail g
    else Action.fail f

/-- runs the scenario on the display that has been laid out -/
def session (channel : Channel σ) (profile : Profile) : Action (State × σ) Ending := do
  let (result, progress) ← Action.within {} (Scenario.run channel.under profile observers)
  match ← (conclude progress.stage result).attempt with
  | .ok ending => return ending
  | .error .interrupted => return ⟨progress.stage, none⟩
  | .error f => Action.fail f

/-- runs the scenario on a display, if there is one -/
def run (channel : Channel σ) (profile : Profile) (available : Bool := true) (patience : Option Nat := none) :
    Action σ Ending := do
  if !available then Action.fail .displayUnavailable
  else
    Action.emitAll (layout.map .shown)
    let (ending, _) ← Action.within { patience } (session channel profile)
    Action.ofExcept ending

end DebugFind.Display
