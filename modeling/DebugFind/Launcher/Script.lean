/-
A launcher that follows a script: the ends of the launches are known beforehand, one JSON object each, and are taken in
order. When the script is used up, nothing can be launched any more.
-/
import DebugFind.Json.Reader
import DebugFind.Launcher

namespace DebugFind.Launcher

/-- the end of a launch that an object describes: `unavailable` with a text, `timedOut`, or what was printed -/
def Script.launchOf? (v : Json) : Option Launch :=
  match v with
  | .object members =>
    match Json.member? members "unavailable", Json.member? members "timedOut" with
    | some (.string text), _ => some (.unavailable text)
    | _, some (.bool true) => some .timedOut
    | _, _ =>
      let text (key : String) : String := match Json.member? members key with
        | some (.string s) => s
        | _ => ""
      let exitStatus := match Json.member? members "exit" with
        | some (.int n) => n
        | _ => 0
      some (.completed (text "stdout") (text "stderr") exitStatus)
  | _ => none

/-- the script that lines of JSON describe, where there is room to read them; other lines are passed over -/
def Script.ofLines (overflow? : String → Option String) (lines : List String) : List Launch :=
  lines.filterMap fun line => match Json.read overflow? line with
    | .ok v => Script.launchOf? v
    | .error _ => none

/-- the launcher that follows a script -/
def ofScript : Launcher (List Launch) where
  launch _ _ := do
    match ← Action.state with
    | [] => return .unavailable "the script of launches is used up"
    | launch :: rest =>
      Action.change fun _ => rest
      return launch

end DebugFind.Launcher
