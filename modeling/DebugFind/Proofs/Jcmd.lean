/-
One machine behind its launcher. A command becomes the arguments of one launch, and what that launch ends with decides
what becomes of the command: it is answered exactly if the machine was reached, and is lost otherwise.

- `argv_find`: the question about an address is launched with the address as its last argument, and no other question is.
- `Launch.Reached`: the ends of a launch that are answers; `answer_of_reached` and `answer_of_not_reached` say what an end
  means for the command.
- `beginsWith_header_iff`: the output of a machine begins with no process id but its own, followed by a colon.
- `execute_once`: one command is one launch and has one outcome; `status_untold` is an end of which no channel failure tells.
-/
import DebugFind.Jcmd
import DebugFind.Proofs.Command

namespace DebugFind

open DebugFind.Text DebugFind.Numeral

variable {σ : Type}

/-! ## The arguments of a launch -/

/-- the arguments of the launches, in order -/
def launches (events : List Event) : List (List String) :=
  events.filterMap fun
    | .launched argv _ => some argv
    | _ => none

namespace Jcmd

theorem argv_of_split {jcmd : Jcmd} {pid command : String} {words : List String}
    (hpid : Numeral.write jcmd.pid = .ok pid) (hwords : ShellWords.split command = .ok words) :
    jcmd.argv command = .ok (jcmd.executable :: pid :: words) := by
  rw [argv, hpid, hwords]
  rfl

theorem argv_of_quoting {jcmd : Jcmd} {pid command : String} {e : ShellWords.Error}
    (hpid : Numeral.write jcmd.pid = .ok pid) (he : ShellWords.split command = .error e) :
    jcmd.argv command = .error (.quoting e) := by
  rw [argv, hpid, he]
  rfl

/-- **The address that is asked for is the address that is delivered.** The question about an address that can be written
is launched with the process id, the words of the question, the flag if it is verbose, and one last argument, which is the
text of the address and is read as it. Another question has another text and is launched with other arguments. -/
theorem argv_find {jcmd : Jcmd} (hpid : Numeral.Writable jcmd.pid) {a : Int} (ha : Address.Writable a) (verbose : Bool) :
    ∃ command last, Command.find a verbose = .ok command ∧ Address.format a = .ok last ∧ Address.parse last = .ok a ∧
      jcmd.argv command = .ok ([jcmd.executable, String.ofList (decimal jcmd.pid), "VM.debug", "find"] ++
        (if verbose then ["-verbose"] else []) ++ [last]) ∧
      ∀ b verbose' other, Command.find b verbose' = .ok other → (a, verbose) ≠ (b, verbose') →
        command ≠ other ∧ jcmd.argv command ≠ jcmd.argv other := by
  have hargv (b : Int) (verbose : Bool) : jcmd.argv (Command.findText b verbose) =
      .ok (jcmd.executable :: String.ofList (decimal jcmd.pid) :: Command.findWords b verbose) :=
    argv_of_split (write_of_writable hpid) (Command.split_findText b verbose)
  have hformat := Address.format_of_writable ha
  refine ⟨_, _, Command.find_of_writable ha verbose, hformat, (Address.format_eq_ok_iff.1 hformat).2,
    hargv a verbose, ?_⟩
  intro b verbose' other hother hne
  obtain ⟨-, rfl⟩ := Command.find_eq_ok_iff.1 hother
  constructor
  · intro hsame
    obtain ⟨rfl, rfl⟩ := Command.findText_inj hsame
    exact hne rfl
  · intro hsame
    rw [hargv, hargv] at hsame
    obtain ⟨rfl, rfl⟩ := Command.findWords_inj (List.cons.inj (List.cons.inj (Except.ok.inj hsame)).2).2
    exact hne rfl

/-- the timeout that is used if none is given is one -/
theorem nonPositive_defaultTimeout : defaultTimeout.nonPositive = false := by decide +kernel

end Jcmd

/-- a machine whose process id begins the ids of other machines -/
def shortJcmd : Jcmd where
  pid := 12
  executable := Jcmd.defaultExecutable
  timeout := Jcmd.defaultTimeout
  pid_pos := by decide
  timeout_ok := Jcmd.nonPositive_defaultTimeout

/-- a sentinel does not become a flag, whose sign it shares -/
theorem Jcmd.argv_find_sentinel :
    Numeral.Writable shortJcmd.pid ∧ Address.Writable (-1) ∧
      ∃ command last, Command.find (-1) true = .ok command ∧ Address.format (-1) = .ok last ∧
        Address.parse last = .ok (-1) ∧
        shortJcmd.argv command = .ok (["jcmd", "12", "VM.debug", "find"] ++ ["-verbose"] ++ [last]) ∧
        ∀ b verbose other, Command.find b verbose = .ok other → (-1, true) ≠ (b, verbose) →
          command ≠ other ∧ shortJcmd.argv command ≠ shortJcmd.argv other := by
  have hpid : Numeral.Writable shortJcmd.pid := by decide
  have ha : Address.Writable (-1) := Or.inr (by decide)
  exact ⟨hpid, ha, argv_find hpid ha true⟩

/-! ## What the end of a launch means -/

namespace Launch

/-- the program ended, and its status is zero or its output begins with the process id and a colon -/
def Reached (pid : String) : Launch → Prop
  | .completed stdout _ exitStatus => exitStatus = 0 ∨ (pid ++ ":").toList <+: stdout.toList
  | .unavailable _ => False
  | .timedOut => False

/-- what a launch printed, on both outputs, and its status -/
def output : Launch → CommandOutput
  | .completed stdout stderr exitStatus => ⟨stdout ++ stderr, exitStatus⟩
  | .unavailable _ => ⟨"", 0⟩
  | .timedOut => ⟨"", 0⟩

end Launch

namespace Jcmd

/-- the failure of a command whose launch did not reach the machine; a status that is too long to be written cannot be
reported -/
def loss (jcmd : Jcmd) (pid timeout command : String) : Launch → Failure
  | .timedOut =>
    .channel ⟨"Command '" ++ command ++ "' timed out after " ++ timeout ++ "s for pid=" ++ pid ++ ".", some command, ""⟩
  | .unavailable text => .channel ⟨"Unable to launch '" ++ jcmd.executable ++ "': " ++ text, some command, ""⟩
  | .completed stdout stderr exitStatus =>
    if Writable exitStatus then
      .channel ⟨"Could not attach to pid=" ++ pid ++ " for '" ++ command ++ "' (exit status " ++
        String.ofList (decimal exitStatus) ++ ").", some command, stdout ++ stderr⟩
    else .numeral .tooLongToWrite

variable {jcmd : Jcmd} {pid timeout : String}

/-- whether an output shows that the machine was reached -/
theorem reached_eq (hpid : Numeral.write jcmd.pid = .ok pid) (stdout : String) :
    jcmd.reached stdout = .ok ((pid ++ ":").toList.isPrefixOf stdout.toList) := by
  rw [reached, hpid]
  rfl

/-- a launch that reached the machine is an answer -/
theorem answer_of_reached (hpid : Numeral.write jcmd.pid = .ok pid) (command : String) {launch : Launch}
    (h : launch.Reached pid) : jcmd.answer command launch = .ok launch.output := by
  cases launch with
  | completed stdout stderr exitStatus =>
    rw [answer, reached_eq hpid]
    rcases h with hstatus | hheader
    · simp [hstatus, Launch.output, bind, Except.bind, pure, Except.pure]
    · have hbegins : (pid ++ ":").toList.isPrefixOf stdout.toList = true := List.isPrefixOf_iff_prefix.2 hheader
      simp only [hbegins]
      simp [Launch.output, bind, Except.bind, pure, Except.pure]
  | unavailable text => exact h.elim
  | timedOut => exact h.elim

/-- a launch that did not reach the machine is a failure -/
theorem answer_of_not_reached (hpid : Numeral.write jcmd.pid = .ok pid) (htimeout : jcmd.timeoutText = .ok timeout)
    (command : String) {launch : Launch} (h : ¬ launch.Reached pid) :
    jcmd.answer command launch = .error (jcmd.loss pid timeout command launch) := by
  cases launch with
  | completed stdout stderr exitStatus =>
    obtain ⟨hstatus, hheader⟩ : exitStatus ≠ 0 ∧ ¬ (pid ++ ":").toList <+: stdout.toList := not_or.1 h
    have hbegins : (pid ++ ":").toList.isPrefixOf stdout.toList = false := by
      rw [← Bool.not_eq_true, List.isPrefixOf_iff_prefix]
      exact hheader
    rw [answer, reached_eq hpid, hbegins, loss, notReachedMessage, hpid]
    by_cases hwritable : Writable exitStatus
    · rw [if_pos hwritable, write_of_writable hwritable]
      simp [hstatus, bind, Except.bind, pure, Except.pure, Failure.ofNumeral, Except.mapError]
    · rw [if_neg hwritable, write_of_not_writable hwritable]
      simp [hstatus, bind, Except.bind, Failure.ofNumeral, Except.mapError]
  | unavailable text => rfl
  | timedOut =>
    rw [answer, timedOutMessage, htimeout, hpid]
    rfl

theorem reached_of_answer (hpid : Numeral.write jcmd.pid = .ok pid) (htimeout : jcmd.timeoutText = .ok timeout)
    {command : String} {launch : Launch} {output : CommandOutput} (h : jcmd.answer command launch = .ok output) :
    launch.Reached pid ∧ output = launch.output := by
  have hreached : launch.Reached pid := by
    by_contra hlost
    rw [answer_of_not_reached hpid htimeout command hlost] at h
    cases h
  rw [answer_of_reached hpid command hreached] at h
  cases h
  exact ⟨hreached, rfl⟩

theorem not_reached_of_answer (hpid : Numeral.write jcmd.pid = .ok pid) (htimeout : jcmd.timeoutText = .ok timeout)
    {command : String} {launch : Launch} {e : Failure} (h : jcmd.answer command launch = .error e) :
    ¬ launch.Reached pid ∧ e = jcmd.loss pid timeout command launch := by
  have hlost : ¬ launch.Reached pid := by
    intro hreached
    rw [answer_of_reached hpid command hreached] at h
    cases h
  rw [answer_of_not_reached hpid htimeout command hlost] at h
  cases h
  exact ⟨hlost, rfl⟩

/-- the timeout that is used if none is given has a text -/
theorem timeoutText_default (h : jcmd.timeout = defaultTimeout) : jcmd.timeoutText = .ok "30.0" := by
  have htext : (Binary64.ofRatio false 30 1).oneDecimal = "30.0" := by decide +kernel
  rw [timeoutText, h]
  exact congrArg Except.ok htext

end Jcmd

/-! ## Headers -/

/-- the text that a machine prints first is begun by its process id and a colon, and by no other id and a colon -/
theorem beginsWith_header_iff {p q : Nat} {rest : String} :
    beginsWith (String.ofList (decimal q) ++ ":" ++ rest) (String.ofList (decimal p) ++ ":") ↔ p = q := by
  have hcolon (n : Nat) : ':' ∉ decimal n := fun h => absurd (isDigit_of_mem_decimal h) (by decide)
  have hheader : (":" : String).toList = [':'] := rfl
  rw [beginsWith, List.isPrefixOf_iff_prefix]
  simp only [String.toList_append, String.toList_ofList, hheader, List.append_assoc, List.singleton_append]
  rw [append_mark_prefix_iff (hcolon p) (hcolon q), decimal_injective.eq_iff, Nat.cast_inj]

/-! ## Commands as launches -/

/-- a launcher whose launches end as the arguments, the timeout and the state of the surroundings have it -/
def Launcher.ending (ends : List String → Seconds → σ → Launch × σ) : Launcher σ :=
  ⟨fun argv timeout s => ⟨.ok (ends argv timeout s).1, (ends argv timeout s).2, []⟩⟩

/-- a launcher whose launches end one after the other as is said beforehand; the state counts them -/
def Launcher.inTurn (outcomes : Nat → Launch) : Launcher Nat := ⟨fun _ _ n => ⟨.ok (outcomes n), n + 1, []⟩⟩

/-- the status of the launch, if there is one, can be written -/
def Launch.Tellable : Launch → Prop
  | .completed _ _ exitStatus => Writable exitStatus
  | .unavailable _ => True
  | .timedOut => True

namespace Jcmd

variable {jcmd : Jcmd}

/-- the events of a command that was launched: a note before the launch, and one after an answer with another status than
zero -/
def events (jcmd : Jcmd) (command : String) (argv : List String) (answer : Except Failure CommandOutput) : List Event :=
  [.logged ⟨.debug, .launcher, jcmd.note command⟩, .launched argv jcmd.timeout] ++
    match answer with
    | .ok output =>
      if output.exitStatus = 0 then []
      else [.logged ⟨.debug, .launcher, jcmd.note command ++ " exit status " ++ toString output.exitStatus⟩]
    | .error _ => []

theorem launches_events (jcmd : Jcmd) (command : String) (argv : List String) (answer : Except Failure CommandOutput) :
    launches (jcmd.events command argv answer) = [argv] := by
  unfold events
  split
  · split_ifs <;> rfl
  · rfl

/-- a command that makes arguments is launched once, and has the outcome that the end of the launch means -/
theorem execute_of_launch {launcher : Launcher σ} {command : String} {argv : List String} {launch : Launch} {s t : σ}
    (hargv : jcmd.argv command = .ok argv) (hlaunch : launcher.launch argv jcmd.timeout s = ⟨.ok launch, t, []⟩) :
    jcmd.execute launcher.traced command s =
      ⟨jcmd.answer command launch, t, jcmd.events command argv (jcmd.answer command launch)⟩ := by
  unfold execute
  rcases hanswer : jcmd.answer command launch with e | output
  · simp [events, hargv, bind, Action.andThen, Action.next, Action.ofExcept, Action.log, Action.emit, Launcher.traced,
      hlaunch, hanswer]
  · by_cases hstatus : output.exitStatus = 0 <;>
      simp [events, hargv, bind, Action.andThen, Action.next, Action.ofExcept, Action.log, Action.emit, Launcher.traced,
        hlaunch, hanswer, hstatus, pure, Action.done]

theorem execute_ending {command : String} {argv : List String} (hargv : jcmd.argv command = .ok argv)
    (ends : List String → Seconds → σ → Launch × σ) (s : σ) :
    let launch := (ends argv jcmd.timeout s).1
    jcmd.execute (Launcher.ending ends).traced command s =
      ⟨jcmd.answer command launch, (ends argv jcmd.timeout s).2,
        jcmd.events command argv (jcmd.answer command launch)⟩ :=
  execute_of_launch hargv rfl

/-- a command that makes none is not launched -/
theorem execute_of_argv_error {launcher : Launcher σ} {command : String} {e : Failure}
    (h : jcmd.argv command = .error e) (s : σ) : jcmd.execute launcher command s = ⟨.error e, s, []⟩ := by
  have hstart : (Action.ofExcept (jcmd.argv command) s).result = .error e := h
  rw [execute, Action.bind_error hstart]
  rfl

/-- the loss of a command is a failure of the channel, about the command and with what was printed, if it can be told -/
theorem loss_of_tellable (jcmd : Jcmd) (pid timeout command : String) {launch : Launch} (h : launch.Tellable) :
    ∃ message, jcmd.loss pid timeout command launch = .channel ⟨message, some command, launch.output.text⟩ := by
  cases launch with
  | completed stdout stderr exitStatus => exact ⟨_, if_pos h⟩
  | unavailable text => exact ⟨_, rfl⟩
  | timedOut => exact ⟨_, rfl⟩

theorem loss_of_not_tellable (jcmd : Jcmd) (pid timeout command : String) {launch : Launch}
    (h : ¬ launch.Tellable) :
    jcmd.loss pid timeout command launch = .numeral .tooLongToWrite := by
  cases launch with
  | completed stdout stderr exitStatus => exact if_neg h
  | unavailable text => exact absurd trivial h
  | timedOut => exact absurd trivial h

/-- a status other than zero, behind the header of another machine, is no answer -/
theorem not_reached_of_header {p q : Nat} (hne : p ≠ q) {exitStatus : Int} (hstatus : exitStatus ≠ 0)
    (rest stderr : String) :
    ¬ (Launch.completed (String.ofList (decimal q) ++ ":" ++ rest) stderr exitStatus).Reached
      (String.ofList (decimal p)) := by
  rintro (hzero | hheader)
  · exact hstatus hzero
  · exact hne (beginsWith_header_iff.1 (List.isPrefixOf_iff_prefix.2 hheader))

/-- **One command, one launch, one outcome.** A command with an open quote is refused before the launcher is run. Every
other one is launched once, however this launch ends, and is answered exactly if the launch reached the machine, with what
it printed and its status. Otherwise the channel fails, with the command and what was printed; a status that cannot be
written makes another failure of it. A machine is reached by no header but its own, so the header of another one does not
make up for an error status. -/
theorem execute_once (hpid : Writable jcmd.pid) {x : Binary64} (htimeout : jcmd.timeout.toBinary64? = some x)
    (ends : List String → Seconds → σ → Launch × σ) (command : String) (s : σ) :
    let pid := String.ofList (decimal jcmd.pid)
    let o := jcmd.execute (Launcher.ending ends).traced command s
    (∀ e, ShellWords.split command = .error e → o = ⟨.error (.quoting e), s, []⟩) ∧
      (∀ words, ShellWords.split command = .ok words →
        let argv := jcmd.executable :: pid :: words
        let launch := (ends argv jcmd.timeout s).1
        launches o.events = [argv] ∧ o.world = (ends argv jcmd.timeout s).2 ∧
          (∀ output, o.result = .ok output ↔ launch.Reached pid ∧ output = launch.output) ∧
          (¬ launch.Reached pid → launch.Tellable →
            ∃ message, o.result = .error (.channel ⟨message, some command, launch.output.text⟩)) ∧
          (¬ launch.Reached pid → ¬ launch.Tellable → o.result = .error (.numeral .tooLongToWrite)) ∧
          ∀ q rest stderr exitStatus, jcmd.pid ≠ q → exitStatus ≠ 0 →
            launch = .completed (String.ofList (decimal q) ++ ":" ++ rest) stderr exitStatus →
            ∃ e, o.result = .error e) ∧
      ∀ (p q : Nat) (rest : String),
        beginsWith (String.ofList (decimal q) ++ ":" ++ rest) (String.ofList (decimal p) ++ ":") ↔ p = q := by
  intro pid o
  have hwrite : Numeral.write jcmd.pid = .ok pid := write_of_writable hpid
  have htext : jcmd.timeoutText = .ok x.oneDecimal := by rw [timeoutText, htimeout]
  refine ⟨?_, ?_, fun p q rest => beginsWith_header_iff⟩
  · intro e he
    exact execute_of_argv_error (argv_of_quoting hwrite he) s
  · intro words hwords argv launch
    have ho : o = ⟨jcmd.answer command launch, (ends argv jcmd.timeout s).2,
        jcmd.events command argv (jcmd.answer command launch)⟩ :=
      execute_ending (argv_of_split hwrite hwords) ends s
    have hlost (h : ¬ launch.Reached pid) : o.result = .error (jcmd.loss pid x.oneDecimal command launch) := by
      rw [ho]
      exact answer_of_not_reached hwrite htext command h
    refine ⟨?_, ?_, ?_, ?_, ?_, ?_⟩
    · rw [ho]
      exact launches_events _ _ _ _
    · rw [ho]
    · intro output
      rw [ho]
      constructor
      · exact reached_of_answer hwrite htext
      · rintro ⟨hreached, rfl⟩
        exact answer_of_reached hwrite command hreached
    · intro h htellable
      obtain ⟨message, hloss⟩ := loss_of_tellable jcmd pid x.oneDecimal command htellable
      exact ⟨message, by rw [hlost h, hloss]⟩
    · intro h huntellable
      rw [hlost h, loss_of_not_tellable jcmd pid x.oneDecimal command huntellable]
    · intro q rest stderr exitStatus hne hstatus hlaunch
      refine ⟨_, hlost ?_⟩
      rw [hlaunch]
      exact not_reached_of_header hne hstatus rest stderr

/-- a command that another machine is reached by, whose id the one asked for begins -/
theorem execute_once_of_longer_header :
    Writable shortJcmd.pid ∧ (∃ x, shortJcmd.timeout.toBinary64? = some x) ∧
      let launch : Launch := .completed "123:\nhelp" "" 1
      let o := shortJcmd.execute (Launcher.ending fun _ _ (n : Nat) => (launch, n + 1)).traced Command.threadListing 0
      ¬ launch.Reached "12" ∧ launches o.events = [["jcmd", "12", "Thread.print"]] ∧ o.world = 1 ∧
        ∃ message, o.result = .error (.channel ⟨message, some "Thread.print", "123:\nhelp"⟩) := by
  have hpid : Writable shortJcmd.pid := by decide
  have hsplit : ShellWords.split Command.threadListing = .ok [Command.threadListing] := by decide +kernel
  have hlost : ¬ (Launch.completed "123:\nhelp" "" 1).Reached "12" :=
    @not_reached_of_header 12 123 (by decide) 1 (by decide) "\nhelp" ""
  have htellable : (Launch.completed "123:\nhelp" "" 1).Tellable := by
    show Writable 1
    decide
  obtain ⟨-, hlaunched, -⟩ := execute_once hpid (x := Binary64.ofRatio false 30 1) rfl
    (fun _ _ (n : Nat) => (Launch.completed "123:\nhelp" "" 1, n + 1)) Command.threadListing 0
  obtain ⟨hlaunches, hworld, -, hfailure, -⟩ := hlaunched _ hsplit
  exact ⟨hpid, ⟨_, rfl⟩, hlost, hlaunches, hworld, hfailure hlost htellable⟩

/-- **A lost command is not always a failure of the channel**: none tells of a status that cannot be written. -/
theorem status_untold :
    let launch : Launch := .completed "" "x" (10 ^ digitLimit)
    let o := shortJcmd.execute (Launcher.ending fun _ _ (n : Nat) => (launch, n + 1)).traced Command.threadListing 0
    ¬ launch.Reached "12" ∧ o.result = .error (.numeral .tooLongToWrite) ∧ ∀ f, o.result ≠ .error (.channel f) := by
  intro launch o
  have hlost : ¬ launch.Reached "12" := by
    rintro (hstatus | hheader)
    · exact absurd hstatus (pow_ne_zero _ (by decide))
    · revert hheader
      decide
  have huntellable : ¬ launch.Tellable := not_writable_pow
  -- the status is not to be computed
  clear_value launch
  have hresult : o.result = .error (.numeral .tooLongToWrite) := by
    have hpid : Numeral.write shortJcmd.pid = .ok "12" := rfl
    have hargv : shortJcmd.argv Command.threadListing = .ok ["jcmd", "12", Command.threadListing] :=
      argv_of_split hpid (by decide +kernel)
    calc o.result
        = shortJcmd.answer Command.threadListing launch := congrArg Outcome.result (execute_ending hargv _ 0)
      _ = .error (shortJcmd.loss "12" "30.0" Command.threadListing launch) :=
          answer_of_not_reached hpid (timeoutText_default rfl) _ hlost
      _ = .error (.numeral .tooLongToWrite) := by rw [loss_of_not_tellable _ _ _ _ huntellable]
  refine ⟨hlost, hresult, ?_⟩
  intro f hchannel
  rw [hresult] at hchannel
  cases hchannel

end Jcmd

end DebugFind
