/-
Attempts in a row. An attempt that lapses is told to the log and followed by a pause and another attempt, as long as
there are any left; every other attempt is the last.

- `tryAgain_of_setbacks`: what is seen of the attempts that lapse before the one that decides.
- `run_of_launches`: how often a launch is made, what is logged and slept, and with what it all ends.
- `run_stopped_by_status`: a launch that failed is not always tried again.
-/
import DebugFind.Proofs.Attach.Attempt

namespace DebugFind.Attach

open DebugFind.Text DebugFind.Numeral

/-! ## What is seen of an attempt -/

/-- the record of an attempt, counted from zero, that lapsed -/
def setbackRecord (retries i : Nat) (e : Attach.Error) : Record :=
  ⟨.warning, .attach,
    "JVM attach attempt " ++ toString (i + 1) ++ "/" ++ toString retries ++ " failed: " ++ e.message⟩

/-- the record of a machine that was found -/
def foundRecord (found : Attached) : Record :=
  ⟨.info, .attach, "Attached to JVM pid=" ++ toString found.pid ++ " main_class=" ++ found.mainClass⟩

/-- what is seen of so many attempts that lapse, the first of them being the `n`-th: of each its launch, its record, and
the pause after it -/
def setbacks (start : Event) (retries : Nat) (delay : Seconds) (errors : Nat → Attach.Error) (n : Nat) : Nat → List Event
  | 0 => []
  | k + 1 => [start, .logged (setbackRecord retries n (errors n)), .slept delay] ++
      setbacks start retries delay errors (n + 1) k

/-! ## The loop -/

section Loop

variable {act : Action Nat Attached} {start : Event} {found : Attached} {retries n : Nat} {delay : Seconds}

theorem tryOnce_of_found (h : act n = ⟨.ok found, n + 1, [start]⟩) (attempt : Nat) :
    tryOnce act attempt retries n = ⟨.ok (.ok found), n + 1, [start, .logged (foundRecord found)]⟩ := by
  simp [tryOnce, Action.attempt, h, bind, Action.andThen, Action.next, Action.log, Action.emit, pure, Action.done,
    foundRecord]

theorem tryOnce_of_lapse {e : Attach.Error} (h : act n = ⟨.error (.attach e), n + 1, [start]⟩) :
    tryOnce act (n + 1) retries n = ⟨.ok (.error e), n + 1, [start, .logged (setbackRecord retries n e)]⟩ := by
  simp [tryOnce, Action.attempt, h, bind, Action.andThen, Action.next, Action.log, Action.emit, pure, Action.done,
    setbackRecord]

theorem tryOnce_of_fault {e : Numeral.Error} (h : act n = ⟨.error (.numeral e), n + 1, [start]⟩) (attempt : Nat) :
    tryOnce act attempt retries n = ⟨.error (.numeral e), n + 1, [start]⟩ := by
  simp [tryOnce, Action.attempt, h, bind, Action.andThen, Action.next, Action.fail]

/-- an attempt that finds a machine is the last -/
theorem tryAgain_of_found (h : act n = ⟨.ok found, n + 1, [start]⟩) (pause : Action Nat Unit)
    (last? : Option Attach.Error) (left : Nat) :
    tryAgain act pause retries last? (left + 1) n = ⟨.ok found, n + 1, [start, .logged (foundRecord found)]⟩ :=
  Action.bind_of_outcome_ok (tryOnce_of_found h _)

/-- and so is one that is at fault -/
theorem tryAgain_of_fault {e : Numeral.Error} (h : act n = ⟨.error (.numeral e), n + 1, [start]⟩)
    (pause : Action Nat Unit) (last? : Option Attach.Error) (left : Nat) :
    tryAgain act pause retries last? (left + 1) n = ⟨.error (.numeral e), n + 1, [start]⟩ :=
  Action.bind_of_outcome_error (tryOnce_of_fault h _)

/-- an attempt that lapses is the last if none is left -/
theorem tryAgain_of_last_lapse {e : Attach.Error} (h : act n = ⟨.error (.attach e), n + 1, [start]⟩)
    (pause : Action Nat Unit) (last? : Option Attach.Error) :
    tryAgain act pause (n + 1) last? 1 n =
      ⟨.error (.attach e), n + 1, [start, .logged (setbackRecord (n + 1) n e)]⟩ :=
  Action.bind_of_outcome_ok (tryOnce_of_lapse h)

/-- otherwise it is followed by a pause, where that is made, and another one, which knows nothing of it -/
theorem tryAgain_of_lapse {pause : Action Nat Unit} (hpause : ∀ n, pause n = ⟨.ok (), n, [.slept delay]⟩)
    {e : Attach.Error} (h : act n = ⟨.error (.attach e), n + 1, [start]⟩) {left : Nat}
    (hleft : retries = n + 1 + (left + 1)) (last? : Option Attach.Error) :
    let o := tryAgain act pause retries none (left + 1) (n + 1)
    tryAgain act pause retries last? (left + 2) n =
      ⟨o.result, o.world, [start, .logged (setbackRecord retries n e), .slept delay] ++ o.events⟩ := by
  have hattempt : retries - (left + 1) = n + 1 := by omega
  have hpaused : (pause >>= fun _ => tryAgain act pause retries (some e) (left + 1)) (n + 1) = _ :=
    Action.bind_of_outcome_ok (hpause (n + 1))
  intro o
  rw [tryAgain.eq_2 act pause retries last? (left + 1), hattempt, Action.bind_of_outcome_ok (tryOnce_of_lapse h)]
  simp only [Nat.succ_pos, if_true, hpaused]
  rfl

/-- **What is seen of the attempts that lapse** stands before what is seen of those after them. -/
theorem tryAgain_of_setbacks {pause : Action Nat Unit} (hpause : ∀ n, pause n = ⟨.ok (), n, [.slept delay]⟩)
    {errors : Nat → Attach.Error} (k : Nat)
    (h : ∀ i < k, act (n + i) = ⟨.error (.attach (errors (n + i))), n + i + 1, [start]⟩) {left : Nat}
    (hleft : retries = n + k + (left + 1)) :
    let o := tryAgain act pause retries none (left + 1) (n + k)
    tryAgain act pause retries none (left + 1 + k) n =
      ⟨o.result, o.world, setbacks start retries delay errors n k ++ o.events⟩ := by
  induction k generalizing n with
  | zero => rfl
  | succ k ih =>
    have hfirst : act n = ⟨.error (.attach (errors n)), n + 1, [start]⟩ := h 0 (Nat.succ_pos k)
    have hothers : ∀ i < k, act (n + 1 + i) = ⟨.error (.attach (errors (n + 1 + i))), n + 1 + i + 1, [start]⟩ := by
      intro i hi
      have hnext := h (i + 1) (Nat.succ_lt_succ hi)
      rwa [← Nat.add_assoc, Nat.add_right_comm] at hnext
    have hmeet : n + 1 + k = n + (k + 1) := by omega
    have hshift : left + 1 + k = left + k + 1 := by omega
    intro o
    have hrest : tryAgain act pause retries none (left + k + 1) (n + 1) =
        ⟨o.result, o.world, setbacks start retries delay errors (n + 1) k ++ o.events⟩ := by
      have hlater := ih hothers (by omega)
      simp only [hmeet, hshift] at hlater
      exact hlater
    have hleft' : retries = n + 1 + (left + k + 1) := by omega
    have hstep := tryAgain_of_lapse hpause hfirst hleft' none
    simp only [hrest] at hstep
    rw [← Nat.add_assoc, hshift]
    exact hstep

end Loop

/-! ## Launches in a row -/

/-- a source of listings whose launches end one after the other as is said beforehand, and whose pauses are made -/
def directoryInTurn (executable : String) (timeout : Seconds) (outcomes : Nat → Launch) : Directory Nat where
  launcher := (Launcher.inTurn outcomes).traced
  executable
  timeout

theorem head?_append {start : String} {c : Char} (h : start.toList.head? = some c) (rest : String) :
    (start ++ rest).toList.head? = some c := by
  rw [String.toList_append, List.head?_append, h]
  rfl

/-- a failure to attach, or to write or read a number, always says which it is -/
theorem message_ne_unknown {f : Failure} (h : (∃ e, f = .attach e ∧ e ≠ .unknown) ∨ ∃ e, f = .numeral e) :
    f.message ≠ Attach.Error.unknown.message := by
  have hfirst : ∃ c, f.message.toList.head? = some c ∧ c ≠ 'U' := by
    rcases h with ⟨e, rfl, hknown⟩ | ⟨e, rfl⟩
    · cases e with
      | unknown => exact absurd rfl hknown
      | noTarget => exact ⟨'a', by decide, by decide⟩
      | listingUnavailable executable text =>
        exact ⟨'F', head?_append (head?_append (head?_append (by decide) _) _) _, by decide⟩
      | listingFailed executable exitStatus =>
        exact ⟨'F', head?_append (head?_append (head?_append (head?_append (by decide) _) _) _) _, by decide⟩
      | classNotFound mainClass => exact ⟨'J', head?_append (head?_append (by decide) _) _, by decide⟩
      | notRunning pid => exact ⟨'P', head?_append (head?_append (by decide) _) _, by decide⟩
    · cases e with
      | tooLongToWrite => exact ⟨'E', by decide +kernel, by decide⟩
      | tooLongToRead digits => exact ⟨'E', head?_append (head?_append (by decide +kernel) _) _, by decide⟩
      | malformed text => exact ⟨'i', head?_append (by decide) _, by decide⟩
  obtain ⟨c, hc, hne⟩ := hfirst
  intro hunknown
  rw [hunknown] at hc
  exact hne (Option.some.inj hc).symm

section Launches

variable {executable : String} {timeout : Seconds} {outcomes : Nat → Launch} {w : Wanted} {retries n : Nat}
  {errors : Nat → Attach.Error}

theorem locate_inTurn (outcomes : Nat → Launch) {r : Except Failure Attached}
    (h : (directoryInTurn executable timeout outcomes).verdict w (outcomes n) = r) :
    locate (directoryInTurn executable timeout outcomes) w.target n =
      ⟨r, n + 1, [.launched (listingArgv executable) timeout]⟩ := by
  rw [← h]
  exact locate_of_launch rfl rfl w

/-- the attempt that decides, behind those that lapse -/
theorem run_of_setbacks (delay : Seconds) {j : Nat} (hj : j < retries)
    (h : ∀ i < j, Lapses executable timeout w (outcomes i) (errors i)) :
    let act := locate (directoryInTurn executable timeout outcomes) w.target
    let o := tryAgain act (Action.emit (.slept delay)) retries none (retries - 1 - j + 1) j
    run (directoryInTurn executable timeout outcomes) w.target retries delay 0 =
      ⟨o.result, o.world, setbacks (.launched (listingArgv executable) timeout) retries delay errors 0 j ++ o.events⟩ := by
  intro act o
  have hpositive : (1 : Int) ≤ retries := by omega
  have hleft : retries = 0 + j + (retries - 1 - j + 1) := by omega
  have hall : retries - 1 - j + 1 + j = retries := by omega
  have hlapses : ∀ i < j, act (0 + i) =
      ⟨.error (.attach (errors (0 + i))), 0 + i + 1, [.launched (listingArgv executable) timeout]⟩ := by
    intro i hi
    rw [Nat.zero_add]
    exact locate_inTurn outcomes (verdict_of_lapses (h i hi))
  have hpause (n : Nat) : Action.emit (.slept delay) n = ⟨.ok (), n, [.slept delay]⟩ := rfl
  have hloop := tryAgain_of_setbacks hpause j hlapses hleft
  simp only [Nat.zero_add, hall] at hloop
  rw [run, retrying, if_pos hpositive, Int.toNat_natCast]
  exact hloop

/-- a run whose `j`-th attempt, counted from zero, is the first that does not lapse, and finds a machine -/
theorem run_of_found (delay : Seconds) {j : Nat} (hj : j < retries)
    (h : ∀ i < j, Lapses executable timeout w (outcomes i) (errors i)) {found : Attached}
    (hfound : Finds w (outcomes j) found) :
    let start : Event := .launched (listingArgv executable) timeout
    run (directoryInTurn executable timeout outcomes) w.target retries delay 0 =
      ⟨.ok found, j + 1, setbacks start retries delay errors 0 j ++ [start, .logged (foundRecord found)]⟩ := by
  have hlast : locate (directoryInTurn executable timeout outcomes) w.target j = _ :=
    locate_inTurn outcomes (verdict_of_finds hfound)
  have hrun := run_of_setbacks delay hj h
  simp only [tryAgain_of_found hlast] at hrun
  exact hrun

/-- a run whose `j`-th attempt is the first that does not lapse, and is at fault -/
theorem run_of_fault (delay : Seconds) {j : Nat} (hj : j < retries)
    (h : ∀ i < j, Lapses executable timeout w (outcomes i) (errors i)) {e : Numeral.Error}
    (hfault : Faults w (outcomes j) e) :
    let start : Event := .launched (listingArgv executable) timeout
    run (directoryInTurn executable timeout outcomes) w.target retries delay 0 =
      ⟨.error (.numeral e), j + 1, setbacks start retries delay errors 0 j ++ [start]⟩ := by
  have hlast : locate (directoryInTurn executable timeout outcomes) w.target j = _ :=
    locate_inTurn outcomes (verdict_of_faults hfault)
  have hrun := run_of_setbacks delay hj h
  simp only [tryAgain_of_fault hlast] at hrun
  exact hrun

/-- a run all of whose attempts lapse -/
theorem run_of_lapses (delay : Seconds) {last : Nat}
    (h : ∀ i < last + 1, Lapses executable timeout w (outcomes i) (errors i)) :
    let start : Event := .launched (listingArgv executable) timeout
    run (directoryInTurn executable timeout outcomes) w.target (last + 1 : Nat) delay 0 =
      ⟨.error (.attach (errors last)), last + 1, setbacks start (last + 1) delay errors 0 last ++
        [start, .logged (setbackRecord (last + 1) last (errors last))]⟩ := by
  have hlast := locate_inTurn outcomes (verdict_of_lapses (h last (Nat.lt_succ_self last)))
  have hrun := run_of_setbacks delay (Nat.lt_succ_self last) fun i hi => h i (Nat.lt_succ_of_lt hi)
  have hone : last + 1 - 1 - last + 1 = 1 := by omega
  simp only [hone, tryAgain_of_last_lapse hlast] at hrun
  exact hrun

/-- all attempts lapse, or there is a first that does not -/
theorem lapses_or_exists_first (executable : String) (timeout : Seconds) (outcomes : Nat → Launch) (w : Wanted)
    (retries : Nat) :
    (∃ errors : Nat → Attach.Error, ∀ i < retries, Lapses executable timeout w (outcomes i) (errors i)) ∨
      ∃ j < retries, (∃ errors : Nat → Attach.Error, ∀ i < j, Lapses executable timeout w (outcomes i) (errors i)) ∧
        ((∃ found, Finds w (outcomes j) found) ∨ ∃ e, Faults w (outcomes j) e) := by
  induction retries with
  | zero => exact Or.inl ⟨fun _ => w.absence, fun i hi => absurd hi (Nat.not_lt_zero i)⟩
  | succ retries ih =>
    rcases ih with ⟨errors, hlapses⟩ | ⟨j, hj, hfirst⟩
    · rcases attempt_cases executable timeout w (outcomes retries) with hfinds | ⟨e, hlapse⟩ | hfaults
      · exact Or.inr ⟨retries, Nat.lt_succ_self _, ⟨errors, hlapses⟩, Or.inl hfinds⟩
      · left
        refine ⟨Function.update errors retries e, fun i hi => ?_⟩
        by_cases hlast : i = retries
        · rw [hlast, Function.update_self]
          exact hlapse
        · rw [Function.update_of_ne hlast]
          exact hlapses i (by omega)
      · exact Or.inr ⟨retries, Nat.lt_succ_self _, ⟨errors, hlapses⟩, Or.inr hfaults⟩
    · exact Or.inr ⟨j, Nat.lt_succ_of_lt hj, hfirst⟩

/-- **As many attempts as are needed**, where the host makes every pause it is told to make. Every attempt is one launch.
The first attempt that finds a machine ends the run, behind a record and a pause for each attempt before it. If none does,
all attempts are made, each has its record, there is a pause between any two, and the run fails as the last of them does.
An attempt that is at fault ends the run, too, with a failure of its own. The machine that is found is the first of the
listing with the process id, or the first that bears the class. -/
theorem run_of_launches (hretries : 1 ≤ retries) (executable : String) (timeout : Seconds) (outcomes : Nat → Launch)
    (w : Wanted) (delay : Seconds) :
    let o := run (directoryInTurn executable timeout outcomes) w.target retries delay 0
    let start : Event := .launched (listingArgv executable) timeout
    let lapse (i : Nat) (e : Attach.Error) := Lapses executable timeout w (outcomes i) e
    (∀ j < retries, ∀ errors : Nat → Attach.Error, (∀ i < j, lapse i (errors i)) →
        (∀ found, Finds w (outcomes j) found → o =
          ⟨.ok found, j + 1, setbacks start retries delay errors 0 j ++ [start, .logged (foundRecord found)]⟩) ∧
        ∀ e, Faults w (outcomes j) e → o =
          ⟨.error (.numeral e), j + 1, setbacks start retries delay errors 0 j ++ [start]⟩) ∧
      (∀ errors : Nat → Attach.Error, (∀ i < retries, lapse i (errors i)) →
        let last := retries - 1
        o = ⟨.error (.attach (errors last)), retries, setbacks start retries delay errors 0 last ++
          [start, .logged (setbackRecord retries last (errors last))]⟩) ∧
      ((∃ errors : Nat → Attach.Error, ∀ i < retries, lapse i (errors i)) ∨
        ∃ j < retries, (∃ errors : Nat → Attach.Error, ∀ i < j, lapse i (errors i)) ∧
          ((∃ found, Finds w (outcomes j) found) ∨ ∃ e, Faults w (outcomes j) e)) ∧
      (∀ f, o.result = .error f → f.message ≠ "Unknown JVM attach failure.") ∧
      (∀ pid entries found, (Wanted.byPid pid).find? entries = some found ↔
        ∃ e, FirstOf (fun e => (e.pid : Int) = pid) entries e ∧ found = ⟨pid, e.mainClass⟩) ∧
      ∀ mainClass entries, (∀ e ∈ entries, e.IsSteady) → ∀ found,
        (Wanted.byClass mainClass).find? entries = some found ↔
          ∃ e, FirstOf (fun e => e.Bears mainClass) entries e ∧ found = ⟨e.pid, mainClass⟩ := by
  intro o start lapse
  obtain ⟨last, rfl⟩ : ∃ last, retries = last + 1 := ⟨retries - 1, by omega⟩
  have hcases := lapses_or_exists_first executable timeout outcomes w (last + 1)
  refine ⟨fun j hj errors hlapses => ⟨fun found => run_of_found delay hj hlapses, fun e => run_of_fault delay hj hlapses⟩,
    fun errors hlapses => run_of_lapses delay hlapses, hcases, ?_, fun _ _ _ => Wanted.find?_byPid_eq_some_iff, ?_⟩
  · intro f hf
    apply message_ne_unknown
    rcases hcases with ⟨errors, hlapses⟩ | ⟨j, hj, ⟨errors, hlapses⟩, ⟨found, hfinds⟩ | ⟨e, hfaults⟩⟩
    · have ho : o = _ := run_of_lapses delay hlapses
      rw [ho] at hf
      exact Or.inl ⟨_, (Except.error.inj hf).symm, (hlapses last (Nat.lt_succ_self last)).ne_unknown⟩
    · have ho : o = _ := run_of_found delay hj hlapses hfinds
      rw [ho] at hf
      cases hf
    · have ho : o = _ := run_of_fault delay hj hlapses hfaults
      rw [ho] at hf
      exact Or.inr ⟨_, (Except.error.inj hf).symm⟩
  · intro mainClass entries hsteady found
    rw [Wanted.find?_byClass_eq_some_iff]
    simp only [firstOf_congr fun e he => Entry.runs_iff_bears (hsteady e he) mainClass]

end Launches

/-- a launch that takes too long, one that fails, and one that lists a machine -/
def lateRefusedListed : Nat → Launch
  | 0 => .timedOut
  | 1 => .completed "" "denied" 1
  | _ => .completed "7 sun.tools.jcmd.JCmd -l\n12 com.acme.Main\n" "" 0

/-- the machine is found in the last of three attempts -/
theorem run_of_launches_of_lateRefusedListed :
    (1 ≤ 3) ∧
      let w : Wanted := .byClass "main"
      let o := run (directoryInTurn "jcmd" Jcmd.defaultTimeout lateRefusedListed) w.target (3 : Nat) defaultDelay 0
      Finds w (lateRefusedListed 2) ⟨12, "main"⟩ ∧ o.result = .ok ⟨12, "main"⟩ ∧ o.world = 3 ∧
        launches o.events = [["jcmd", "-l"], ["jcmd", "-l"], ["jcmd", "-l"]] := by
  refine ⟨by decide, ?_⟩
  intro w o
  have hlisted : Finds w (lateRefusedListed 2) ⟨12, "main"⟩ := by
    have hread : readListing "7 sun.tools.jcmd.JCmd -l\n12 com.acme.Main\n" = .ok [⟨12, "com.acme.Main"⟩] := by
      decide +kernel
    exact .listed hread (by decide +kernel)
  let errors (i : Nat) : Attach.Error :=
    if i = 0 then .listingUnavailable "jcmd" (Launcher.timeoutText (listingArgv "jcmd") Jcmd.defaultTimeout)
    else .listingFailed "jcmd" (String.ofList (decimal 1))
  have hlapses : ∀ i < 2, Lapses "jcmd" Jcmd.defaultTimeout w (lateRefusedListed i) (errors i) := by
    intro i hi
    interval_cases i
    · exact .timedOut
    · exact .failed (by decide) (by decide)
  obtain ⟨hfirst, -⟩ := run_of_launches (by decide : 1 ≤ 3) "jcmd" Jcmd.defaultTimeout lateRefusedListed w defaultDelay
  obtain ⟨hfound, -⟩ := hfirst 2 (by decide) errors hlapses
  have ho : o = _ := hfound _ hlisted
  rw [ho]
  exact ⟨hlisted, rfl, rfl, rfl⟩

/-- **A launch that failed is not always tried again**: there is no word of a status that cannot be written. -/
theorem run_stopped_by_status :
    let outcomes (_ : Nat) : Launch := .completed "" "" (10 ^ digitLimit)
    let o := run (directoryInTurn "jcmd" Jcmd.defaultTimeout outcomes) (Wanted.byClass "Main").target (2 : Nat)
      defaultDelay 0
    o = ⟨.error (.numeral .tooLongToWrite), 1, [.launched ["jcmd", "-l"] Jcmd.defaultTimeout]⟩ := by
  intro outcomes o
  have hfault : Faults (.byClass "Main") (outcomes 0) .tooLongToWrite := .status not_writable_pow
  have hlapses : ∀ i < 0, Lapses "jcmd" Jcmd.defaultTimeout (.byClass "Main") (outcomes i) .noTarget :=
    fun i hi => absurd hi (Nat.not_lt_zero i)
  exact run_of_fault defaultDelay (by decide) hlapses hfault

end DebugFind.Attach
