/-
A sweep accounts exactly for what it did. Whatever the channel answers and the listener replies, there is a list of
answers that were told to the listener, one after the other from the first address on, and the sweep ended in one of
three ways (`Account`):
- complete: every address was answered, and the report counts these answers;
- unanswered: the channel failed at the next address, which one error record names with the number of answers so far;
- rejected: the listener failed at the answer of the next address, and no error record was written.
The failure is passed on as it is. `neighborhood_accounts` says this of every sweep that can be laid out. The commands
are those for consecutive addresses, each once, also where the sweep begins at zero or has a single address.

`counts_add` says what one answer does to the report. The induction over the number of addresses left
(`account_of_probesCourse`) carries the report along as the count of the answers before.
-/
import DebugFind.Proofs.Sweep.Course

namespace DebugFind.Sweep

open DebugFind.Numeral

variable {σ : Type}

/-! ## Reports -/

/-- a report counts answers: how many there are, how many ended with an error status, how many are of each class -/
structure Report.Counts (r : Report) (answers : List CommandOutput) : Prop where
  probes : r.probes = answers.length
  errorExits : r.errorExits = answers.countP fun output => output.exitStatus ≠ 0
  tally : ∀ c, r.tally.count c = answers.countP fun output => Classification.ofText output.text = c

theorem counts_add {r : Report} {answers : List CommandOutput} (h : r.Counts answers) (address : Int)
    (output : CommandOutput) : (r.add (.ofOutput address false output)).Counts (answers ++ [output]) := by
  constructor
  · simp [Report.add, h.probes]
  · rw [List.countP_append, ← h.errorExits]
    by_cases he : output.exitStatus = 0 <;> simp [Report.add, ProbeResponse.ofOutput, he]
  · intro c
    rw [List.countP_append, ← h.tally c, List.countP_singleton]
    simp [Report.add, ProbeResponse.ofOutput, Tally.count_add]

/-- every answer is of one class -/
theorem sum_classes (answers : List CommandOutput) :
    (Classification.all.map fun c => answers.countP fun output => Classification.ofText output.text = c).sum =
      answers.length := by
  induction answers with
  | nil => rfl
  | cons output answers ih =>
    have hone : (Classification.all.map fun c => if Classification.ofText output.text = c then 1 else 0).sum = 1 := by
      cases Classification.ofText output.text <;> rfl
    simp only [List.countP_cons, decide_eq_true_eq, List.length_cons]
    rw [List.sum_map_add, ih, hone]

/-- the classes of the answers sum to their number -/
theorem Report.Counts.sum_eq {r : Report} {answers : List CommandOutput} (h : r.Counts answers) :
    (Classification.all.map r.tally.count).sum = answers.length := by
  rw [List.map_congr_left fun c _ => h.tally c]
  exact sum_classes answers

/-! ## Accounts -/

/-- answers from an address on, each told to the listener, which took it -/
def served : Int → List CommandOutput → Journal
  | _, [] => []
  | address, output :: answers =>
    .asked (Command.findText address) (.ok output) :: .told address (.ofOutput address false output) (.ok ()) ::
      served (address + 1) answers

/-- the error records among events -/
def errorRecords (events : List Event) : List Record :=
  events.filterMap fun
    | .logged record => if record.level = .error then some record else none
    | _ => none

theorem served_append (start : Int) (before after : List CommandOutput) :
    served start (before ++ after) = served start before ++ served (start + before.length) after := by
  induction before generalizing start with
  | nil => simp [served]
  | cons output before ih =>
    have hnext : start + 1 + before.length = start + (output :: before).length := by
      rw [List.length_cons, Nat.cast_succ, add_assoc, add_comm 1]
    rw [List.cons_append, served, served, ih, hnext]
    rfl

theorem commands_served (start : Int) (answers : List CommandOutput) :
    Journal.commands (served start answers) =
      (List.range answers.length).map fun (i : Nat) => Command.findText (start + i) := by
  induction answers generalizing start with
  | nil => rfl
  | cons output answers ih =>
    have hnext (i : Nat) : start + 1 + i = start + (i + 1 : Nat) := by push_cast; ring
    simp [served, Deed.command?, ih, hnext, List.range_succ_eq_map]

/-- the ways in which a sweep of `count` addresses ends after `answers` that were served: with its journal, its error
records, and its result -/
inductive Account (logger : Logger) (start : Int) (count : Nat) (answers : List CommandOutput) :
    Journal → List Record → Except Failure Report → Prop
  | complete (report : Report) (all : answers.length = count) (first : report.start = start)
      (last : report.last = start + count - 1) (counts : report.Counts answers) :
    Account logger start count answers (served start answers) [] (.ok report)
  | unanswered (e : Failure) (left : answers.length < count) :
    Account logger start count answers
      (served start answers ++ [.asked (Command.findText (start + answers.length)) (.error e)])
      [failureRecord logger (start + answers.length) answers.length] (.error e)
  | rejected (output : CommandOutput) (e : Failure) (left : answers.length < count) :
    Account logger start count answers
      (served start answers ++ [.asked (Command.findText (start + answers.length)) (.ok output),
        .told (start + answers.length) (.ofOutput (start + answers.length) false output) (.error e)])
      [] (.error e)

/-- after what was served, one more command goes to the next address -/
theorem commands_served_next {start : Int} {count : Nat} {answers : List CommandOutput} {last : Journal}
    (left : answers.length < count)
    (hlast : Journal.commands last = [Command.findText (start + answers.length)]) :
    (Journal.commands (served start answers ++ last)).length ≤ count ∧
      Journal.commands (served start answers ++ last) =
        (List.range (Journal.commands (served start answers ++ last)).length).map
          fun (i : Nat) => Command.findText (start + i) := by
  have hlength : (Journal.commands (served start answers ++ last)).length = answers.length + 1 := by
    simp [commands_served, hlast]
  refine ⟨by omega, ?_⟩
  rw [hlength, Journal.commands_append, commands_served, hlast, List.range_succ, List.map_append, List.map_singleton]

/-- what an account sends: the commands for consecutive addresses from the first on, not more than there are -/
theorem Account.commands_eq {logger : Logger} {start : Int} {count : Nat} {answers : List CommandOutput} {j : Journal}
    {rs : List Record} {r : Except Failure Report} (h : Account logger start count answers j rs r) :
    (Journal.commands j).length ≤ count ∧
      Journal.commands j =
        (List.range (Journal.commands j).length).map fun (i : Nat) => Command.findText (start + i) := by
  cases h with
  | complete _ all => simp [commands_served, all]
  | unanswered _ left => exact commands_served_next left rfl
  | rejected _ _ left => exact commands_served_next left rfl

/-- a sweep that ends with a report was complete -/
theorem Account.eq_served {logger : Logger} {start : Int} {count : Nat} {answers : List CommandOutput} {j : Journal}
    {rs : List Record} {report : Report} (h : Account logger start count answers j rs (.ok report)) :
    answers.length = count ∧ j = served start answers := by
  cases h with
  | complete _ all => exact ⟨all, rfl⟩

/-- in a report of a complete sweep the classes sum to the number of addresses -/
theorem Account.sum_classes_eq {logger : Logger} {start : Int} {count : Nat} {answers : List CommandOutput}
    {j : Journal} {rs : List Record} {report : Report} (h : Account logger start count answers j rs (.ok report)) :
    (Classification.all.map report.tally.count).sum = count := by
  cases h with
  | complete _ all _ _ counts => rw [counts.sum_eq, all]

/-- **One sweep, one account.** The addresses left are asked for after `before` was served, and the report counts what
was served; then the sweep ends with an account of all its answers. -/
theorem account_of_probesCourse {logger : Logger} {start : Int} {total count address : Nat} {report : Report}
    {j : Journal} {r : Except Failure Report} (before : List CommandOutput)
    (h : ProbesCourse logger address count report j r) (counts : report.Counts before)
    (first : report.start = start) (last : report.last = start + total - 1)
    (here : (address : Int) = start + before.length) (left : before.length + count = total) :
    ∃ answers, Account logger start total answers (served start before ++ Journal.outward j)
      (errorRecords ((Journal.records j).map .logged)) r := by
  induction count generalizing address report before j with
  | zero =>
    obtain ⟨rfl, rfl⟩ := h
    refine ⟨before, ?_⟩
    simpa [Journal.outward, Journal.records, errorRecords] using
      Account.complete report (by omega) first last counts
  | succ count ih =>
    have hprobes : report.probes = before.length := counts.probes
    rcases h with ⟨e, rfl, hj⟩ | ⟨report', j₁, j₂, rfl, hj₁, hj₂⟩
    · refine ⟨before, ?_⟩
      cases hj with
      | unanswered e =>
        rw [here, hprobes]
        exact .unanswered e (by omega)
      | rejected output e =>
        rw [here]
        exact .rejected output e (by omega)
    · cases hj₁ with
      | counted output =>
        obtain ⟨answers, hanswers⟩ := ih (before ++ [output]) hj₂ (counts_add counts address output) first last
          (by simp only [List.length_append, List.length_singleton]; omega)
          (by simp only [List.length_append, List.length_singleton]; omega)
        refine ⟨answers, ?_⟩
        have hshift : served start (before ++ [output]) ++ Journal.outward j₂ =
            served start before ++ Journal.outward (answered logger address output (.ok ()) ++ j₂) := by
          rw [served_append, ← here, Journal.outward_append, List.append_assoc]
          rfl
        rwa [hshift] at hanswers

/-! ## Sweeps that can be laid out -/

theorem layOut_eq_ok {knownGood lookback count : Int} (hlookback : 0 ≤ lookback) (hcount : 1 ≤ count)
    (hknown : lookback ≤ knownGood) :
    layOut knownGood lookback count = .ok ⟨(knownGood - lookback).toNat, count.toNat, by omega⟩ := by
  rw [layOut, if_neg (by omega), dif_pos (by omega), if_neg (by omega)]

/-- a sweep that was laid out does not reach below zero, and has as many addresses as it should -/
theorem reach_of_layOut {knownGood lookback count : Int} {range : Range}
    (h : layOut knownGood lookback count = .ok range) : lookback ≤ knownGood ∧ range.count = count.toNat := by
  rw [layOut] at h
  split_ifs at h with hback hcount hlow
  · cases hwrite : Numeral.write lookback <;> simp [hwrite] at h
  · cases h
    exact ⟨by omega, rfl⟩

/-- the account of a sweep, as the journal of its course gives it -/
theorem account_of_neighborhoodCourse {logger : Logger} {knownGood lookback count : Int} (hlookback : 0 ≤ lookback)
    (hcount : 1 ≤ count) (hknown : lookback ≤ knownGood) {j : Journal} {r : Except Failure Report}
    (h : NeighborhoodCourse logger knownGood lookback count j r) :
    ∃ answers, Account logger (knownGood - lookback) count.toNat answers (Journal.outward j)
      (errorRecords ((Journal.records j).map .logged)) r := by
  have hrange := layOut_eq_ok hlookback hcount hknown
  cases h with
  | refused e h =>
    rw [hrange] at h
    cases h
  | laidOut range h k r hk =>
    rw [hrange] at h
    cases h
    have hstart : ((knownGood - lookback).toNat : Int) = knownGood - lookback := Int.toNat_of_nonneg (by omega)
    have hlast : (((knownGood - lookback).toNat + count.toNat - 1 : Nat) : Int) =
        knownGood - lookback + count.toNat - 1 := by omega
    obtain ⟨answers, hanswers⟩ := account_of_probesCourse [] hk ⟨rfl, rfl, fun c => by cases c <;> rfl⟩
      hstart hlast (by simpa using hstart) (by simp)
    exact ⟨answers, hanswers⟩

/-- consecutive addresses from a first one on have different commands -/
theorem nodup_commands (start : Int) (n : Nat) :
    ((List.range n).map fun (i : Nat) => Command.findText (start + i)).Nodup := by
  refine List.nodup_range.map_on fun a _ b _ h => ?_
  have := (Command.findText_inj h).1
  omega

/-- **A sweep accounts for everything it did.** For every channel and listener, a sweep that can be laid out sends the
commands for consecutive addresses from `lookback` before the known one on, each once and nothing else, and ends with an
account of its answers. The journal that shows this changes nothing about the sweep. -/
theorem neighborhood_accounts (channel : Channel σ) (listener : Option (Listener σ)) (logger : Logger)
    (knownGood lookback count : Int) (hlookback : 0 ≤ lookback) (hcount : 1 ≤ count) (hknown : lookback ≤ knownGood)
    (s : σ) :
    let u : Surroundings σ := ⟨channel, { onProbe := listener }⟩
    let plain := neighborhood channel knownGood lookback count listener logger s
    let kept := neighborhood u.journaled.channel knownGood lookback count u.journaled.observers.onProbe logger ([], s)
    let sent := Journal.commands kept.world.1
    (sent.length ≤ count ∧ sent.Nodup ∧
        sent = (List.range sent.length).map fun (i : Nat) => Command.findText (knownGood - lookback + i)) ∧
      (∃ answers, Account logger (knownGood - lookback) count.toNat answers kept.world.1 (errorRecords kept.events)
        kept.result) ∧
      (∀ report, kept.result = .ok report → (Classification.all.map report.tally.count).sum = count) ∧
      plain.result = kept.result ∧ plain.world = kept.world.2 := by
  intro u plain kept sent
  obtain ⟨d, hd, hresult, hworld, hevents, -⟩ := Follows.journaled
    (follows_neighborhood (u := u) knownGood lookback count logger)
    (follows_neighborhood (u := u.journaled) knownGood lookback count logger) [] s
  have hjournal : kept.world.1 = Journal.outward d := by rw [hworld]; rfl
  obtain ⟨answers, haccount⟩ := account_of_neighborhoodCourse hlookback hcount hknown hd
  have haccount' : Account logger (knownGood - lookback) count.toNat answers kept.world.1 (errorRecords kept.events)
      kept.result := by
    rw [hjournal, hevents, hresult]
    exact haccount
  obtain ⟨hle, hsent⟩ : sent.length ≤ count.toNat ∧
      sent = (List.range sent.length).map fun (i : Nat) => Command.findText (knownGood - lookback + i) :=
    haccount'.commands_eq
  refine ⟨⟨by omega, ?_, hsent⟩, ⟨answers, haccount'⟩, ?_, hresult.symm, ?_⟩
  · rw [hsent]
    exact nodup_commands _ _
  · intro report hreport
    rw [hreport] at haccount'
    rw [haccount'.sum_classes_eq]
    omega
  · rw [hworld]

/-- a channel that is lost after two answers, the second of them with an error status -/
def lostAfterTwo : Channel Nat where
  execute command := fun n =>
    if n < 2 then ⟨.ok ⟨"0x0000000000000000: address not safe", n⟩, n + 1, []⟩
    else ⟨.error (.channel ⟨"target VM exited", some command, ""⟩), n, []⟩

/-- a sweep that begins at zero and loses its channel at the last address -/
theorem neighborhood_accounts_at_zero :
    let u : Surroundings Nat := ⟨lostAfterTwo, {}⟩
    let kept := neighborhood u.journaled.channel 2 2 3 u.journaled.observers.onProbe .sweeper ([], 0)
    (0 : Int) ≤ 2 ∧ (1 : Int) ≤ 3 ∧ (2 : Int) ≤ 2 ∧
      Journal.commands kept.world.1 = [Command.findText 0, Command.findText 1, Command.findText 2] ∧
      (Journal.commands kept.world.1).Nodup ∧
      errorRecords kept.events = [failureRecord .sweeper 2 2] ∧
      kept.result = .error (.channel ⟨"target VM exited", some (Command.findText 2), ""⟩) ∧
      ∃ answers, Account .sweeper 0 3 answers kept.world.1 (errorRecords kept.events) kept.result := by
  intro u kept
  obtain ⟨⟨_, hnodup, _⟩, haccount, _⟩ :=
    neighborhood_accounts lostAfterTwo none .sweeper 2 2 3 (by decide) (by decide) (by decide) 0
  exact ⟨by decide, by decide, by decide, rfl, hnodup, rfl, rfl, haccount⟩

end DebugFind.Sweep
