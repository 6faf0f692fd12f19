/-
Sweeps over a launcher. Every question of a sweep is one launch, and a launch may end in any way: with whatever output
and status, not at all, or too late. A sweep goes on exactly if the machine was reached; an error status alone does not
stop it. So the ends of the launches decide what becomes of the sweep, and where.

- `inTurn_of_happens`: a journal over a launcher whose launches end as said beforehand has one launch for each command, and
  the answers are what the ends mean.
- `sweep_of_launches`: a sweep ends well exactly if all its launches reached the machine; otherwise it ends at the first
  one that did not, with the failure that this one is.
- `sweep_stopped_by_status`: that failure is not always one of the channel.
-/
import DebugFind.Proofs.Binding
import DebugFind.Proofs.Sweep.Reports

namespace DebugFind

open DebugFind.Numeral

/-! ## Launches in a row -/

section InTurn

variable {jcmd : Jcmd} {pid : String} {outcomes : Nat → Launch}

/-- a command is launched once, and its answer is what the end of the launch means; no error is written -/
theorem execute_inTurn (hpid : Numeral.write jcmd.pid = .ok pid) (outcomes : Nat → Launch) {command : String}
    {words : List String} (hwords : Text.ShellWords.split command = .ok words) (n : Nat) :
    ∃ es, (jcmd.channel (Launcher.inTurn outcomes).traced).execute command n =
        ⟨jcmd.answer command (outcomes n), n + 1, es⟩ ∧
      launches es = [jcmd.executable :: pid :: words] ∧ Sweep.errorRecords es = [] := by
  refine ⟨_, Jcmd.execute_of_launch (Jcmd.argv_of_split hpid hwords) rfl, Jcmd.launches_events _ _ _ _, ?_⟩
  unfold Jcmd.events
  split
  · split_ifs <;> rfl
  · rfl

/-- the words of a command; of one that cannot be split, none -/
def wordsOf (command : String) : List String :=
  match Text.ShellWords.split command with
  | .ok words => words
  | .error _ => []

/-- what a journal says about the launches from the `n`-th on: there is one for each command, the answers are what their
ends mean, the error records are those of the journal, and no listener failed -/
structure Journal.InTurn (jcmd : Jcmd) (pid : String) (outcomes : Nat → Launch) (j : Journal) (n t : Nat)
    (es : List Event) : Prop where
  counted : t = n + (Journal.commands j).length
  answered : Journal.answers j = (Journal.commands j).mapIdx fun i command => jcmd.answer command (outcomes (n + i))
  launched : launches es = (Journal.commands j).map fun command => jcmd.executable :: pid :: wordsOf command
  recorded : Sweep.errorRecords es = Sweep.errorRecords ((Journal.records j).map .logged)
  heard : ∀ address response reply, Deed.told address response reply ∈ j → reply = .ok ()

theorem Journal.InTurn.append {j k : Journal} {n m t : Nat} {es₁ es₂ : List Event}
    (hj : j.InTurn jcmd pid outcomes n m es₁) (hk : k.InTurn jcmd pid outcomes m t es₂) :
    Journal.InTurn jcmd pid outcomes (j ++ k) n t (es₁ ++ es₂) := by
  constructor
  · rw [hk.counted, hj.counted, Journal.commands_append, List.length_append, Nat.add_assoc]
  · have hshift : (fun i command => jcmd.answer command (outcomes (n + (i + (Journal.commands j).length)))) =
        fun i command => jcmd.answer command (outcomes (m + i)) := by
      funext i command
      rw [hj.counted, Nat.add_assoc, Nat.add_comm i]
    rw [Journal.answers_append, Journal.commands_append, List.mapIdx_append, hshift, hj.answered, hk.answered]
  · have happend : launches (es₁ ++ es₂) = launches es₁ ++ launches es₂ := List.filterMap_append
    rw [happend, hj.launched, hk.launched, Journal.commands_append, List.map_append]
  · have happend (es es' : List Event) : Sweep.errorRecords (es ++ es') = Sweep.errorRecords es ++ Sweep.errorRecords es' :=
      List.filterMap_append
    have hrecords : Journal.records (j ++ k) = Journal.records j ++ Journal.records k := List.filterMap_append
    rw [happend, hj.recorded, hk.recorded, hrecords, List.map_append, happend]
  · intro address response reply hmem
    rcases List.mem_append.1 hmem with hmem | hmem
    · exact hj.heard address response reply hmem
    · exact hk.heard address response reply hmem

theorem inTurn_deed (hpid : Numeral.write jcmd.pid = .ok pid) {d : Deed} (hd : d.unspoken? = none) {n t : Nat}
    {es : List Event} (h : d.Happens ⟨jcmd.channel (Launcher.inTurn outcomes).traced, {}⟩ n t es) :
    Journal.InTurn jcmd pid outcomes [d] n t es := by
  cases d with
  | asked command answer =>
    have hcommand : isSpoken command := by
      by_contra hcommand
      rw [Deed.unspoken?, if_neg hcommand] at hd
      cases hd
    obtain ⟨words, hsplit, -⟩ := exists_words_of_isSpoken hcommand
    have hwords : wordsOf command = words := by rw [wordsOf, hsplit]
    obtain ⟨es', hexecute, hlaunch, hnone⟩ := execute_inTurn hpid outcomes hsplit n
    have hsame : (⟨jcmd.answer command (outcomes n), n + 1, es'⟩ : Outcome Nat CommandOutput) = ⟨answer, t, es⟩ :=
      hexecute.symm.trans h
    cases hsame
    refine ⟨rfl, rfl, ?_, hnone, ?_⟩
    · rw [hlaunch, ← hwords]
      rfl
    · intro address response reply hmem
      cases List.mem_singleton.1 hmem
  | told address response reply =>
    cases h
    refine ⟨rfl, rfl, rfl, rfl, ?_⟩
    intro address' response' reply' hmem
    cases List.mem_singleton.1 hmem
    rfl
  | announced transition reply =>
    cases h
    refine ⟨rfl, rfl, rfl, rfl, ?_⟩
    intro address response reply hmem
    cases List.mem_singleton.1 hmem
  | noted record =>
    obtain ⟨rfl, rfl⟩ := h
    refine ⟨rfl, rfl, rfl, rfl, ?_⟩
    intro address response reply hmem
    cases List.mem_singleton.1 hmem

/-- **What happens over launches in a row** is told by the journal. -/
theorem inTurn_of_happens (hpid : Numeral.write jcmd.pid = .ok pid) {j : Journal}
    (hj : j.filterMap Deed.unspoken? = []) {n t : Nat} {es : List Event}
    (h : Happens ⟨jcmd.channel (Launcher.inTurn outcomes).traced, {}⟩ j n t es) :
    j.InTurn jcmd pid outcomes n t es := by
  induction j generalizing n es with
  | nil =>
    obtain ⟨rfl, rfl⟩ := h
    exact ⟨rfl, rfl, rfl, rfl, fun _ _ _ hmem => absurd hmem List.not_mem_nil⟩
  | cons d j ih =>
    obtain ⟨m, es₁, es₂, hd, hrest, rfl⟩ := h
    rw [List.filterMap_eq_nil_iff] at hj
    have hspoken : d.unspoken? = none := hj d List.mem_cons_self
    have hothers : j.filterMap Deed.unspoken? = [] := by
      rw [List.filterMap_eq_nil_iff]
      exact fun d' hd' => hj d' (List.mem_cons_of_mem d hd')
    exact (inTurn_deed hpid hspoken hd).append (ih hothers hrest)

end InTurn

/-! ## Sweeps -/

namespace Sweep

section Sweeps

variable {jcmd : Jcmd} {pid timeout : String} {outcomes : Nat → Launch} {j : Journal} {t : Nat} {es : List Event}
  {start : Int}

theorem answers_served (start : Int) (answers : List CommandOutput) :
    Journal.answers (served start answers) = answers.map .ok := by
  induction answers generalizing start with
  | nil => rfl
  | cons output answers ih =>
    calc Journal.answers (served start (output :: answers))
        = .ok output :: Journal.answers (served (start + 1) answers) := rfl
      _ = (output :: answers).map .ok := by rw [ih]; rfl

/-- the answer to the question about an address is what the end of its launch means -/
theorem answer_at (hj : j.InTurn jcmd pid outcomes 0 t es) {asked : Nat}
    (hcommands : Journal.commands j = (List.range asked).map fun (i : Nat) => Command.findText (start + i)) {i : Nat}
    (hi : i < asked) :
    (Journal.answers j)[i]? = some (jcmd.answer (Command.findText (start + i)) (outcomes i)) := by
  rw [hj.answered, hcommands, List.getElem?_mapIdx, List.getElem?_map, List.getElem?_range hi, Nat.zero_add]
  rfl

/-- the launches of a sweep ask about consecutive addresses -/
theorem launches_eq (hj : j.InTurn jcmd pid outcomes 0 t es) {asked : Nat}
    (hcommands : Journal.commands j = (List.range asked).map fun (i : Nat) => Command.findText (start + i)) :
    launches es = (List.range asked).map fun (i : Nat) => jcmd.executable :: pid :: Command.findWords (start + i) := by
  rw [hj.launched, hcommands, List.map_map]
  refine List.map_congr_left fun i _ => ?_
  show jcmd.executable :: pid :: wordsOf (Command.findText (start + i)) = _
  rw [wordsOf, Command.split_findText]

/-- the launches whose answers were counted have reached the machine, and the answers are what they printed -/
theorem reached_of_served (hpid : Numeral.write jcmd.pid = .ok pid) (htimeout : jcmd.timeoutText = .ok timeout)
    (hj : j.InTurn jcmd pid outcomes 0 t es) {asked : Nat}
    (hcommands : Journal.commands j = (List.range asked).map fun (i : Nat) => Command.findText (start + i))
    {answers : List CommandOutput} (hasked : answers.length ≤ asked) {last : List (Except Failure CommandOutput)}
    (hanswers : Journal.answers j = answers.map .ok ++ last) :
    (∀ i < answers.length, (outcomes i).Reached pid) ∧
      answers = (List.range answers.length).map fun i => (outcomes i).output := by
  have hat (i : Nat) (hi : i < answers.length) : (outcomes i).Reached pid ∧ answers[i] = (outcomes i).output := by
    have hmeans := answer_at hj hcommands (hi.trans_le hasked)
    rw [hanswers, List.getElem?_append_left (by rwa [List.length_map]), List.getElem?_map,
      List.getElem?_eq_getElem hi] at hmeans
    have hanswer : jcmd.answer (Command.findText (start + i)) (outcomes i) = .ok answers[i] :=
      (Option.some.inj hmeans).symm
    exact Jcmd.reached_of_answer hpid htimeout hanswer
  refine ⟨fun i hi => (hat i hi).1, ?_⟩
  refine List.ext_getElem (by simp) fun i hi _ => ?_
  rw [List.getElem_map, List.getElem_range]
  exact (hat i hi).2

/-- what becomes of a sweep of `count` addresses from `start` on, by the ends of its launches -/
inductive Fate (jcmd : Jcmd) (pid timeout : String) (outcomes : Nat → Launch) (logger : Logger) (start : Int)
    (count : Nat) : Except Failure Report → List Event → Prop
  /-- all launches reached the machine -/
  | complete (report : Report) (es : List Event) (reached : ∀ i < count, (outcomes i).Reached pid)
      (first : report.start = start) (last : report.last = start + count - 1)
      (counts : report.Counts ((List.range count).map fun i => (outcomes i).output))
      (launched : launches es =
        (List.range count).map fun (i : Nat) => jcmd.executable :: pid :: Command.findWords (start + i))
      (recorded : errorRecords es = []) :
    Fate jcmd pid timeout outcomes logger start count (.ok report) es
  /-- one did not, and it was the first such -/
  | lost (i : Nat) (es : List Event) (left : i < count) (reached : ∀ k < i, (outcomes k).Reached pid)
      (lost : ¬ (outcomes i).Reached pid)
      (launched : launches es =
        (List.range (i + 1)).map fun (k : Nat) => jcmd.executable :: pid :: Command.findWords (start + k))
      (recorded : errorRecords es = [failureRecord logger (start + i) i]) :
    Fate jcmd pid timeout outcomes logger start count
      (.error (jcmd.loss pid timeout (Command.findText (start + i)) (outcomes i))) es

theorem fate_of_account (hpid : Numeral.write jcmd.pid = .ok pid) (htimeout : jcmd.timeoutText = .ok timeout)
    (hj : j.InTurn jcmd pid outcomes 0 t es) {logger : Logger} {count : Nat} {answers : List CommandOutput}
    {rs : List Record} {r : Except Failure Report}
    (h : Account logger start count answers (Journal.outward j) rs r)
    (hrs : rs = errorRecords ((Journal.records j).map .logged)) :
    Fate jcmd pid timeout outcomes logger start count r es := by
  have hcommands := h.commands_eq.2
  have hrecorded : errorRecords es = rs := hj.recorded.trans hrs.symm
  generalize hjournal : Journal.outward j = k at h hcommands
  have hanswersOf : Journal.answers j = Journal.answers k := by rw [← hjournal, Journal.answers_outward]
  have hcommandsOf : Journal.commands j = Journal.commands k := by rw [← hjournal, Journal.commands_outward]
  rw [← hcommandsOf] at hcommands
  cases h with
  | complete report all first last counts =>
    have hlength : (Journal.commands j).length = answers.length := by
      rw [hcommandsOf, commands_served, List.length_map, List.length_range]
    rw [hlength] at hcommands
    have hanswers : Journal.answers j = answers.map .ok ++ [] := by
      rw [hanswersOf, answers_served, List.append_nil]
    obtain ⟨hreached, houtputs⟩ := reached_of_served hpid htimeout hj hcommands le_rfl hanswers
    rw [all] at hreached houtputs hcommands
    rw [houtputs] at counts
    exact .complete report es hreached first last counts (launches_eq hj hcommands) hrecorded
  | unanswered e left =>
    have hlength : (Journal.commands j).length = answers.length + 1 := by
      rw [hcommandsOf, Journal.commands_append, commands_served, List.length_append, List.length_map, List.length_range]
      rfl
    rw [hlength] at hcommands
    have hanswers : Journal.answers j = answers.map .ok ++ [.error e] := by
      rw [hanswersOf, Journal.answers_append, answers_served]
      rfl
    obtain ⟨hreached, -⟩ := reached_of_served hpid htimeout hj hcommands (Nat.le_succ _) hanswers
    have hlast := answer_at hj hcommands (Nat.lt_succ_self answers.length)
    rw [hanswers, List.getElem?_append_right (by simp), List.length_map, Nat.sub_self] at hlast
    obtain ⟨hlost, rfl⟩ := Jcmd.not_reached_of_answer hpid htimeout (Option.some.inj hlast).symm
    exact .lost answers.length es left hreached hlost (launches_eq hj hcommands) hrecorded
  | rejected output e left =>
    -- nobody listens, so nobody can fail
    have hmem : Deed.told (start + answers.length) (.ofOutput (start + answers.length) false output) (.error e) ∈
        Journal.outward j := by
      rw [hjournal]
      simp
    cases hj.heard _ _ _ (List.mem_of_mem_filter hmem)

/-- a sweep sends commands that are their words -/
theorem spoken_of_neighborhoodCourse (logger : Logger) (knownGood lookback count : Int) :
    (NeighborhoodCourse logger knownGood lookback count).Without Deed.unspoken? :=
  without_neighborhoodCourse offProbes_unspoken logger knownGood lookback count

/-- every sweep that can be laid out has its fate -/
theorem fate_of_sweep (hpid : Numeral.write jcmd.pid = .ok pid) (htimeout : jcmd.timeoutText = .ok timeout)
    (outcomes : Nat → Launch) (logger : Logger) {knownGood lookback count : Int} (hlookback : 0 ≤ lookback)
    (hcount : 1 ≤ count) (hknown : lookback ≤ knownGood) :
    let o := neighborhood (jcmd.channel (Launcher.inTurn outcomes).traced) knownGood lookback count none logger 0
    Fate jcmd pid timeout outcomes logger (knownGood - lookback) count.toNat o.result o.events := by
  intro o
  obtain ⟨d, hd, hh⟩ := (follows_neighborhood (u := ⟨jcmd.channel (Launcher.inTurn outcomes).traced, {}⟩) knownGood
    lookback count logger 0 o.result o.world o.events).1 rfl
  have hturn := inTurn_of_happens hpid (spoken_of_neighborhoodCourse logger knownGood lookback count d _ hd) hh
  obtain ⟨answers, haccount⟩ := account_of_neighborhoodCourse hlookback hcount hknown hd
  exact fate_of_account hpid htimeout hturn haccount rfl

/-- **What becomes of a sweep over a launcher**, however its launches end. It ends with a report exactly if every launch
ended with status zero or behind the header of the machine; the report then counts every address, and every status other
than zero, and the classes of what was printed. Otherwise it ends at the first launch that did neither: that is the last
one, there is one error record, for its address, and the failure is the one that this launch is. -/
theorem sweep_of_launches (hpid : Numeral.write jcmd.pid = .ok pid) (htimeout : jcmd.timeoutText = .ok timeout)
    (outcomes : Nat → Launch) (logger : Logger) {knownGood lookback count : Int} (hlookback : 0 ≤ lookback)
    (hcount : 1 ≤ count) (hknown : lookback ≤ knownGood) :
    let o := neighborhood (jcmd.channel (Launcher.inTurn outcomes).traced) knownGood lookback count none logger 0
    let start := knownGood - lookback
    let argv (i : Nat) := jcmd.executable :: pid :: Command.findWords (start + i)
    ((∃ report, o.result = .ok report) ↔ ∀ i < count.toNat, (outcomes i).Reached pid) ∧
      (∀ report, o.result = .ok report →
        report.start = start ∧ report.last = start + count - 1 ∧ report.probes = count ∧
          report.Counts ((List.range count.toNat).map fun i => (outcomes i).output) ∧
          launches o.events = (List.range count.toNat).map argv ∧ errorRecords o.events = []) ∧
      ∀ i < count.toNat, (∀ k < i, (outcomes k).Reached pid) → ¬ (outcomes i).Reached pid →
        o.result = .error (jcmd.loss pid timeout (Command.findText (start + i)) (outcomes i)) ∧
          launches o.events = (List.range (i + 1)).map argv ∧
          errorRecords o.events = [failureRecord logger (start + i) i] := by
  intro o start argv
  have hfate : Fate jcmd pid timeout outcomes logger start count.toNat o.result o.events :=
    fate_of_sweep hpid htimeout outcomes logger hlookback hcount hknown
  generalize o.result = r at hfate ⊢
  generalize o.events = es at hfate ⊢
  cases hfate with
  | complete report _ reached first last counts launched recorded =>
    refine ⟨⟨fun _ => reached, fun _ => ⟨report, rfl⟩⟩, ?_, ?_⟩
    · intro report' hreport
      cases hreport
      have hprobes : report.probes = count.toNat := by
        rw [counts.probes, List.length_map, List.length_range]
      exact ⟨first, by omega, by omega, counts, launched, recorded⟩
    · intro i hi _ hlost
      exact absurd (reached i hi) hlost
  | lost i _ left reached lost launched recorded =>
    refine ⟨⟨?_, fun hall => absurd (hall i left) lost⟩, ?_, ?_⟩
    · rintro ⟨report, hreport⟩
      cases hreport
    · intro report hreport
      cases hreport
    · intro i' _ hbefore hlost
      -- there is only one first
      have hsame : i' = i := by
        rcases Nat.lt_trichotomy i' i with hlt | heq | hgt
        · exact absurd (reached i' hlt) hlost
        · exact heq
        · exact absurd (hbefore i hgt) lost
      subst hsame
      exact ⟨rfl, launched, recorded⟩

/-- the machine is reached twice, once by a command that it rejects, and then is gone -/
def rejectedThenGone : Nat → Launch
  | 0 => .completed "7:\nbad address" "" 1
  | 1 => .completed "7:\n0x11 is a thread" "" 0
  | _ => .completed "" "no such process" 1

/-- a sweep that goes on after a rejected command and stops at a lost machine -/
theorem sweep_of_launches_of_rejectedThenGone :
    Numeral.write aloofJcmd.pid = .ok "7" ∧ aloofJcmd.timeoutText = .ok "30.0" ∧
      let o := neighborhood (aloofJcmd.channel (Launcher.inTurn rejectedThenGone).traced) 0x10 0 3 none .sweeper 0
      o.result = .error (.channel ⟨"Could not attach to pid=7 for 'VM.debug find 0x12' (exit status 1).",
        some "VM.debug find 0x12", "no such process"⟩) ∧
      launches o.events = [["jcmd", "7", "VM.debug", "find", "0x10"], ["jcmd", "7", "VM.debug", "find", "0x11"],
        ["jcmd", "7", "VM.debug", "find", "0x12"]] ∧
      errorRecords o.events = [⟨.error, .sweeper, "Sweep probe failed at 0x12 after 2 probes"⟩] := by
  have hpid : Numeral.write aloofJcmd.pid = .ok "7" := rfl
  have htimeout : aloofJcmd.timeoutText = .ok "30.0" := Jcmd.timeoutText_default rfl
  have hbefore : ∀ k < 2, (rejectedThenGone k).Reached "7" := by
    intro k hk
    interval_cases k
    · right
      decide
    · left
      rfl
  have hgone : ¬ (rejectedThenGone 2).Reached "7" := by
    rintro (hstatus | hheader)
    · cases hstatus
    · revert hheader
      decide
  have hlookback : (0 : Int) ≤ 0 := le_rfl
  have hcount : (1 : Int) ≤ 3 := by decide
  have hknown : (0 : Int) ≤ 0x10 := by decide
  obtain ⟨-, -, hlost⟩ := sweep_of_launches hpid htimeout rejectedThenGone .sweeper hlookback hcount hknown
  obtain ⟨hresult, hlaunches, hrecords⟩ := hlost 2 (by decide) hbefore hgone
  refine ⟨hpid, htimeout, ?_, ?_, ?_⟩
  · rw [hresult]
    decide +kernel
  · rw [hlaunches]
    decide +kernel
  · rw [hrecords]
    decide +kernel

/-- a program that ends with a status of more digits than can be written, without having reached the machine -/
def unwritableStatus : Nat → Launch := fun _ => .completed "" "x" (10 ^ digitLimit)

/-- **A lost machine is not always a failure of the channel.** If the status cannot be written, the failure cannot be
reported, and the sweep ends with that failure instead. -/
theorem sweep_stopped_by_status :
    let o := neighborhood (aloofJcmd.channel (Launcher.inTurn unwritableStatus).traced) 0x10 0 1 none .sweeper 0
    ¬ (unwritableStatus 0).Reached "7" ∧ o.result = .error (.numeral .tooLongToWrite) ∧
      ∀ f, o.result ≠ .error (.channel f) := by
  intro o
  have hlost : ¬ (unwritableStatus 0).Reached "7" := by
    rintro (hstatus | hheader)
    · exact absurd hstatus (pow_ne_zero _ (by decide))
    · revert hheader
      decide
  have hlookback : (0 : Int) ≤ 0 := le_rfl
  have hknown : (0 : Int) ≤ 0x10 := by decide
  have hresult : o.result = .error (.numeral .tooLongToWrite) := by
    have hfate : Fate aloofJcmd "7" "30.0" unwritableStatus .sweeper 0x10 1 o.result o.events :=
      fate_of_sweep rfl (Jcmd.timeoutText_default rfl) unwritableStatus .sweeper hlookback le_rfl hknown
    generalize o.result = r at hfate ⊢
    generalize o.events = es at hfate
    cases hfate with
    | complete report _ reached => exact absurd (reached 0 Nat.one_pos) hlost
    | lost i => rw [unwritableStatus, Jcmd.loss, if_neg not_writable_pow]
  refine ⟨hlost, hresult, ?_⟩
  intro f hchannel
  rw [hresult] at hchannel
  cases hchannel

end Sweeps

end Sweep

end DebugFind
