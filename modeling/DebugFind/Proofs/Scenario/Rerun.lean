/-
A runner that is used again. A run is refused by a runner that has left its initial stage, and such a runner never comes
back to it. But a run leaves the initial stage only with the thread that it finds in its first listing. If that listing
does not come, or shows no thread, the runner is as new after the run, and runs again.

- `Opening`: how a run begins, and what that says about its transitions (`opening_of_runCourse`).
- `stage_ne_initial_iff`: a run leaves the initial stage exactly if it finds a thread.
- `started_useAll`: a runner that has left the initial stage stays out of it, whatever is done with it.
- `run_again`: what further runs of a runner do; `run_twice`: a runner that runs twice.
-/
import DebugFind.Proofs.Scenario.Stages
import DebugFind.Proofs.Scenario.Verdict

namespace DebugFind.Scenario

variable {σ : Type} {u : Surroundings σ} {profile : Profile} {p : Progress} {s : σ}

/-! ## How a run begins -/

/-- the first listing comes, and shows a thread -/
def FindsThread (channel : Channel σ) (profile : Profile) (s : σ) : Prop :=
  ∃ output found, (channel.execute Command.threadListing s).result = .ok output ∧
    profile.threadPattern.locate output.text = .ok found

/-- the ways in which a run begins: it ends at the listing, or at the address in it, or it announces a transition -/
inductive Opening (profile : Profile) : Course Result
  | unanswered (e : Failure) : Opening profile [.asked Command.threadListing (.error e)] (.error e)
  | absent (output : CommandOutput) (f : ExtractionFailure) (h : profile.threadPattern.locate output.text = .error f) :
    Opening profile [.asked Command.threadListing (.ok output)] (.error (.extraction f))
  | found (output : CommandOutput) (address : Nat × String) (rest : Journal) (r : Except Failure Result)
    (h : profile.threadPattern.locate output.text = .ok address) (announced : rest.transitions ≠ []) :
    Opening profile (.asked Command.threadListing (.ok output) :: rest) r

/-- a listing in which a thread was found is answered by a transition -/
theorem announced_of_found {stage : Stage} {pattern : ExtractionPattern} {detail : Nat → String} {j : Journal}
    {r : Except Failure Nat} (h : PhaseCourse stage (FindCourse pattern) (fun a => .ok (detail a)) j r) :
    (∃ e, j = [.asked Command.threadListing (.error e)] ∧ r = .error e) ∨
      (∃ output f, j = [.asked Command.threadListing (.ok output)] ∧ pattern.locate output.text = .error f ∧
        r = .error (.extraction f)) ∨
      ∃ output found rest, j = .asked Command.threadListing (.ok output) :: rest ∧
        pattern.locate output.text = .ok found ∧ Journal.transitions rest ≠ [] := by
  have hfound {k : Journal} {a : Nat} (hk : FindCourse pattern k (.ok a)) (text : String)
      (reply : Except Failure Unit) :
      ∃ output found rest, k ++ announcement ⟨stage, text⟩ reply = .asked Command.threadListing (.ok output) :: rest ∧
        pattern.locate output.text = .ok found ∧ Journal.transitions rest ≠ [] := by
    cases hk with
    | found output _ line hlocate =>
      refine ⟨output, _, _, rfl, hlocate, ?_⟩
      simp [announcement, info, Journal.transitions, Deed.transition?]
  cases h with
  | stopped _ e hj =>
    cases hj with
    | unanswered => exact Or.inl ⟨e, rfl, rfl⟩
    | absent output f hlocate => exact Or.inr (Or.inl ⟨output, f, rfl, hlocate, rfl⟩)
  | unwritten _ a e hj hd => cases hd
  | vetoed k a text e hk => exact Or.inr (Or.inr (hfound hk text _))
  | reached k a text hk => exact Or.inr (Or.inr (hfound hk text _))

/-- every run begins so -/
theorem opening_of_runCourse {j : Journal} {r : Except Failure Result} (h : RunCourse profile j r) :
    Opening profile j r := by
  obtain ⟨x, hx, rfl⟩ := h
  rcases hx with ⟨e, rfl, hfirst⟩ | ⟨thread, k, l, rfl, hfirst, -⟩
  · rcases announced_of_found hfirst with ⟨e', rfl, he⟩ | ⟨output, f, rfl, hlocate, he⟩ |
      ⟨output, found, rest, rfl, hlocate, hannounced⟩
    · cases he
      exact .unanswered e
    · cases he
      exact .absent output f hlocate
    · exact .found output found rest _ hlocate hannounced
  · rcases announced_of_found hfirst with ⟨e', _, he⟩ | ⟨output, f, _, _, he⟩ |
      ⟨output, found, rest, rfl, hlocate, hannounced⟩
    · cases he
    · cases he
    · refine .found output found (rest ++ l) _ hlocate ?_
      rw [Journal.transitions_append]
      exact fun hnone => hannounced (List.append_eq_nil_iff.1 hnone).1

/-! ## Runners that have started -/

/-- a runner whose stages are in order and that has a transition is not in the initial stage -/
theorem Progress.Orderly.stage_ne_initial (hp : p.Orderly) (hreached : p.transitions ≠ []) : p.stage ≠ .initial := by
  intro hstage
  apply hreached
  rw [hp.eq_start hstage]

/-- what a first run leaves its runner with: a stage that is not the initial one if it found a thread; otherwise nothing,
after a single command and with a failure -/
theorem progress_of_runCourse {j : Journal} {r : Except Failure Result} (h : RunCourse profile j r) {t : σ}
    {es : List Event} (hj : Happens u j s t es) :
    (FindsThread u.channel profile s ∧ (Progress.after {} j).stage ≠ .initial) ∨
      (¬ FindsThread u.channel profile s ∧ Progress.after {} j = {} ∧ (∃ e, r = .error e) ∧
        j.commands = [Command.threadListing]) := by
  have hanswer {answer : Except Failure CommandOutput} {rest : Journal}
      (hh : Happens u (.asked Command.threadListing answer :: rest) s t es) :
      (u.channel.execute Command.threadListing s).result = answer := by
    obtain ⟨m, es₁, es₂, hfirst, -, -⟩ := hh
    have hexecute : u.channel.execute Command.threadListing s = ⟨answer, m, es₁⟩ := hfirst
    rw [hexecute]
  cases opening_of_runCourse h with
  | unanswered e =>
    refine Or.inr ⟨?_, rfl, ⟨e, rfl⟩, rfl⟩
    rintro ⟨output, found, houtput, -⟩
    rw [hanswer hj] at houtput
    cases houtput
  | absent output f hlocate =>
    refine Or.inr ⟨?_, rfl, ⟨.extraction f, rfl⟩, rfl⟩
    rintro ⟨output', found, houtput, hfound⟩
    rw [hanswer hj] at houtput
    cases houtput
    rw [hlocate] at hfound
    cases hfound
  | found output found rest _ hlocate hannounced =>
    refine Or.inl ⟨⟨output, found, hanswer hj, hlocate⟩, ?_⟩
    apply (orderly_of_runCourse h).stage_ne_initial
    rw [Progress.transitions_after]
    exact hannounced

/-- **A run leaves the initial stage exactly if it finds a thread.** -/
theorem stage_ne_initial_iff (u : Surroundings σ) (profile : Profile) (s : σ) :
    (run u.channel profile u.observers ({}, s)).world.1.stage ≠ .initial ↔ FindsThread u.channel profile s := by
  obtain ⟨j, hj, -, hprogress, hhappens⟩ := exists_runCourse u profile s
  rw [hprogress]
  rcases progress_of_runCourse hj hhappens with ⟨hfinds, hstage⟩ | ⟨hfinds, hnothing, -, -⟩
  · exact ⟨fun _ => hfinds, fun _ => hstage⟩
  · rw [hnothing]
    exact ⟨fun hstage => absurd rfl hstage, fun h => absurd h hfinds⟩

/-- a runner that has left the initial stage refuses to run, and nothing comes of it -/
theorem run_of_started (hp : p.stage ≠ .initial) (channel : Channel σ) (profile : Profile) (observers : Observers σ)
    (s : σ) : run channel profile observers (p, s) = ⟨.error .alreadyRun, (p, s), []⟩ := by
  simp [run, bind, Action.andThen, Action.next, Action.state, Action.fail, hp]

/-- one use leaves a runner that has started started -/
theorem started_use (hp : p.stage ≠ .initial) (use : Use) (s : σ) :
    (use.perform u profile (p, s)).world.1.stage ≠ .initial := by
  cases use with
  | run =>
    have hrefused := run_of_started hp u.channel profile u.observers s
    have hperform : Use.run.perform u profile (p, s) = ⟨.error .alreadyRun, (p, s), []⟩ := by
      simp [Use.perform, bind, Action.andThen, Action.next, hrefused]
    rw [hperform]
    exact hp
  | advance stage detail =>
    rcases hperform : (Use.advance stage detail).perform u profile (p, s) with ⟨r, ⟨q, t⟩, es⟩
    obtain ⟨j, hj, hq, -⟩ := (followsFrom_advanceTo stage detail s r q t es).1 hperform
    show q.stage ≠ .initial
    rw [hq]
    cases hj with
    | advanced _ _ hnext r =>
      intro hstage
      have hnumber : stage.number = 0 := congrArg Stage.number hstage
      omega
    | notAdvanced => exact hp

/-- and so do uses in a row -/
theorem started_useAll {w : Progress × σ} (hw : w.1.stage ≠ .initial) (uses : List Use) :
    (useAll u profile uses w).world.1.stage ≠ .initial := by
  induction uses generalizing w with
  | nil => exact hw
  | cons use rest ih =>
    rw [world_useAll_cons]
    apply ih
    exact started_use hw use w.2

/-! ## Further runs -/

/-- **What a runner does when it is run again.** After a run that found a thread, by whatever failure or with whatever
result that run ended, every further run is refused: no command is sent, nothing is written or told, and the runner is as
it was. That is so whatever is done with the runner in between, and whatever becomes of the surroundings. After a run that
found no thread, which sent a single command and failed, the runner is a new one. The journal that shows this changes
nothing about the first run. -/
theorem run_again (u : Surroundings σ) (profile : Profile) (s : σ) :
    let first := run u.journaled.channel profile u.journaled.observers ({}, [], s)
    let plain := run u.channel profile u.observers ({}, s)
    (FindsThread u.channel profile s → ∀ (uses : List Use) (j : Journal) (t : σ),
        let before := (useAll u.journaled profile uses (first.world.1, j, t)).world
        run u.journaled.channel profile u.journaled.observers before = ⟨.error .alreadyRun, before, []⟩) ∧
      (¬ FindsThread u.channel profile s → first.world.1 = {} ∧ (∃ e, first.result = .error e) ∧
        Journal.commands first.world.2.1 = [Command.threadListing]) ∧
      plain.result = first.result ∧ plain.world = (first.world.1, first.world.2.2) := by
  intro first plain
  obtain ⟨d, hd, hresult, hprogress, hworld, hhappens⟩ := FollowsFrom.journaled
    (follows_run (u := u) profile) (follows_run (u := u.journaled) profile) [] s
  have hfirst : first.world.1 = Progress.after {} d := congrArg Prod.fst hworld
  have hjournal : first.world.2.1 = d.outward := congrArg (fun w => w.2.1) hworld
  refine ⟨?_, ?_, hresult.symm, ?_⟩
  · intro hfinds uses j t before
    have hstarted : first.world.1.stage ≠ .initial := by
      rw [hfirst]
      rcases progress_of_runCourse hd hhappens with ⟨-, hstage⟩ | ⟨hnot, -⟩
      · exact hstage
      · exact absurd hfinds hnot
    have hbefore : before.1.stage ≠ .initial := started_useAll (w := (first.world.1, j, t)) hstarted uses
    exact run_of_started hbefore _ _ _ before.2
  · intro hnot
    rcases progress_of_runCourse hd hhappens with ⟨hfinds, -⟩ | ⟨-, hnothing, ⟨e, he⟩, hcommands⟩
    · exact absurd hfinds hnot
    · refine ⟨hfirst.trans hnothing, ⟨e, hresult.trans he⟩, ?_⟩
      rw [hjournal, Journal.commands_outward, hcommands]
  · rw [hworld, ← hprogress]

/-- the sample run finds its thread, and is refused from then on -/
theorem run_again_of_sample :
    FindsThread sampleChannel sampleProfile 0 ∧
      let u : Surroundings Nat := ⟨sampleChannel, {}⟩
      let first := run u.journaled.channel sampleProfile u.journaled.observers ({}, [], 0)
      run u.journaled.channel sampleProfile u.journaled.observers first.world =
        ⟨.error .alreadyRun, first.world, []⟩ := by
  have hlocate : (sampleProfile.threadPattern.locate (sampleAnswer 0)).toOption =
      some (0x10, "\"T\" tid=0x10 nid=1") := by
    decide +kernel
  have hfinds : FindsThread sampleChannel sampleProfile 0 := by
    cases hfound : sampleProfile.threadPattern.locate (sampleAnswer 0) with
    | error f =>
      rw [hfound] at hlocate
      cases hlocate
    | ok found => exact ⟨_, found, rfl, hfound⟩
  refine ⟨hfinds, ?_⟩
  intro u
  have hrefused := (run_again u sampleProfile 0).1 hfinds []
  -- the run itself must not be carried out here
  generalize run u.journaled.channel sampleProfile u.journaled.observers ({}, [], 0) = first at hrefused ⊢
  exact hrefused first.world.2.1 first.world.2.2

/-- the sample process, with an empty listing before everything else that it says -/
def lateChannel : Channel Nat := ⟨fun _ n => ⟨.ok ⟨if n = 0 then "" else sampleAnswer (n - 1), 0⟩, n + 1, []⟩⟩

/-- **A runner may run twice**: the first run finds no thread and fails, the second gives a result. -/
theorem run_twice :
    let first := run lateChannel sampleProfile {} ({}, 0)
    let second := run lateChannel sampleProfile {} first.world
    (∃ f, first.result = .error (.extraction f)) ∧ second.result.toOption = some sampleResult ∧
      ¬ ∀ (channel : Channel Nat) (profile : Profile) (observers : Observers Nat) (s : Nat),
        let first := run channel profile observers ({}, s)
        run channel profile observers first.world = ⟨.error .alreadyRun, first.world, []⟩ := by
  intro first second
  have hfirst : first.result.mapError (fun | .extraction _ => true | _ => false) = .error true := by decide +kernel
  have hsecond : second.result.toOption = some sampleResult := by decide +kernel
  refine ⟨?_, hsecond, ?_⟩
  · cases hresult : first.result with
    | ok found =>
      rw [hresult] at hfirst
      cases hfirst
    | error e =>
      rw [hresult] at hfirst
      cases e with
      | extraction f => exact ⟨f, rfl⟩
      | _ => cases hfirst
  · intro honce
    have hrefused : second = ⟨.error .alreadyRun, first.world, []⟩ := honce lateChannel sampleProfile {} 0
    rw [hrefused] at hsecond
    cases hsecond

end DebugFind.Scenario
