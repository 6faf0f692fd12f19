/-
The stages of a runner. A runner may be used in any way: the scenario is run on it, or it is told to go on to a stage,
as often and in any order, and every use may end with a failure, in the channel, in a judgement or in an observer.
Whatever is done with it, the stages it has reached are the first ones, in order (`Orderly`), and every transition was
announced once, when it was reached.

- `Course.Climbs`: a course that starts at a stage and, if it ends well, has gone on to another; meanwhile the stages
  stay in order. A phase climbs one stage (`climbs_phaseCourse`), and phases climb one after the other.
- `UseCourse`: what a use may do, by the stage that the runner is in.
- `orderly_of_useCourse`: one use keeps the order; `kept_useAll`: so do uses in a row.
- `stages_in_order`: what is true after every use of a runner.
-/
import DebugFind.Proofs.Scenario.Agenda

namespace DebugFind

open Scenario

variable {σ α β : Type}

/-! ## Stages in order -/

namespace Scenario.Progress

variable {p q : Progress}

/-- the stages reached are the first ones, in order, up to the present one -/
def Orderly (p : Progress) : Prop := p.transitions.map (·.stage.number) = List.range' 1 p.stage.number

theorem orderly_start : Orderly {} := rfl

theorem Orderly.extend (h : p.Orderly) {t : Transition} (hnext : t.stage.number = p.stage.number + 1) :
    (p.extend t).Orderly := by
  have hlast : t.stage.number = 1 + p.stage.number := by omega
  calc (p.transitions ++ [t]).map (·.stage.number)
      = List.range' 1 p.stage.number ++ [t.stage.number] := by rw [List.map_append, h]; rfl
    _ = List.range' 1 (p.stage.number + 1) := by rw [hlast, List.range'_1_concat]
    _ = List.range' 1 t.stage.number := by rw [hnext]

theorem Orderly.length_eq (h : p.Orderly) : p.transitions.length = p.stage.number := by
  have hlength := congrArg List.length h
  simpa using hlength

/-- no stage has been reached twice -/
theorem Orderly.nodup (h : p.Orderly) : (p.transitions.map Transition.stage).Nodup := by
  have hnumbers : ((p.transitions.map Transition.stage).map Stage.number).Nodup := by
    rw [List.map_map]
    show (p.transitions.map fun t => t.stage.number).Nodup
    rw [h]
    exact List.nodup_range'
  exact hnumbers.of_map

/-- the initial stage is not among those that were reached -/
theorem Orderly.forall_ne_initial (h : p.Orderly) : ∀ t ∈ p.transitions, t.stage ≠ .initial := by
  intro t ht hinitial
  have hnumber : t.stage.number ∈ List.range' 1 p.stage.number := by
    rw [← h]
    exact List.mem_map_of_mem ht
  rw [hinitial, List.mem_range'_1] at hnumber
  exact absurd hnumber.1 (by decide)

/-- nothing has been reached in the initial stage -/
theorem Orderly.eq_start (h : p.Orderly) (hp : p.stage = .initial) : p = {} := by
  have hlength := h.length_eq
  rw [hp] at hlength
  have hnone : p.transitions = [] := List.length_eq_zero_iff.1 hlength
  cases p
  cases hp
  cases hnone
  rfl

/-- whoever has reached more is at a later stage -/
theorem Orderly.number_le (h : p.Orderly) (hq : q.Orderly) (hextended : p.transitions <+: q.transitions) :
    p.stage.number ≤ q.stage.number := by
  rw [← h.length_eq, ← hq.length_eq]
  exact hextended.length_le

/-- the last transition announced is the one at which progress stands -/
theorem after_of_last {j : Journal} {earlier : List Transition} {t : Transition} (h : j.transitions = earlier ++ [t])
    (p : Progress) : (p.after j).stage = t.stage ∧ (p.after j).transitions.getLast? = some t := by
  constructor
  · rw [after, h, List.foldl_append]
    rfl
  · rw [transitions_after, h, ← List.append_assoc, List.getLast?_concat]

end Scenario.Progress

/-! ## Climbing -/

/-- from a stage on, the stages stay in order, and a further one has been reached if all ends well -/
def Course.Climbs (T : Course α) (before next : Stage) : Prop :=
  ∀ (p : Progress) (j : Journal) (r : Except Failure α), p.Orderly → p.stage = before → T j r →
    (p.after j).Orderly ∧ ∀ a, r = .ok a → (p.after j).stage = next

section Climbs

variable {T : Course α} {first second third : Stage}

theorem Course.climbs_still (x : Except Failure α) (stage : Stage) : (Course.still x).Climbs stage stage := by
  intro p j r hp hstage hj
  obtain ⟨rfl, -⟩ := hj
  exact ⟨hp, fun _ _ => hstage⟩

theorem Course.Climbs.andThen {U : α → Course β} (hT : T.Climbs first second) (hU : ∀ a, (U a).Climbs second third) :
    (T.andThen U).Climbs first third := by
  intro p j r hp hstage hj
  rcases hj with ⟨e, rfl, hj⟩ | ⟨a, k, l, rfl, hk, hl⟩
  · exact ⟨(hT p j _ hp hstage hj).1, fun _ h => by cases h⟩
  · obtain ⟨horderly, hreached⟩ := hT p k _ hp hstage hk
    rw [Progress.after_append]
    exact hU a _ l r horderly (hreached a rfl) hl

/-- a phase goes on to its stage from the one before -/
theorem climbs_phaseCourse {stage before : Stage} {detail : α → Except Failure String}
    (hnext : stage.number = before.number + 1) (hquiet : T.Without Deed.transition?) :
    (PhaseCourse stage T detail).Climbs before stage := by
  intro p j r hp hstage hj
  have hannounced {k : Journal} {x : Except Failure α} (hk : T k x) (text : String) (reply : Except Failure Unit) :
      (p.after (k ++ announcement ⟨stage, text⟩ reply)).Orderly := by
    rw [Progress.after_append, Progress.after_of_quiet (hquiet k x hk)]
    exact hp.extend (t := ⟨stage, text⟩) (by rw [hstage]; exact hnext)
  refine ⟨?_, fun a ha => ?_⟩
  · cases hj with
    | stopped _ e h => rwa [Progress.after_of_quiet (hquiet j _ h)]
    | unwritten _ a e h => rwa [Progress.after_of_quiet (hquiet j _ h)]
    | vetoed k a text e h => exact hannounced h text _
    | reached k a text h => exact hannounced h text _
  · rw [ha] at hj
    exact hj.stage_after hquiet p

/-- the steps climb from the initial stage to the last one -/
theorem climbs_stepsCourse (profile : Profile) : (StepsCourse profile).Climbs .initial .done := by
  have hsentinels := without_sentinelsCourse offProbes_transition profile.sentinels
  refine (climbs_phaseCourse rfl (quiet_findCourse _)).andThen fun thread => ?_
  refine (climbs_phaseCourse rfl (without_threadCourse offProbes_transition profile thread)).andThen fun _ => ?_
  refine (climbs_phaseCourse rfl hsentinels).andThen fun _ => ?_
  refine (climbs_phaseCourse rfl (quiet_findCourse _)).andThen fun object => ?_
  refine (climbs_phaseCourse rfl (without_checkCourse offProbes_transition _ _ _ _)).andThen fun _ => ?_
  refine (climbs_phaseCourse rfl (without_sweepCourse offProbes_transition _ _)).andThen fun _ => ?_
  refine (climbs_phaseCourse rfl (Course.without_still _)).andThen fun _ => ?_
  exact Course.climbs_still _ _

end Climbs

namespace Scenario

/-- so a run from the initial stage leaves the stages in order -/
theorem orderly_of_runCourse {profile : Profile} {j : Journal} {r : Except Failure Result} (h : RunCourse profile j r) :
    (Progress.after {} j).Orderly := by
  obtain ⟨x, hx, -⟩ := h
  exact (climbs_stepsCourse profile {} j x Progress.orderly_start rfl hx).1

/-! ## Uses of a runner -/

/-- a use of a runner -/
inductive Use where
  /-- to run the scenario -/
  | run
  /-- to go on to a stage -/
  | advance (stage : Stage) (detail : String)

/-- what a use does; what a run has found is left out -/
def Use.perform (u : Surroundings σ) (profile : Profile) : Use → Action (Progress × σ) Unit
  | .run => do
    let _ ← Scenario.run u.channel profile u.observers
  | .advance stage detail => Scenario.advance u.observers stage detail

/-- uses of one runner in a row, whatever each of them ends with -/
def useAll (u : Surroundings σ) (profile : Profile) : List Use → Action (Progress × σ) Unit
  | [] => pure ()
  | use :: rest => do
    let _ ← (use.perform u profile).attempt
    useAll u profile rest

/-- the course of a use: a runner runs in its initial stage alone, and goes on to the next stage alone -/
inductive UseCourse (profile : Profile) (p : Progress) : Use → Course Unit
  | ran (hp : p.stage = .initial) (j : Journal) (x : Except Failure Result) (h : RunCourse profile j x) :
    UseCourse profile p .run j (x.map fun _ => ())
  | notRun (hp : p.stage ≠ .initial) : UseCourse profile p .run [] (.error .alreadyRun)
  | advanced (stage : Stage) (detail : String) (hnext : stage.number = p.stage.number + 1) (r : Except Failure Unit) :
    UseCourse profile p (.advance stage detail) (announcement ⟨stage, detail⟩ r) r
  | notAdvanced (stage : Stage) (detail : String) (hnext : stage.number ≠ p.stage.number + 1) :
    UseCourse profile p (.advance stage detail) [] (.error (.illegalTransition p.stage stage))

section Uses

variable {u : Surroundings σ} {profile : Profile} {p : Progress} {use : Use} {j : Journal} {r : Except Failure Unit}

/-- what does nothing but fail -/
theorem followsFrom_refusal {act : Action (Progress × σ) α} {e : Failure}
    (h : ∀ s, act (p, s) = ⟨.error e, (p, s), []⟩) : FollowsFrom u p act (.still (.error e)) := by
  intro s r q t es
  rw [h s]
  exact followsFrom_ofExcept (.error e) s r q t es

theorem followsFrom_run (hp : p.Orderly) : FollowsFrom u p (Use.run.perform u profile) (UseCourse profile p .run) := by
  by_cases hstage : p.stage = .initial
  · have hstart := hp.eq_start hstage
    subst hstart
    have hparts : FollowsFrom u {} (Use.run.perform u profile)
        ((RunCourse profile).andThen fun _ => .still (.ok ())) :=
      (follows_run profile).bind fun _ _ _ => followsFrom_ofExcept (.ok ())
    refine hparts.congr fun j r => ?_
    constructor
    · rintro (⟨e, rfl, hj⟩ | ⟨result, k, _, rfl, hk, rfl, rfl⟩)
      · exact .ran rfl j (.error e) hj
      · rw [List.append_nil]
        exact .ran rfl k (.ok result) hk
    · intro hj
      cases hj with
      | ran _ j x hx =>
        cases x with
        | error e => exact Or.inl ⟨e, rfl, hx⟩
        | ok result => exact Or.inr ⟨result, j, [], (List.append_nil j).symm, hx, rfl, rfl⟩
      | notRun h => exact absurd rfl h
  · have hrefused : FollowsFrom u p (Use.run.perform u profile) (.still (.error .alreadyRun)) := by
      refine followsFrom_refusal fun s => ?_
      simp [Use.perform, Scenario.run, bind, Action.andThen, Action.next, Action.state, Action.fail, hstage]
    refine hrefused.congr fun j r => ?_
    constructor
    · rintro ⟨rfl, rfl⟩
      exact .notRun hstage
    · intro hj
      cases hj with
      | ran h => exact absurd h hstage
      | notRun => exact ⟨rfl, rfl⟩

theorem followsFrom_advanceTo (stage : Stage) (detail : String) :
    FollowsFrom u p ((Use.advance stage detail).perform u profile) (UseCourse profile p (.advance stage detail)) := by
  by_cases hnext : stage.number = p.stage.number + 1
  · refine (followsFrom_advance hnext detail).congr fun j r => ?_
    constructor
    · rintro rfl
      exact .advanced stage detail hnext r
    · intro hj
      cases hj with
      | advanced => rfl
      | notAdvanced _ _ h => exact absurd hnext h
  · have hrefused : FollowsFrom u p ((Use.advance stage detail).perform u profile)
        (.still (.error (.illegalTransition p.stage stage))) := by
      refine followsFrom_refusal fun s => ?_
      simp [Use.perform, Scenario.advance, bind, Action.andThen, Action.next, Action.state, Action.fail, hnext]
    refine hrefused.congr fun j r => ?_
    constructor
    · rintro ⟨rfl, rfl⟩
      exact .notAdvanced stage detail hnext
    · intro hj
      cases hj with
      | advanced _ _ h => exact absurd h hnext
      | notAdvanced => exact ⟨rfl, rfl⟩

/-- **A use of a runner has its course and no other**, whatever its surroundings. -/
theorem followsFrom_use (hp : p.Orderly) (use : Use) :
    FollowsFrom u p (use.perform u profile) (UseCourse profile p use) := by
  cases use with
  | run => exact followsFrom_run hp
  | advance stage detail => exact followsFrom_advanceTo stage detail

/-- a use keeps the stages in order -/
theorem orderly_of_useCourse (hp : p.Orderly) (h : UseCourse profile p use j r) : (p.after j).Orderly := by
  cases h with
  | ran hstage j x h =>
    obtain ⟨y, hy, -⟩ := h
    exact (climbs_stepsCourse profile p j y hp hstage hy).1
  | notRun => exact hp
  | advanced stage detail hnext => exact hp.extend (t := ⟨stage, detail⟩) hnext
  | notAdvanced => exact hp

/-- a failure that an observer or the channel brings into a use is the last thing in it, and its result -/
theorem settled_of_useCourse (h : UseCourse profile p use j r) : j.outward.Settled r := by
  cases h with
  | ran hstage j x h => exact (settled_of_runCourse h).map _
  | advanced stage detail hnext r =>
    cases r with
    | error e => exact Or.inr ⟨[], _, e, rfl, rfl, rfl, rfl⟩
    | ok => exact Or.inl rfl
  | _ => exact Or.inl rfl

/-- an observer that fails at a transition fails at the last one, and the use fails with it -/
theorem last_of_useCourse (h : UseCourse profile p use j r) {t : Transition} {e : Failure}
    (ht : Deed.announced t (.error e) ∈ j.outward) :
    r = .error e ∧ (p.after j).stage = t.stage ∧ (p.after j).transitions.getLast? = some t := by
  obtain ⟨hr, earlier, hlast⟩ := (settled_of_useCourse h).of_mem ht rfl
  have htransitions : j.transitions = earlier.transitions ++ [t] := by
    rw [← Journal.transitions_outward, hlast, Journal.transitions_append]
    rfl
  exact ⟨hr, Progress.after_of_last htransitions p⟩

end Uses

/-! ## A runner and its journal -/

/-- a runner whose stages are in order, and each of whose transitions was announced once -/
structure Kept (w : Progress × Journal × σ) : Prop where
  orderly : w.1.Orderly
  announced : w.2.1.transitions = w.1.transitions

section Kept

variable {u : Surroundings σ} {profile : Profile}

/-- what a use does to a runner that keeps a journal, and to one that keeps none -/
theorem exists_useCourse (u : Surroundings σ) (profile : Profile) {w : Progress × Journal × σ} (hw : Kept w) (use : Use) :
    ∃ d r t es, UseCourse profile w.1 use d r ∧ Happens u d w.2.2 t es ∧
      (use.perform u.journaled profile w).result = r ∧
      (use.perform u.journaled profile w).world = (w.1.after d, w.2.1 ++ d.outward, t) ∧
      (use.perform u profile (w.1, w.2.2)).result = r ∧
      (use.perform u profile (w.1, w.2.2)).world = (w.1.after d, t) := by
  obtain ⟨p, j, s⟩ := w
  have hplain : FollowsFrom u p (use.perform u profile) (UseCourse profile p use) := followsFrom_use hw.orderly use
  have hkept : FollowsFrom u.journaled p (use.perform u.journaled profile) (UseCourse profile p use) :=
    followsFrom_use hw.orderly use
  obtain ⟨d, hd, hresult, hprogress, hworld, hhappens⟩ := hplain.journaled hkept j s
  exact ⟨d, _, _, _, hd, hhappens, hresult, hworld, rfl, Prod.ext hprogress rfl⟩

/-- one use leaves the stages in order and every transition announced once -/
theorem kept_use (u : Surroundings σ) (profile : Profile) {w : Progress × Journal × σ} (hw : Kept w) (use : Use) :
    Kept (use.perform u.journaled profile w).world := by
  obtain ⟨d, r, t, es, hd, -, -, hworld, -⟩ := exists_useCourse u profile hw use
  rw [hworld]
  constructor
  · exact orderly_of_useCourse hw.orderly hd
  · rw [Journal.transitions_append, Journal.transitions_outward, hw.announced, Progress.transitions_after]

theorem world_useAll_cons (u : Surroundings σ) (use : Use) (rest : List Use) (w : Progress × σ) :
    (useAll u profile (use :: rest) w).world =
      (useAll u profile rest (use.perform u profile w).world).world := rfl

/-- uses in a row leave them so, and the journal changes nothing about them -/
theorem kept_useAll {w : Progress × Journal × σ} (hw : Kept w) (uses : List Use) :
    Kept (useAll u.journaled profile uses w).world ∧
      (useAll u profile uses (w.1, w.2.2)).world =
        ((useAll u.journaled profile uses w).world.1, (useAll u.journaled profile uses w).world.2.2) := by
  induction uses generalizing w with
  | nil => exact ⟨hw, rfl⟩
  | cons use rest ih =>
    obtain ⟨d, r, t, es, -, -, -, hworld, -, hplain⟩ := exists_useCourse u profile hw use
    have hrest := ih (kept_use u profile hw use)
    rw [world_useAll_cons, world_useAll_cons, hplain]
    rw [hworld] at hrest ⊢
    exact hrest

/-- **The stages of a runner are reached in order.** Whatever is done with a new runner, and whatever its surroundings
answer, after every use:
- the stages reached are the first ones, in order, and everyone who waits for transitions was told of each once;
- the stage is not an earlier one than before the use, and the transitions before are still there;
- an observer that failed at a transition ended the use with its failure, and the runner stands at that transition;
- a runner that was told to go on has done so, if the stage is the next one, and ends as the announcement did; if it is
  any other, the runner fails, and it is as it was.

The journal that shows this changes nothing about the runner. -/
theorem stages_in_order (u : Surroundings σ) (profile : Profile) (uses : List Use) (use : Use) (s : σ) :
    let before := (useAll u.journaled profile uses ({}, [], s)).world
    let outcome := use.perform u.journaled profile before
    let after := outcome.world
    let plain := use.perform u profile (useAll u profile uses ({}, s)).world
    (after.1.transitions.map (·.stage.number) = List.range' 1 after.1.stage.number ∧
        after.2.1.transitions = after.1.transitions) ∧
      (before.1.stage.number ≤ after.1.stage.number ∧ before.1.transitions <+: after.1.transitions) ∧
      (∃ d, after.2.1 = before.2.1 ++ d ∧ ∀ t e, Deed.announced t (.error e) ∈ d →
        outcome.result = .error e ∧ after.1.stage = t.stage ∧ after.1.transitions.getLast? = some t) ∧
      (∀ stage detail, use = .advance stage detail →
        if stage.number = before.1.stage.number + 1 then
          after.1 = ⟨stage, before.1.transitions ++ [⟨stage, detail⟩]⟩ ∧
            after.2.1 = before.2.1 ++ [.announced ⟨stage, detail⟩ outcome.result]
        else outcome.result = .error (.illegalTransition before.1.stage stage) ∧ after = before) ∧
      plain.result = outcome.result ∧ plain.world = (after.1, after.2.2) := by
  intro before outcome after plain
  obtain ⟨hbefore, hsame⟩ : Kept before ∧ (useAll u profile uses ({}, s)).world = (before.1, before.2.2) :=
    kept_useAll ⟨Progress.orderly_start, rfl⟩ uses
  obtain ⟨d, r, t, es, hd, hhappens, hresult, hworld, hplainResult, hplainWorld⟩ :=
    exists_useCourse u profile hbefore use
  have hafter : Kept after := kept_use u profile hbefore use
  have hprogress : after.1 = before.1.after d := congrArg Prod.fst hworld
  have hjournal : after.2.1 = before.2.1 ++ d.outward := congrArg (fun w => w.2.1) hworld
  have hextended : before.1.transitions <+: after.1.transitions := by
    rw [hprogress, Progress.transitions_after]
    exact List.prefix_append _ _
  refine ⟨⟨hafter.orderly, hafter.announced⟩, ⟨hbefore.orderly.number_le hafter.orderly hextended, hextended⟩, ?_, ?_, ?_⟩
  · refine ⟨d.outward, hjournal, fun t e ht => ?_⟩
    obtain ⟨hr, hlast⟩ := last_of_useCourse hd ht
    rw [hprogress]
    exact ⟨hresult.trans hr, hlast⟩
  · intro stage detail huse
    subst huse
    cases hd with
    | advanced _ _ hnext r =>
      rw [if_pos hnext, hresult]
      exact ⟨hprogress, hjournal⟩
    | notAdvanced _ _ hnext =>
      rw [if_neg hnext]
      obtain ⟨rfl, -⟩ := hhappens
      refine ⟨hresult, hworld.trans ?_⟩
      exact Prod.ext rfl (Prod.ext (List.append_nil _) rfl)
  · rw [← hsame] at hplainResult hplainWorld
    have hstate : after.2.2 = t := congrArg (fun w => w.2.2) hworld
    refine ⟨hplainResult.trans hresult.symm, hplainWorld.trans ?_⟩
    rw [hprogress, hstate]

end Kept

end Scenario

end DebugFind
