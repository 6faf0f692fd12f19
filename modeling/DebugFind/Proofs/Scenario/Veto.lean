/-
Vetoes. Whoever is told of an answer or of a transition may fail instead of hearing it, and the run ends there with that
failure: nothing more is done, and nothing before was done otherwise. So every journal of a run, cut at something that
was told, with a failure put in the place of the reply, is a journal of a run as well (`vetoable_runCourse`).

This is a property of courses: it holds where nobody is told of anything, and it is kept by one course after another,
by sweeps and by phases.
-/
import DebugFind.Proofs.Scenario.Course

namespace DebugFind

open Scenario

variable {α β : Type}

/-- the same said to a listener who fails -/
def Deed.vetoed? (e : Failure) : Deed → Option Deed
  | .told address response _ => some (.told address response (.error e))
  | .announced transition _ => some (.announced transition (.error e))
  | _ => none

/-- at everything that is told a listener may fail, which ends the course there -/
def Course.Vetoable (T : Course α) : Prop :=
  ∀ e k d d' l r, T (k ++ d :: l) r → d.vetoed? e = some d' → T (k ++ [d']) (.error e)

theorem Deed.not_vetoed_of_mem {j : Journal} {d d' : Deed} {e : Failure} (hquiet : j.filterMap (vetoed? e) = [])
    (hmem : d ∈ j) : d.vetoed? e ≠ some d' := by
  rw [List.filterMap_eq_nil_iff.1 hquiet d hmem]
  exact (Option.some_ne_none d').symm

/-! ## Courses in a row -/

section Vetoable

variable {T : Course α}

/-- where nobody is told of anything, nobody can fail -/
theorem Course.vetoable_of_without (h : ∀ e, T.Without (Deed.vetoed? e)) : T.Vetoable := by
  intro e k d d' l r hj hd
  exact absurd hd (Deed.not_vetoed_of_mem (h e _ r hj) (by simp))

theorem Course.vetoable_still (x : Except Failure α) : (Course.still x).Vetoable :=
  vetoable_of_without fun _ => without_still x

theorem Course.Vetoable.andThen {U : α → Course β} (hT : T.Vetoable) (hU : ∀ a, (U a).Vetoable) :
    (T.andThen U).Vetoable := by
  intro e k d d' l r hj hd
  rcases hj with ⟨f, -, hj⟩ | ⟨a, j₁, j₂, hsplit, h₁, h₂⟩
  · exact Or.inl ⟨e, rfl, hT e k d d' l _ hj hd⟩
  · rcases List.append_eq_append_iff.1 hsplit with ⟨m, rfl, hrest⟩ | ⟨m, rfl, rfl⟩
    · cases m with
      | nil =>
        obtain rfl : j₂ = d :: l := hrest.symm
        exact Or.inr ⟨a, k, [d'], rfl, by simpa using h₁, hU a e [] d d' l r h₂ hd⟩
      | cons d₁ m =>
        obtain ⟨rfl, -⟩ := List.cons.inj hrest
        exact Or.inl ⟨e, rfl, hT e k d d' m _ h₁ hd⟩
    · exact Or.inr ⟨a, j₁, m ++ [d'], List.append_assoc .., h₁, hU a e m d d' l r h₂ hd⟩

/-- the only deed of some that can be vetoed, if it is the last one -/
theorem eq_last_of_vetoed {j k l : Journal} {c d d' : Deed} {e : Failure}
    (hquiet : j.filterMap (Deed.vetoed? e) = []) (hd : d.vetoed? e = some d') (h : j ++ [c] = k ++ d :: l) :
    k = j ∧ d = c := by
  have hnot : d ∉ j := fun hmem => Deed.not_vetoed_of_mem hquiet hmem hd
  rcases List.eq_nil_or_concat l with rfl | ⟨l, c', rfl⟩
  · obtain ⟨rfl, hc⟩ := List.append_inj' h rfl
    exact ⟨rfl, (List.singleton_inj.1 hc).symm⟩
  · rw [List.concat_eq_append, ← List.cons_append, ← List.append_assoc] at h
    obtain ⟨rfl, -⟩ := List.append_inj' h rfl
    exact absurd (by simp) hnot

end Vetoable

/-! ## Sweeps -/

namespace Sweep

theorem vetoable_stepCourse (logger : Logger) (address : Nat) (report : Report) :
    (StepCourse logger address report).Vetoable := by
  intro e k d d' l r hj hd
  -- a step tells of its answer last, whatever the reply is
  have hlast {output : CommandOutput} {reply : Except Failure Unit}
      (h : answered logger address output reply = k ++ d :: l) :
      StepCourse logger address report (k ++ [d']) (.error e) := by
    obtain ⟨rfl, rfl⟩ := eq_last_of_vetoed (j := [_, _]) rfl hd h
    cases hd
    exact .rejected output e
  generalize hk : k ++ d :: l = j at hj
  cases hj with
  | unanswered e' =>
    have hmem : d ∈ k ++ d :: l := by simp
    rw [hk] at hmem
    exact absurd hd (Deed.not_vetoed_of_mem rfl hmem)
  | rejected => exact hlast hk.symm
  | counted => exact hlast hk.symm

theorem vetoable_probesCourse (logger : Logger) (address count : Nat) (report : Report) :
    (ProbesCourse logger address count report).Vetoable := by
  induction count generalizing address report with
  | zero => exact Course.vetoable_still _
  | succ count ih => exact (vetoable_stepCourse logger address report).andThen (ih (address + 1))

theorem vetoable_neighborhoodCourse (logger : Logger) (knownGood lookback count : Int) :
    (NeighborhoodCourse logger knownGood lookback count).Vetoable := by
  intro e k d d' l r hj hd
  generalize hk : k ++ d :: l = j at hj
  cases hj with
  | refused => simp at hk
  | laidOut range h j r hprobes =>
    cases k with
    | nil =>
      obtain ⟨rfl, -⟩ := List.cons.inj hk
      cases hd
    | cons c k =>
      obtain ⟨rfl, rfl⟩ := List.cons.inj hk
      exact .laidOut range h _ _ (vetoable_probesCourse logger _ _ _ e k d d' l r hprobes hd)

end Sweep

/-! ## Phases -/

namespace Scenario

theorem vetoable_findCourse (pattern : ExtractionPattern) : (FindCourse pattern).Vetoable :=
  Course.vetoable_of_without fun _ _ _ hj => by cases hj <;> rfl

theorem vetoable_checkCourse (address : Int) (expected : Classification) (verbose : Bool)
    (field : Option FieldExpectation) : (CheckCourse address expected verbose field).Vetoable :=
  Course.vetoable_of_without fun _ _ _ hj => by cases hj <;> rfl

theorem vetoable_sentinelsCourse (sentinels : List Int) : (SentinelsCourse sentinels).Vetoable := by
  induction sentinels with
  | nil => exact Course.vetoable_still _
  | cons a rest ih => exact (vetoable_checkCourse a .notSafe false none).andThen fun _ => ih

theorem vetoable_sweepCourse (settings : SweepSettings) (address : Nat) : (SweepCourse settings address).Vetoable :=
  Sweep.vetoable_neighborhoodCourse _ _ _ _

theorem vetoable_threadCourse (profile : Profile) (thread : Nat) : (ThreadCourse profile thread).Vetoable := by
  refine (vetoable_checkCourse _ _ _ _).andThen fun _ => (vetoable_checkCourse _ _ _ _).andThen fun _ => ?_
  split_ifs
  · exact (vetoable_sweepCourse _ _).andThen fun _ => Course.vetoable_still _
  · exact Course.vetoable_still _

theorem vetoable_phaseCourse {stage : Stage} {T : Course α} {detail : α → Except Failure String} (hT : T.Vetoable) :
    (PhaseCourse stage T detail).Vetoable := by
  intro e k d d' l r hj hd
  -- what is vetoed belongs to the body, or it is the announcement
  have hannounced {j : Journal} {a : α} {text : String} {reply : Except Failure Unit} (hbody : T j (.ok a))
      (htext : detail a = .ok text) (h : k ++ d :: l = j ++ announcement ⟨stage, text⟩ reply) :
      PhaseCourse stage T detail (k ++ [d']) (.error e) := by
    rcases List.append_eq_append_iff.1 h with ⟨m, rfl, hrest⟩ | ⟨m, rfl, hrest⟩
    · cases m with
      | nil =>
        obtain ⟨rfl, -⟩ := List.cons.inj hrest
        cases hd
      | cons c m =>
        obtain ⟨rfl, -⟩ := List.cons.inj hrest
        exact .stopped _ e (hT e k d d' m _ hbody hd)
    · obtain ⟨rfl, rfl⟩ := eq_last_of_vetoed (j := [_]) rfl hd hrest
      cases hd
      rw [List.append_assoc]
      exact .vetoed j a text e hbody htext
  generalize hk : k ++ d :: l = j at hj
  cases hj with
  | stopped _ e' h =>
    subst hk
    exact .stopped _ e (hT e k d d' l _ h hd)
  | unwritten _ a e' h =>
    subst hk
    exact .stopped _ e (hT e k d d' l _ h hd)
  | vetoed j a text e' h hwords => exact hannounced h hwords hk
  | reached j a text h hwords => exact hannounced h hwords hk

/-! ## Runs -/

theorem vetoable_stepsCourse (profile : Profile) : (StepsCourse profile).Vetoable := by
  refine (vetoable_phaseCourse (vetoable_findCourse _)).andThen fun thread => ?_
  refine (vetoable_phaseCourse (vetoable_threadCourse profile thread)).andThen fun _ => ?_
  refine (vetoable_phaseCourse (vetoable_sentinelsCourse _)).andThen fun _ => ?_
  refine (vetoable_phaseCourse (vetoable_findCourse _)).andThen fun object => ?_
  refine (vetoable_phaseCourse (vetoable_checkCourse _ _ _ _)).andThen fun _ => ?_
  refine (vetoable_phaseCourse (vetoable_sweepCourse _ _)).andThen fun _ => ?_
  exact (vetoable_phaseCourse (Course.vetoable_still _)).andThen fun _ => Course.vetoable_still _

/-- **A run may be ended by whoever is told of something**, at each thing that is told. -/
theorem vetoable_runCourse (profile : Profile) : (RunCourse profile).Vetoable := by
  rintro e k d d' l r ⟨x, hj, -⟩ hd
  exact ⟨.error e, vetoable_stepsCourse profile e k d d' l x hj hd, rfl⟩

end Scenario

end DebugFind
