/-
The course of a scenario. A run has seven phases. A phase has a body, which asks questions and judges the answers;
then it puts what it found into words, announces the stage it reached, and gives what it found to the next phase. A
phase ends the run if its body fails, if the words cannot be written, or if those who wait for transitions fail.

`follows_run` says that a run does this and nothing else; `phase` is the common shape of the steps, and each step is
one (`findThread_eq` and so on). The transitions in the result are those announced.
-/
import DebugFind.Proofs.Sweep.Course

namespace DebugFind.Scenario

open DebugFind.Numeral

variable {σ α β : Type} {u : Surroundings σ}

/-! ## Questions and judgements -/

/-- a record of the scenario -/
def info (message : String) : Deed := .noted ⟨.info, .scenario, message⟩

/-- the course of looking for an address in a listing -/
inductive FindCourse (pattern : ExtractionPattern) : Course Nat
  | unanswered (e : Failure) : FindCourse pattern [.asked Command.threadListing (.error e)] (.error e)
  | absent (output : CommandOutput) (f : ExtractionFailure) (h : pattern.locate output.text = .error f) :
    FindCourse pattern [.asked Command.threadListing (.ok output)] (.error (.extraction f))
  | found (output : CommandOutput) (address : Nat) (line : String)
    (h : pattern.locate output.text = .ok (address, line)) :
    FindCourse pattern
      [.asked Command.threadListing (.ok output), info ("Matched line: " ++ line),
        info ("Found '" ++ pattern.name ++ "', using pointer: " ++ hexText address)]
      (.ok address)

/-- the course of a question about an address whose answer is judged -/
inductive CheckCourse (address : Int) (expected : Classification) (verbose : Bool) (field : Option FieldExpectation) :
    Course Unit
  | unwritten (h : ¬ Address.Writable address) :
    CheckCourse address expected verbose field [] (.error (.numeral .tooLongToWrite))
  | unanswered (h : Address.Writable address) (e : Failure) :
    CheckCourse address expected verbose field [.asked (Command.findText address verbose) (.error e)] (.error e)
  | judged (h : Address.Writable address) (output : CommandOutput) (r : Except Failure Unit)
    (hr : expected.check output.text verbose field = r) :
    CheckCourse address expected verbose field [.asked (Command.findText address verbose) (.ok output)] r

/-- the course of judging sentinels, one after the other -/
def SentinelsCourse : List Int → Course Unit
  | [] => .still (.ok ())
  | a :: rest => (CheckCourse a .notSafe false none).andThen fun _ => SentinelsCourse rest

/-- the course of a sweep as the settings say -/
def SweepCourse (settings : SweepSettings) (address : Nat) : Course Sweep.Report :=
  Sweep.NeighborhoodCourse .scenario address settings.lookback settings.count

/-- the course of judging a thread, with the sweep around it if that is asked for -/
def ThreadCourse (profile : Profile) (thread : Nat) : Course (Option Sweep.Report) :=
  (CheckCourse thread .thread false none).andThen fun _ => (CheckCourse thread .thread true none).andThen fun _ =>
    if profile.sweepThreadNeighborhood then
      (SweepCourse profile.sweep thread).andThen fun report => .still (.ok (some report))
    else .still (.ok none)

theorem follows_findAddress (pattern : ExtractionPattern) :
    Follows u (findAddress u.channel pattern) (FindCourse pattern) := by
  have hparts : Follows u (findAddress u.channel pattern)
      ((Course.single (.asked Command.threadListing)).andThen fun (output : CommandOutput) =>
        (Course.still ((pattern.locate output.text).mapError .extraction)).andThen fun found =>
          (Course.note ⟨.info, .scenario, "Matched line: " ++ found.2⟩).andThen fun _ =>
            (Course.note ⟨.info, .scenario,
              "Found '" ++ pattern.name ++ "', using pointer: " ++ hexText found.1⟩).andThen fun _ =>
              .still (.ok found.1)) := by
    rw [findAddress, Channel.listThreads, bind_assoc]
    refine (follows_execute _).bind fun output => ?_
    rw [pure_bind, ExtractionPattern.extract]
    cases pattern.locate output.text with
    | error f =>
      refine (follows_ofExcept (.error (.extraction f))).congr fun j r => ?_
      simp only [Except.mapError, Course.still_error_andThen_iff]
      rfl
    | ok found =>
      refine ((follows_log _ _ _).bind fun _ => (follows_log _ _ _).bind fun _ => follows_pure found.1).congr
        fun j r => ?_
      simp only [Except.mapError, Course.still_ok_andThen_iff]
  refine hparts.congr fun j r => ?_
  constructor
  · rintro (⟨e, rfl, rfl⟩ | ⟨output, _, j₂, rfl, rfl, hj⟩)
    · exact .unanswered e
    · cases hlocate : pattern.locate output.text with
      | error f =>
        simp only [hlocate, Except.mapError, Course.still_error_andThen_iff] at hj
        obtain ⟨rfl, rfl⟩ := hj
        exact .absent output f hlocate
      | ok found =>
        simp only [hlocate, Except.mapError, Course.still_ok_andThen_iff, Course.note_andThen_iff] at hj
        obtain ⟨_, rfl, _, rfl, rfl, rfl⟩ := hj
        exact .found output found.1 found.2 hlocate
  · intro hj
    cases hj with
    | unanswered e => exact Or.inl ⟨e, rfl, rfl⟩
    | absent output f h =>
      refine Or.inr ⟨output, _, [], rfl, rfl, ?_⟩
      simp only [h, Except.mapError, Course.still_error_andThen_iff, true_and]
    | found output address line h =>
      refine Or.inr ⟨output, [_], _, rfl, rfl, ?_⟩
      simp only [h, Except.mapError, Course.still_ok_andThen_iff, Course.note_andThen_iff]
      exact ⟨_, rfl, _, rfl, rfl, rfl⟩

theorem follows_probeAndCheck (address : Int) (expected : Classification) (verbose : Bool)
    (field : Option FieldExpectation) :
    Follows u (probeAndCheck u.channel address expected verbose field)
      (CheckCourse address expected verbose field) := by
  have hparts : Follows u (probeAndCheck u.channel address expected verbose field)
      ((ProbeCourse address verbose).andThen fun response => .still (response.check expected field)) :=
    (follows_probe address verbose).bind fun _ => follows_ofExcept _
  refine hparts.congr fun j r => ?_
  constructor
  · rintro (⟨e, rfl, hj⟩ | ⟨response, j₁, _, rfl, hj, rfl, rfl⟩)
    · cases hj with
      | unwritten h => exact .unwritten h
      | unanswered h => exact .unanswered h e
    · cases hj with
      | answered h output => exact .judged h output _ rfl
  · intro hj
    cases hj with
    | unwritten h => exact Or.inl ⟨_, rfl, .unwritten h⟩
    | unanswered h e => exact Or.inl ⟨e, rfl, .unanswered h e⟩
    | judged h output r hr => exact Or.inr ⟨_, _, [], rfl, .answered h output, rfl, hr.symm⟩

theorem follows_checkSentinels (sentinels : List Int) :
    Follows u (checkSentinels u.channel sentinels) (SentinelsCourse sentinels) := by
  induction sentinels with
  | nil => exact follows_pure ()
  | cons a rest ih => exact (follows_probeAndCheck a .notSafe false none).bind fun _ => ih

theorem follows_sweep (profile : Profile) (address : Nat) :
    Follows u (sweep u.channel profile u.observers address) (SweepCourse profile.sweep address) :=
  Sweep.follows_neighborhood address profile.sweep.lookback profile.sweep.count .scenario

/-! ## What questions do not do -/

section Without

variable {γ : Type} {pick : Deed → Option γ}

theorem without_findCourse (hpick : Deed.OffProbes pick)
    (hlisting : ∀ answer, pick (.asked Command.threadListing answer) = none) (pattern : ExtractionPattern) :
    (FindCourse pattern).Without pick := by
  intro j r hj
  cases hj <;> simp [hlisting, info, hpick.noted]

theorem quiet_findCourse (pattern : ExtractionPattern) : (FindCourse pattern).Without Deed.transition? :=
  without_findCourse offProbes_transition (fun _ => rfl) pattern

theorem without_checkCourse (hpick : Deed.OffProbes pick) (address : Int) (expected : Classification) (verbose : Bool)
    (field : Option FieldExpectation) : (CheckCourse address expected verbose field).Without pick := by
  intro j r hj
  cases hj <;> simp [hpick.asked]

theorem without_sentinelsCourse (hpick : Deed.OffProbes pick) (sentinels : List Int) :
    (SentinelsCourse sentinels).Without pick := by
  induction sentinels with
  | nil => exact Course.without_still _
  | cons a rest ih => exact (without_checkCourse hpick a .notSafe false none).andThen fun _ => ih

theorem without_sweepCourse (hpick : Deed.OffProbes pick) (settings : SweepSettings) (address : Nat) :
    (SweepCourse settings address).Without pick := Sweep.without_neighborhoodCourse hpick _ _ _ _

theorem without_threadCourse (hpick : Deed.OffProbes pick) (profile : Profile) (thread : Nat) :
    (ThreadCourse profile thread).Without pick := by
  refine (without_checkCourse hpick _ _ _ _).andThen fun _ => (without_checkCourse hpick _ _ _ _).andThen fun _ => ?_
  split_ifs
  · exact (without_sweepCourse hpick _ _).andThen fun _ => Course.without_still _
  · exact Course.without_still _

end Without

/-! ## Phases -/

/-- how a transition is announced -/
def announcement (t : Transition) (reply : Except Failure Unit) : Journal :=
  [info ("Scenario state " ++ t.stage.name ++ " " ++ t.detail), .announced t reply]

/-- the common shape of the steps: a body, and the announcement of what it found -/
def phase (observers : Observers σ) (stage : Stage) (body : Action σ α) (detail : α → Except Failure String) :
    Action (Progress × σ) α := do
  let a ← body.under
  let text ← Action.ofExcept (detail a)
  advance observers stage text
  return a

/-- the course of a phase -/
inductive PhaseCourse (stage : Stage) (body : Course α) (detail : α → Except Failure String) : Course α
  | stopped (j : Journal) (e : Failure) (h : body j (.error e)) : PhaseCourse stage body detail j (.error e)
  | unwritten (j : Journal) (a : α) (e : Failure) (h : body j (.ok a)) (hd : detail a = .error e) :
    PhaseCourse stage body detail j (.error e)
  | vetoed (j : Journal) (a : α) (text : String) (e : Failure) (h : body j (.ok a)) (hd : detail a = .ok text) :
    PhaseCourse stage body detail (j ++ announcement ⟨stage, text⟩ (.error e)) (.error e)
  | reached (j : Journal) (a : α) (text : String) (h : body j (.ok a)) (hd : detail a = .ok text) :
    PhaseCourse stage body detail (j ++ announcement ⟨stage, text⟩ (.ok ())) (.ok a)

variable {p : Progress} {stage : Stage}

/-- a stage that comes next is announced to those who wait for it, and reached even if they fail -/
theorem followsFrom_advance (hnext : stage.number = p.stage.number + 1) (text : String) :
    FollowsFrom u p (advance u.observers stage text) fun j r => j = announcement ⟨stage, text⟩ r := by
  intro s r q t es
  have hrun : advance u.observers stage text (p, s) =
      ⟨(u.announce ⟨stage, text⟩ s).result, (p.extend ⟨stage, text⟩, (u.announce ⟨stage, text⟩ s).world),
        .logged ⟨.info, .scenario, "Scenario state " ++ stage.name ++ " " ++ text⟩ ::
          (u.announce ⟨stage, text⟩ s).events⟩ := by
    unfold Surroundings.announce
    cases htell : u.observers.onTransition <;>
      simp [advance, bind, pure, Action.done, Action.andThen, Action.next, Action.state, Action.change, Action.log,
        Action.emit, Action.under, hnext, htell, Progress.extend]
  rw [hrun]
  constructor
  · intro h
    cases h
    exact ⟨_, rfl, rfl, s, [_], _, ⟨rfl, rfl⟩, happens_singleton.2 rfl, rfl⟩
  · rintro ⟨_, rfl, rfl, m, es₁, es₂, ⟨rfl, rfl⟩, h, rfl⟩
    have hannounce : u.announce ⟨stage, text⟩ m = ⟨r, t, es₂⟩ := happens_singleton.1 h
    rw [hannounce]
    rfl

theorem followsFrom_phase {body : Action σ α} {T : Course α} {detail : α → Except Failure String}
    (hnext : stage.number = p.stage.number + 1) (hbody : Follows u body T) (hquiet : T.Without Deed.transition?) :
    FollowsFrom u p (phase u.observers stage body detail) (PhaseCourse stage T detail) := by
  have hparts : FollowsFrom u p (phase u.observers stage body detail)
      (T.andThen fun a => (Course.still (detail a)).andThen fun text =>
        Course.andThen (fun j r => j = announcement ⟨stage, text⟩ r) fun _ => .still (.ok a)) := by
    refine (hbody.under hquiet).bind fun a j hj => ?_
    rw [Progress.after_of_quiet (hquiet j _ hj)]
    refine (followsFrom_ofExcept _).bind fun text j₂ h₂ => ?_
    rw [h₂.1]
    exact (followsFrom_advance hnext text).bind fun _ _ _ => followsFrom_ofExcept (.ok a)
  refine hparts.congr fun j r => ?_
  constructor
  · rintro (⟨e, rfl, hj⟩ | ⟨a, j₁, _, rfl, h₁, ⟨e, rfl, rfl, he⟩ | ⟨text, _, _, rfl, ⟨rfl, ht⟩, hj⟩⟩)
    · exact .stopped j e hj
    · rw [List.append_nil]
      exact .unwritten j₁ a e h₁ he.symm
    · rcases hj with ⟨e, rfl, rfl⟩ | ⟨⟨⟩, _, _, rfl, rfl, rfl, rfl⟩
      · exact .vetoed j₁ a text e h₁ ht.symm
      · exact .reached j₁ a text h₁ ht.symm
  · intro hj
    cases hj with
    | stopped j e h => exact Or.inl ⟨e, rfl, h⟩
    | unwritten j a e h hd => exact Or.inr ⟨a, j, [], by simp, h, Or.inl ⟨e, rfl, rfl, hd.symm⟩⟩
    | vetoed j a text e h hd =>
      exact Or.inr ⟨a, j, _, rfl, h, Or.inr ⟨text, [], _, rfl, ⟨rfl, hd.symm⟩, Or.inl ⟨e, rfl, rfl⟩⟩⟩
    | reached j a text h hd =>
      exact Or.inr ⟨a, j, _, rfl, h, Or.inr ⟨text, [], _, rfl, ⟨rfl, hd.symm⟩,
        Or.inr ⟨(), _, [], (List.append_nil _).symm, rfl, rfl, rfl⟩⟩⟩

/-- a phase that ends well has reached its stage -/
theorem PhaseCourse.stage_after {T : Course α} {detail : α → Except Failure String} {j : Journal} {a : α}
    (h : PhaseCourse stage T detail j (.ok a)) (hquiet : T.Without Deed.transition?) (p : Progress) :
    (p.after j).stage = stage := by
  cases h with
  | reached j a text h hd =>
    rw [Progress.after_append, Progress.after_of_quiet (hquiet j _ h)]
    rfl

theorem without_phaseCourse {γ : Type} {pick : Deed → Option γ} {T : Course α} {detail : α → Except Failure String}
    (hT : T.Without pick) (hpick : Deed.OffProbes pick) (hannounced : ∀ t reply, pick (.announced t reply) = none) :
    (PhaseCourse stage T detail).Without pick := by
  intro j r hj
  cases hj with
  | stopped _ e h => exact hT j _ h
  | unwritten _ a e h => exact hT j _ h
  | vetoed j a text e h =>
    rw [List.filterMap_append, hT j _ h]
    simp [announcement, info, hpick.noted, hannounced]
  | reached j a text h =>
    rw [List.filterMap_append, hT j _ h]
    simp [announcement, info, hpick.noted, hannounced]

/-! ## The steps -/

/-- the course of finding a thread -/
def ThreadFound (profile : Profile) : Course Nat :=
  PhaseCourse .threadFound (FindCourse profile.threadPattern) fun thread => .ok (hexText thread)

/-- the course of judging it -/
def ThreadClassified (profile : Profile) (thread : Nat) : Course (Option Sweep.Report) :=
  PhaseCourse .threadClassified (ThreadCourse profile thread) fun _ => .ok "thread, waiting"

/-- the course of judging the sentinels -/
def BadAddressesChecked (profile : Profile) : Course Unit :=
  PhaseCourse .badAddressesChecked (SentinelsCourse profile.sentinels) fun _ =>
    Failure.ofNumeral (describeSentinels profile.sentinels)

/-- the course of finding an object -/
def ObjectFound (profile : Profile) : Course Nat :=
  PhaseCourse .objectFound (FindCourse profile.objectPattern) fun object => .ok (hexText object)

/-- the course of judging it -/
def ObjectClassified (profile : Profile) (object : Nat) : Course Unit :=
  PhaseCourse .objectClassified (CheckCourse object .managedObject false (some profile.expectedField)) fun _ =>
    Failure.ofNumeral profile.expectedField.describe

/-- what is said about a sweep -/
def sweepDetail (report : Sweep.Report) : String :=
  toString report.probes ++ " probes " ++ hexText report.start ++ ".." ++ hexText report.last

/-- the course of the sweep around it -/
def NeighborhoodSwept (profile : Profile) (object : Nat) : Course Sweep.Report :=
  PhaseCourse .neighborhoodSwept (SweepCourse profile.sweep object) fun report => .ok (sweepDetail report)

/-- the course of coming to the end -/
def Done : Course Unit := PhaseCourse .done (.still (.ok ())) fun _ => .ok ""

section Steps

variable {profile : Profile}

theorem findThread_eq : findThread u.channel profile u.observers =
    phase u.observers .threadFound (findAddress u.channel profile.threadPattern) fun thread => .ok (hexText thread) :=
  rfl

theorem checkThread_eq (thread : Nat) : checkThread u.channel profile u.observers thread =
    phase u.observers .threadClassified
      (probeAndCheck u.channel thread .thread >>= fun _ => probeAndCheck u.channel thread .thread true >>= fun _ =>
        if profile.sweepThreadNeighborhood then sweep u.channel profile u.observers thread >>= fun r => pure (some r)
        else pure none)
      fun _ => .ok "thread, waiting" := by
  cases h : profile.sweepThreadNeighborhood <;>
    simp only [checkThread, phase, h, if_true, Bool.false_eq_true, if_false, Action.under_bind, Action.under_pure,
      bind_assoc, pure_bind, map_eq_pure_bind] <;> rfl

theorem checkBadAddresses_eq : checkBadAddresses u.channel profile u.observers =
    phase u.observers .badAddressesChecked (checkSentinels u.channel profile.sentinels) fun _ =>
      Failure.ofNumeral (describeSentinels profile.sentinels) := by
  simp only [checkBadAddresses, phase, Action.ofNumeral, bind_pure_unit]

theorem findObject_eq : findObject u.channel profile u.observers =
    phase u.observers .objectFound (findAddress u.channel profile.objectPattern) fun object => .ok (hexText object) :=
  rfl

theorem checkObject_eq (object : Nat) : checkObject u.channel profile u.observers object =
    phase u.observers .objectClassified
      (probeAndCheck u.channel object .managedObject false (some profile.expectedField)) fun _ =>
        Failure.ofNumeral profile.expectedField.describe := by
  simp only [checkObject, phase, Action.ofNumeral, bind_pure_unit]

theorem sweepObject_eq (object : Nat) : sweepObject u.channel profile u.observers object =
    phase u.observers .neighborhoodSwept (sweep u.channel profile u.observers object) fun report =>
      .ok (sweepDetail report) := rfl

theorem advance_done_eq : advance u.observers .done = phase u.observers .done (pure ()) fun _ => .ok "" := by
  simp only [phase, Action.under_pure, pure_bind, bind_pure_unit]
  rfl

theorem followsFrom_findThread (hp : p.stage = .initial) :
    FollowsFrom u p (findThread u.channel profile u.observers) (ThreadFound profile) := by
  rw [findThread_eq]
  exact followsFrom_phase (by rw [hp]; rfl) (follows_findAddress _) (quiet_findCourse _)

theorem followsFrom_checkThread (hp : p.stage = .threadFound) (thread : Nat) :
    FollowsFrom u p (checkThread u.channel profile u.observers thread) (ThreadClassified profile thread) := by
  rw [checkThread_eq]
  refine followsFrom_phase (by rw [hp]; rfl) ?_ (without_threadCourse offProbes_transition profile thread)
  refine (follows_probeAndCheck _ _ _ _).bind fun _ => (follows_probeAndCheck _ _ _ _).bind fun _ => ?_
  split_ifs
  · exact (follows_sweep profile thread).bind fun report => follows_pure (some report)
  · exact follows_pure none

theorem followsFrom_checkBadAddresses (hp : p.stage = .threadClassified) :
    FollowsFrom u p (checkBadAddresses u.channel profile u.observers) (BadAddressesChecked profile) := by
  rw [checkBadAddresses_eq]
  exact followsFrom_phase (by rw [hp]; rfl) (follows_checkSentinels _) (without_sentinelsCourse offProbes_transition _)

theorem followsFrom_findObject (hp : p.stage = .badAddressesChecked) :
    FollowsFrom u p (findObject u.channel profile u.observers) (ObjectFound profile) := by
  rw [findObject_eq]
  exact followsFrom_phase (by rw [hp]; rfl) (follows_findAddress _) (quiet_findCourse _)

theorem followsFrom_checkObject (hp : p.stage = .objectFound) (object : Nat) :
    FollowsFrom u p (checkObject u.channel profile u.observers object) (ObjectClassified profile object) := by
  rw [checkObject_eq]
  exact followsFrom_phase (by rw [hp]; rfl) (follows_probeAndCheck _ _ _ _)
    (without_checkCourse offProbes_transition _ _ _ _)

theorem followsFrom_sweepObject (hp : p.stage = .objectClassified) (object : Nat) :
    FollowsFrom u p (sweepObject u.channel profile u.observers object) (NeighborhoodSwept profile object) := by
  rw [sweepObject_eq]
  exact followsFrom_phase (by rw [hp]; rfl) (follows_sweep _ _) (without_sweepCourse offProbes_transition _ _)

theorem followsFrom_advance_done (hp : p.stage = .neighborhoodSwept) :
    FollowsFrom u p (advance u.observers .done) Done := by
  rw [advance_done_eq]
  exact followsFrom_phase (by rw [hp]; rfl) (follows_pure ()) (Course.without_still _)

end Steps

/-! ## The run -/

/-- the course of all steps; what they find lacks only the transitions -/
def StepsCourse (profile : Profile) : Course (List Transition → Result) :=
  (ThreadFound profile).andThen fun thread => (ThreadClassified profile thread).andThen fun threadSweep =>
    (BadAddressesChecked profile).andThen fun _ => (ObjectFound profile).andThen fun object =>
      (ObjectClassified profile object).andThen fun _ => (NeighborhoodSwept profile object).andThen fun objectSweep =>
        Done.andThen fun _ => .still (.ok (Result.mk thread object objectSweep threadSweep))

/-- the course of a run -/
def RunCourse (profile : Profile) : Course Result := fun j r =>
  ∃ x, StepsCourse profile j x ∧ r = x.map fun found => found j.transitions

/-- what neither probes nor listings nor announcements do is not done in a run -/
theorem without_runCourse {γ : Type} {pick : Deed → Option γ} (hpick : Deed.OffProbes pick)
    (hlisting : ∀ answer, pick (.asked Command.threadListing answer) = none)
    (hannounced : ∀ t reply, pick (.announced t reply) = none) (profile : Profile) :
    (RunCourse profile).Without pick := by
  have hphase {α : Type} {stage : Stage} {T : Course α} {detail : α → Except Failure String} (hT : T.Without pick) :
      (PhaseCourse stage T detail).Without pick := without_phaseCourse hT hpick hannounced
  have hsteps : (StepsCourse profile).Without pick := by
    refine (hphase (without_findCourse hpick hlisting _)).andThen fun thread => ?_
    refine (hphase (without_threadCourse hpick profile thread)).andThen fun _ => ?_
    refine (hphase (without_sentinelsCourse hpick _)).andThen fun _ => ?_
    refine (hphase (without_findCourse hpick hlisting _)).andThen fun object => ?_
    refine (hphase (without_checkCourse hpick _ _ _ _)).andThen fun _ => ?_
    refine (hphase (without_sweepCourse hpick _ _)).andThen fun _ => ?_
    exact (hphase (Course.without_still _)).andThen fun _ => Course.without_still _
  rintro j r ⟨x, hj, -⟩
  exact hsteps j x hj

/-- all steps, with the transitions left to be filled in -/
def untilDone (channel : Channel σ) (profile : Profile) (observers : Observers σ) :
    Action (Progress × σ) (List Transition → Result) := do
  let thread ← findThread channel profile observers
  let threadSweep ← checkThread channel profile observers thread
  checkBadAddresses channel profile observers
  let object ← findObject channel profile observers
  checkObject channel profile observers object
  let objectSweep ← sweepObject channel profile observers object
  advance observers .done
  return Result.mk thread object objectSweep threadSweep

theorem steps_eq (channel : Channel σ) (profile : Profile) (observers : Observers σ) :
    steps channel profile observers =
      untilDone channel profile observers >>= fun found => Action.state >>= fun q => pure (found q.1.transitions) := by
  simp only [steps, untilDone, bind_assoc, pure_bind]

theorem followsFrom_untilDone (profile : Profile) :
    FollowsFrom u {} (untilDone u.channel profile u.observers) (StepsCourse profile) := by
  refine (followsFrom_findThread rfl).bind fun thread _ h₁ => ?_
  refine (followsFrom_checkThread (h₁.stage_after (quiet_findCourse _) _) thread).bind fun threadSweep _ h₂ => ?_
  have hthread := without_threadCourse offProbes_transition profile thread
  refine (followsFrom_checkBadAddresses (h₂.stage_after hthread _)).bind fun _ _ h₃ => ?_
  have hsentinels := without_sentinelsCourse offProbes_transition profile.sentinels
  refine (followsFrom_findObject (h₃.stage_after hsentinels _)).bind fun object _ h₄ => ?_
  refine (followsFrom_checkObject (h₄.stage_after (quiet_findCourse _) _) object).bind fun _ _ h₅ => ?_
  have hobject := without_checkCourse offProbes_transition object .managedObject false (some profile.expectedField)
  refine (followsFrom_sweepObject (h₅.stage_after hobject _) object).bind fun objectSweep _ h₆ => ?_
  have hsweep := without_sweepCourse offProbes_transition profile.sweep object
  exact (followsFrom_advance_done (h₆.stage_after hsweep _)).bind fun _ _ _ => followsFrom_ofExcept _

theorem fillIn_eq (found : List Transition → Result) (q : Progress) (t : σ) :
    (Action.state >>= fun q : Progress × σ => pure (found q.1.transitions)) (q, t) =
      ⟨.ok (found q.transitions), (q, t), []⟩ := rfl

/-- **A run has its course and no other**, whatever its surroundings. -/
theorem follows_run (profile : Profile) :
    FollowsFrom u {} (run u.channel profile u.observers) (RunCourse profile) := by
  intro s r q t es
  have hrun : run u.channel profile u.observers ({}, s) =
      (untilDone u.channel profile u.observers >>= fun found =>
        Action.state >>= fun q => pure (found q.1.transitions)) ({}, s) := by
    rw [← steps_eq]
    rfl
  rw [hrun, Action.bind_eq_iff]
  constructor
  · rintro (⟨e, rfl, he⟩ | ⟨found, ⟨q', t'⟩, es₁, es₂, hfound, hq, rfl⟩)
    · obtain ⟨j, hj, hq, hh⟩ := (followsFrom_untilDone profile _ _ _ _ _).1 he
      exact ⟨j, ⟨_, hj, rfl⟩, hq, hh⟩
    · obtain ⟨j, hj, rfl, hh⟩ := (followsFrom_untilDone profile _ _ _ _ _).1 hfound
      rw [fillIn_eq, Progress.transitions_after] at hq
      cases hq
      exact ⟨j, ⟨_, hj, rfl⟩, rfl, by rwa [List.append_nil]⟩
  · rintro ⟨j, ⟨x, hj, rfl⟩, rfl, hh⟩
    have huntil := (followsFrom_untilDone profile _ _ _ _ _).2 ⟨j, hj, rfl, hh⟩
    cases x with
    | error e => exact Or.inl ⟨e, rfl, huntil⟩
    | ok found =>
      refine Or.inr ⟨found, _, es, [], huntil, ?_, (List.append_nil es).symm⟩
      rw [fillIn_eq, Progress.transitions_after]
      rfl

/-- what a new run does with its surroundings, in order -/
def conversation (u : Surroundings σ) (profile : Profile) (s : σ) : Journal :=
  (run u.journaled.channel profile u.journaled.observers ({}, [], s)).world.2.1

/-- the conversation of a run is one of its course, and leads to where the run ends -/
theorem exists_runCourse (u : Surroundings σ) (profile : Profile) (s : σ) :
    let outcome := run u.channel profile u.observers ({}, s)
    ∃ d, RunCourse profile d outcome.result ∧ conversation u profile s = d.outward ∧
      outcome.world.1 = Progress.after {} d ∧ Happens u d s outcome.world.2 outcome.events := by
  obtain ⟨d, hd, -, hprogress, hworld, hhappens⟩ := FollowsFrom.journaled
    (follows_run (u := u) profile) (follows_run (u := u.journaled) profile) [] s
  exact ⟨d, hd, congrArg (fun w => w.2.1) hworld, hprogress, hhappens⟩

/-- whatever journal of the course happens is the conversation of the run -/
theorem conversation_eq {profile : Profile} {j : Journal} {r : Except Failure Result} (hj : RunCourse profile j r)
    {s t : σ} {es : List Event} (h : Happens u j s t es) : conversation u profile s = j.outward := by
  have hrun := (follows_run (u := u.journaled) profile ([], s) r _ _ _).2
    ⟨j, hj, rfl, happens_journaled.2 ⟨t, es, h, rfl, rfl⟩⟩
  rw [conversation, hrun]
  rfl

end DebugFind.Scenario
