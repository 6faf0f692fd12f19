/-
The agenda of a scenario: its tasks in order, each with the stage that the run is in meanwhile. What it says after a
listing depends on the address that the listing shows, and so on the answers of the very run; `agenda` takes these
addresses as they are read off the journal.

- `Ending` says how a run with an agenda ends: with all tasks done; or at a task that fails, with what that task did
  and nothing after it, in the stage of the task; or at a transition that was vetoed, in the stage it announced.
- `Ending.commands_prefix`, `Ending.settled`: what is sent is an initial part of the commands on the agenda, and a
  failure from outside is the last thing that happens.
- `Ending.stoppedAtTask`: where nobody vetoes a transition, a run that fails has stopped at a task.
- `run_keeps_agenda`: every run from the initial stage ends so, for all profiles, channels and observers.

The induction is over the phases: each has a part of the agenda (`ending_phase`), and parts in a row are a longer
agenda (`Ending.append`).
-/
import DebugFind.Proofs.Classification
import DebugFind.Proofs.Scenario.Course
import DebugFind.Proofs.Sweep.Accounting

namespace DebugFind

/-! ## Listings and failures in a journal -/

/-- the listing that came back -/
def Deed.listing? : Deed → Option String
  | .asked command (.ok output) => if command = Command.threadListing then some output.text else none
  | _ => none

theorem offProbes_listing : Deed.OffProbes Deed.listing? where
  asked address verbose answer := by
    cases answer with
    | error e => rfl
    | ok output => simp [Deed.listing?, Command.findText_ne_threadListing]
  told _ _ _ := rfl
  noted _ := rfl

namespace Journal

/-- the listings that came back -/
def listings (j : Journal) : List String := j.filterMap Deed.listing?

/-- the failures that came back from outside -/
def failures (j : Journal) : List Failure := j.filterMap Deed.failure?

@[simp] theorem listings_append (j k : Journal) : listings (j ++ k) = listings j ++ listings k :=
  List.filterMap_append

@[simp] theorem failures_append (j k : Journal) : failures (j ++ k) = failures j ++ failures k :=
  List.filterMap_append

@[simp] theorem listings_outward (j : Journal) : listings (outward j) = listings j := filterMap_outward (fun _ => rfl) j

/-- nothing came back as a failure before the last deed, and if that did, it is the result -/
def Settled {α : Type} (j : Journal) (r : Except Failure α) : Prop :=
  failures j = [] ∨ ∃ earlier d e, j = earlier ++ [d] ∧ failures earlier = [] ∧ d.failure? = some e ∧ r = .error e

theorem Settled.append_left {α : Type} {j k : Journal} {r : Except Failure α} (h : Settled k r) (hj : failures j = []) :
    Settled (j ++ k) r := by
  rcases h with h | ⟨earlier, d, e, rfl, h, hd, hr⟩
  · exact Or.inl (by rw [failures_append, hj, h]; rfl)
  · exact Or.inr ⟨j ++ earlier, d, e, by simp, by rw [failures_append, hj, h]; rfl, hd, hr⟩

theorem Settled.map {α β : Type} {j : Journal} {r : Except Failure α} (h : j.Settled r) (f : α → β) :
    j.Settled (r.map f) := by
  rcases h with h | ⟨earlier, d, e, hj, hearlier, hd, rfl⟩
  · exact Or.inl h
  · exact Or.inr ⟨earlier, d, e, hj, hearlier, hd, rfl⟩

/-- a failure from outside is the last thing in a settled journal, and the result -/
theorem Settled.of_mem {α : Type} {j : Journal} {r : Except Failure α} (h : j.Settled r) {d : Deed} (hd : d ∈ j)
    {e : Failure} (he : d.failure? = some e) : r = .error e ∧ ∃ earlier, j = earlier ++ [d] := by
  have hfailures {k : Journal} (hk : d ∈ k) : failures k ≠ [] := by
    intro hnone
    have hmem : e ∈ failures k := List.mem_filterMap.2 ⟨d, hk, he⟩
    rw [hnone] at hmem
    cases hmem
  rcases h with h | ⟨earlier, last, e', rfl, hearlier, hlast, rfl⟩
  · exact absurd h (hfailures hd)
  · rcases List.mem_append.1 hd with hd | hd
    · exact absurd hearlier (hfailures hd)
    · obtain rfl := List.mem_singleton.1 hd
      rw [he] at hlast
      cases hlast
      exact ⟨rfl, earlier, rfl⟩

end Journal

theorem Sweep.failures_served (start : Int) (answers : List CommandOutput) :
    Journal.failures (served start answers) = [] := by
  induction answers generalizing start with
  | nil => rfl
  | cons output answers ih => exact ih (start + 1)

/-- an account shows no failure before the last deed, and its last failure is the result -/
theorem Sweep.Account.settled {logger : Logger} {start : Int} {count : Nat} {answers : List CommandOutput} {j : Journal}
    {rs : List Record} {r : Except Failure Report} (h : Account logger start count answers j rs r) : j.Settled r := by
  cases h with
  | complete => exact Or.inl (failures_served start answers)
  | unanswered e => exact Or.inr ⟨_, _, e, rfl, failures_served start answers, rfl, rfl⟩
  | rejected output e =>
    refine Or.inr ⟨served start answers ++ [.asked (Command.findText (start + answers.length)) (.ok output)],
      .told (start + answers.length) (.ofOutput (start + answers.length) false output) (.error e), e, ?_, ?_, rfl, rfl⟩
    · rw [List.append_assoc]
      rfl
    · rw [Journal.failures_append, failures_served]
      rfl

/-! ## Observers that veto no transition -/

/-- whoever is told of transitions never fails -/
def Scenario.Observers.HearTransitions {σ : Type} (observers : Observers σ) : Prop :=
  ∀ tell ∈ observers.onTransition, ∀ t s, (tell t s).result = .ok ()

section Hearing

variable {σ : Type} {u : Surroundings σ}

theorem Surroundings.announce_of_hearTransitions (h : u.observers.HearTransitions) (t : Transition) (s : σ) :
    (u.announce t s).result = .ok () := by
  unfold announce
  cases htell : u.observers.onTransition with
  | none => rfl
  | some tell => exact h tell htell t s

theorem announced_of_happens (h : u.observers.HearTransitions) {j : Journal} {s t : σ} {es : List Event}
    (hj : Happens u j s t es) : ∀ transition reply, .announced transition reply ∈ j → reply = .ok () := by
  have hdeeds : ∀ d ∈ j, ∀ transition reply, d = .announced transition reply → reply = .ok () := by
    refine forall_of_happens (fun d s m es hd transition reply hreply => ?_) hj
    subst hreply
    have hresult : (u.announce transition s).result = reply := by rw [hd]
    exact hresult.symm.trans (u.announce_of_hearTransitions h transition s)
  exact fun transition reply hmem => hdeeds _ hmem transition reply rfl

end Hearing

namespace Scenario

open DebugFind.Numeral

variable {σ α β : Type}

/-! ## Tasks -/

/-- a thing that a scenario has to do -/
inductive Task where
  /-- to find an address in a listing -/
  | list (pattern : ExtractionPattern)
  /-- to judge the answer about an address -/
  | check (address : Int) (expected : Classification) (verbose : Bool) (field : Option FieldExpectation)
  /-- to sweep around an address -/
  | sweep (address : Nat)

namespace Task

/-- the commands that a task takes -/
def commands (settings : SweepSettings) : Task → List String
  | .list _ => [Command.threadListing]
  | .check address _ verbose _ => [Command.findText address verbose]
  | .sweep address =>
    (List.range settings.count).map fun (i : Nat) => Command.findText (address - settings.lookback + i)

/-- the ways in which a task fails: with what it did until then, and the failure -/
inductive Fails (settings : SweepSettings) : Task → Journal → Failure → Prop
  | unlisted (pattern : ExtractionPattern) (e : Failure) :
    Fails settings (.list pattern) [.asked Command.threadListing (.error e)] e
  | absent (pattern : ExtractionPattern) (output : CommandOutput) (f : ExtractionFailure)
    (h : pattern.locate output.text = .error f) :
    Fails settings (.list pattern) [.asked Command.threadListing (.ok output)] (.extraction f)
  | unwritten (address : Int) (expected : Classification) (verbose : Bool) (field : Option FieldExpectation)
    (h : ¬ Address.Writable address) :
    Fails settings (.check address expected verbose field) [] (.numeral .tooLongToWrite)
  | unanswered (address : Int) (expected : Classification) (verbose : Bool) (field : Option FieldExpectation)
    (e : Failure) :
    Fails settings (.check address expected verbose field) [.asked (Command.findText address verbose) (.error e)] e
  | refuted (address : Int) (expected : Classification) (verbose : Bool) (field : Option FieldExpectation)
    (output : CommandOutput) (e : Failure) (h : expected.check output.text verbose field = .error e) :
    Fails settings (.check address expected verbose field) [.asked (Command.findText address verbose) (.ok output)] e
  | refused (address : Nat) (e : Failure)
    (h : Sweep.layOut address settings.lookback settings.count = .error e) :
    Fails settings (.sweep address) [] e
  | swept (address : Nat) (answers : List CommandOutput) (j : Journal) (rs : List Record) (e : Failure)
    (h : Sweep.Account .scenario (address - settings.lookback) settings.count answers j rs (.error e)) :
    Fails settings (.sweep address) j e

theorem Fails.commands_prefix {settings : SweepSettings} {task : Task} {j : Journal} {e : Failure}
    (h : task.Fails settings j e) : j.commands <+: task.commands settings := by
  cases h with
  | unwritten | refused => exact List.nil_prefix
  | swept address answers _ rs _ h =>
    obtain ⟨hle, heq⟩ := h.commands_eq
    rw [heq, commands, ← Nat.min_eq_left hle, ← List.take_range]
    exact (List.take_prefix _ _).map _
  | _ => exact List.prefix_refl _

theorem Fails.settled {settings : SweepSettings} {task : Task} {j : Journal} {e : Failure}
    (h : task.Fails settings j e) : j.Settled (.error e : Except Failure α) := by
  cases h with
  | unlisted | unanswered => exact Or.inr ⟨[], _, e, rfl, rfl, rfl, rfl⟩
  | swept address answers _ rs _ h =>
    rcases h.settled with h | ⟨earlier, d, e', hj, hearlier, hd, he⟩
    · exact Or.inl h
    · cases he
      exact Or.inr ⟨earlier, d, e, hj, hearlier, hd, rfl⟩
  | _ => exact Or.inl rfl

end Task

/-! ## Agendas -/

/-- tasks in order, each with the stage the run is in meanwhile -/
abbrev Agenda := List (Task × Stage)

/-- all commands on an agenda -/
def Agenda.commands (settings : SweepSettings) (agenda : Agenda) : List String :=
  agenda.flatMap fun entry => entry.1.commands settings

theorem Agenda.commands_append (settings : SweepSettings) (A B : Agenda) :
    Agenda.commands settings (A ++ B) = Agenda.commands settings A ++ Agenda.commands settings B := List.flatMap_append

/-- how a run with an agenda ends: with what it did, in a stage, and with a result -/
inductive Ending (settings : SweepSettings) (agenda : Agenda) : Journal → Stage → Except Failure α → Prop
  | completed (j : Journal) (stage : Stage) (a : α) (all : j.commands = agenda.commands settings)
    (untroubled : j.failures = []) :
    Ending settings agenda j stage (.ok a)
  | stopped (before : Agenda) (task : Task) (stage : Stage) (after : Agenda)
    (here : agenda = before ++ (task, stage) :: after) (earlier : Journal)
    (all : earlier.commands = before.commands settings) (untroubled : earlier.failures = []) (last : Journal)
    (e : Failure) (failed : task.Fails settings last e) :
    Ending settings agenda (earlier ++ last) stage (.error e)
  | vetoed (before after : Agenda) (here : agenda = before ++ after) (earlier : Journal)
    (all : earlier.commands = before.commands settings) (untroubled : earlier.failures = []) (t : Transition)
    (e : Failure) :
    Ending settings agenda (earlier ++ [.announced t (.error e)]) t.stage (.error e)

/-- a run with an agenda stopped at a task that failed, in the stage of the task -/
def StoppedAtTask (settings : SweepSettings) (agenda : Agenda) (j : Journal) (stage : Stage) (e : Failure) : Prop :=
  ∃ (before after : Agenda) (task : Task) (earlier last : Journal),
    agenda = before ++ (task, stage) :: after ∧ j = earlier ++ last ∧
      earlier.commands = before.commands settings ∧ earlier.failures = [] ∧ task.Fails settings last e

section Ending

variable {settings : SweepSettings} {A B : Agenda} {j k : Journal} {stage stage' : Stage}

theorem Ending.weaken {r : Except Failure α} {e : Failure} (h : Ending settings A j stage r) (hr : r = .error e) :
    Ending settings (A ++ B) j stage (.error e : Except Failure β) := by
  cases h with
  | completed => cases hr
  | stopped before task stage after here earlier all untroubled last e' failed =>
    cases hr
    exact .stopped before task stage (after ++ B) (by rw [here]; simp) earlier all untroubled last e failed
  | vetoed before after here earlier all untroubled t e' =>
    cases hr
    exact .vetoed before (after ++ B) (by rw [here]; simp) earlier all untroubled t e

theorem Ending.of_ok {r : Except Failure α} {a : α} (h : Ending settings A j stage r) (hr : r = .ok a) :
    j.commands = A.commands settings ∧ j.failures = [] := by
  cases h with
  | completed _ _ _ all untroubled => exact ⟨all, untroubled⟩
  | stopped => cases hr
  | vetoed => cases hr

theorem Ending.append {a : α} {r : Except Failure β} (h₁ : Ending settings A j stage (.ok a))
    (h₂ : Ending settings B k stage' r) : Ending settings (A ++ B) (j ++ k) stage' r := by
  obtain ⟨hall, huntroubled⟩ := h₁.of_ok rfl
  cases h₂ with
  | completed _ _ b all untroubled =>
    refine .completed _ _ b ?_ ?_
    · rw [Journal.commands_append, hall, all, Agenda.commands_append]
    · rw [Journal.failures_append, huntroubled, untroubled]
      rfl
  | stopped before task _ after here earlier all untroubled last e failed =>
    rw [← List.append_assoc]
    refine .stopped (A ++ before) task _ after (by rw [here, List.append_assoc]) _ ?_ ?_ last e failed
    · rw [Journal.commands_append, hall, all, Agenda.commands_append]
    · rw [Journal.failures_append, huntroubled, untroubled]
      rfl
  | vetoed before after here earlier all untroubled t e =>
    rw [← List.append_assoc]
    refine .vetoed (A ++ before) after (by rw [here, List.append_assoc]) _ ?_ ?_ t e
    · rw [Journal.commands_append, hall, all, Agenda.commands_append]
    · rw [Journal.failures_append, huntroubled, untroubled]
      rfl

/-- what was sent is an initial part of the commands on the agenda -/
theorem Ending.commands_prefix {r : Except Failure α} (h : Ending settings A j stage r) :
    j.commands <+: A.commands settings := by
  cases h with
  | completed _ _ _ all => rw [all]
  | stopped before task stage after here earlier all _ last e failed =>
    rw [here, Journal.commands_append, all, Agenda.commands_append, List.prefix_append_right_inj]
    exact failed.commands_prefix.trans (List.prefix_append _ _)
  | vetoed before after here earlier all =>
    rw [here, Journal.commands_append, all, Agenda.commands_append, List.prefix_append_right_inj]
    exact List.nil_prefix

/-- a failure that came back from outside is the last thing that happened, and the result -/
theorem Ending.settled {r : Except Failure α} (h : Ending settings A j stage r) : j.Settled r := by
  cases h with
  | completed _ _ _ _ untroubled => exact Or.inl untroubled
  | stopped _ _ _ _ _ _ _ untroubled last e failed => exact failed.settled.append_left untroubled
  | vetoed _ _ _ _ _ untroubled t e => exact Or.inr ⟨_, _, e, rfl, untroubled, rfl, rfl⟩

/-- where nobody vetoes a transition, only a task can fail -/
theorem Ending.stoppedAtTask {e : Failure} (h : Ending settings A j stage (.error e : Except Failure α))
    (hheard : ∀ t reply, Deed.announced t reply ∈ j → reply = .ok ()) : StoppedAtTask settings A j stage e := by
  cases h with
  | stopped before task _ after here earlier all untroubled last _ failed =>
    exact ⟨before, after, task, earlier, last, here, rfl, all, untroubled, failed⟩
  | vetoed before after here earlier all untroubled t _ =>
    have hreply := hheard t (.error e) (by simp)
    cases hreply

end Ending

/-! ## The parts of the agenda -/

section Parts

variable {settings : SweepSettings} {A B : Agenda} {p : Progress}

/-- parts of an agenda that are done one after the other -/
theorem ending_andThen {T : Course α} {U : α → Course β} {j : Journal} {r : Except Failure β} (h : T.andThen U j r)
    (hT : ∀ k x, T k x → Ending settings A k.outward (p.after k).stage x)
    (hU : ∀ a k l, j = k ++ l → T k (.ok a) → U a l r →
      Ending settings B l.outward ((p.after k).after l).stage r) :
    Ending settings (A ++ B) j.outward (p.after j).stage r := by
  rcases h with ⟨e, rfl, hj⟩ | ⟨a, k, l, rfl, hk, hl⟩
  · exact (hT j _ hj).weaken rfl
  · rw [Journal.outward_append, Progress.after_append]
    exact (hT k _ hk).append (hU a k l rfl hk hl)

theorem ending_still (a : α) {j : Journal} {r : Except Failure α} (h : Course.still (.ok a) j r) :
    Ending settings [] j.outward (p.after j).stage r := by
  obtain ⟨rfl, rfl⟩ := h
  exact .completed [] _ a rfl rfl

/-- a task alone on an agenda -/
theorem ending_of_fails {task : Task} {stage : Stage} {j : Journal} {e : Failure} (h : task.Fails settings j e) :
    Ending settings [(task, stage)] j stage (.error e : Except Failure α) :=
  .stopped [] task stage [] rfl [] rfl rfl j e h

theorem ending_find {pattern : ExtractionPattern} {j : Journal} {r : Except Failure Nat} (h : FindCourse pattern j r) :
    Ending settings [(.list pattern, p.stage)] j.outward (p.after j).stage r := by
  rw [Progress.after_of_quiet (quiet_findCourse pattern j r h)]
  cases h with
  | unanswered e => exact ending_of_fails (.unlisted pattern e)
  | absent output f h => exact ending_of_fails (.absent pattern output f h)
  | found output address line h => exact .completed _ _ address rfl rfl

theorem ending_check {address : Int} {expected : Classification} {verbose : Bool} {field : Option FieldExpectation}
    {j : Journal} {r : Except Failure Unit} (h : CheckCourse address expected verbose field j r) :
    Ending settings [(.check address expected verbose field, p.stage)] j.outward (p.after j).stage r := by
  rw [Progress.after_of_quiet (without_checkCourse offProbes_transition _ _ _ _ j r h)]
  cases h with
  | unwritten h => exact ending_of_fails (.unwritten address expected verbose field h)
  | unanswered h e => exact ending_of_fails (.unanswered address expected verbose field e)
  | judged h output r hr =>
    cases r with
    | error e => exact ending_of_fails (.refuted address expected verbose field output e hr)
    | ok => exact .completed _ _ () rfl rfl

/-- the tasks about sentinels -/
def sentinelTasks (stage : Stage) (sentinels : List Int) : Agenda :=
  sentinels.map fun a => (.check a .notSafe false none, stage)

theorem ending_sentinels {sentinels : List Int} {j : Journal} {r : Except Failure Unit}
    (h : SentinelsCourse sentinels j r) :
    Ending settings (sentinelTasks p.stage sentinels) j.outward (p.after j).stage r := by
  induction sentinels generalizing j p with
  | nil => exact ending_still () h
  | cons a rest ih =>
    refine ending_andThen (A := [_]) h (fun _ _ => ending_check) fun _ k l _ hk hl => ?_
    have hquiet := Progress.after_of_quiet (p := p) (without_checkCourse offProbes_transition _ _ _ _ k _ hk)
    have hrest := ih (p := p.after k) hl
    rwa [hquiet] at hrest ⊢

theorem ending_sweep {address : Nat} {j : Journal} {r : Except Failure Sweep.Report}
    (h : SweepCourse settings address j r) :
    Ending settings [(.sweep address, p.stage)] j.outward (p.after j).stage r := by
  rw [Progress.after_of_quiet (without_sweepCourse offProbes_transition settings address j r h)]
  by_cases hreach : (settings.lookback : Int) ≤ address
  · have hcount : (1 : Int) ≤ settings.count := by exact_mod_cast settings.count_pos
    obtain ⟨answers, haccount⟩ := Sweep.account_of_neighborhoodCourse (Int.natCast_nonneg _) hcount hreach h
    rw [Int.toNat_natCast] at haccount
    cases r with
    | error e => exact ending_of_fails (.swept address answers _ _ e haccount)
    | ok report =>
      obtain ⟨all, hserved⟩ := haccount.eq_served
      rw [hserved]
      refine .completed _ _ report ?_ (Sweep.failures_served _ _)
      rw [Sweep.commands_served, all]
      exact (List.append_nil _).symm
  · cases h with
    | refused e h => exact ending_of_fails (.refused address e h)
    | laidOut range h => exact absurd (Sweep.reach_of_layOut h).1 hreach

/-- the tasks about a thread -/
def threadTasks (profile : Profile) (stage : Stage) (thread : Nat) : Agenda :=
  (.check thread .thread false none, stage) :: (.check thread .thread true none, stage) ::
    if profile.sweepThreadNeighborhood then [(.sweep thread, stage)] else []

theorem ending_thread {profile : Profile} {thread : Nat} {j : Journal} {r : Except Failure (Option Sweep.Report)}
    (h : ThreadCourse profile thread j r) :
    Ending profile.sweep (threadTasks profile p.stage thread) j.outward (p.after j).stage r := by
  have hparts : threadTasks profile p.stage thread =
      [(.check thread .thread false none, p.stage)] ++ ([(.check thread .thread true none, p.stage)] ++
        if profile.sweepThreadNeighborhood then [(.sweep thread, p.stage)] else []) := rfl
  rw [hparts]
  refine ending_andThen (A := [_]) h (fun _ _ => ending_check) fun _ k₁ l₁ _ hk₁ hl₁ => ?_
  have hquiet₁ := Progress.after_of_quiet (p := p) (without_checkCourse offProbes_transition _ _ _ _ k₁ _ hk₁)
  rw [hquiet₁]
  refine ending_andThen (A := [_]) hl₁ (fun _ _ => ending_check) fun _ k₂ l₂ _ hk₂ hl₂ => ?_
  have hquiet₂ := Progress.after_of_quiet (p := p) (without_checkCourse offProbes_transition _ _ _ _ k₂ _ hk₂)
  rw [hquiet₂]
  split_ifs at hl₂ ⊢
  · rw [← List.append_nil [_]]
    exact ending_andThen hl₂ (fun _ _ => ending_sweep) fun report _ _ _ _ => ending_still (some report)
  · exact ending_still none hl₂

/-- a phase has the part of the agenda that its body has, if its words can be written -/
theorem ending_phase {stage : Stage} {T : Course α} {detail : α → Except Failure String} {j : Journal}
    {r : Except Failure α} (h : PhaseCourse stage T detail j r)
    (hbody : ∀ k x, T k x → Ending settings A k.outward (p.after k).stage x)
    (hwords : ∀ k a e, T k (.ok a) → detail a ≠ .error e) : Ending settings A j.outward (p.after j).stage r := by
  cases h with
  | stopped _ e h => exact hbody j _ h
  | unwritten _ a e h hd => exact absurd hd (hwords j a e h)
  | vetoed k a text e h hd =>
    obtain ⟨all, untroubled⟩ := (hbody k _ h).of_ok rfl
    rw [Journal.outward_append, Progress.after_append]
    exact .vetoed A [] (by simp) _ all untroubled ⟨stage, text⟩ e
  | reached k a text h hd =>
    obtain ⟨all, untroubled⟩ := (hbody k _ h).of_ok rfl
    rw [Journal.outward_append]
    refine .completed _ _ a ?_ ?_
    · rw [Journal.commands_append, all]
      exact List.append_nil _
    · rw [Journal.failures_append, untroubled]
      rfl

end Parts

/-! ## The whole agenda -/

/-- the address that a pattern finds in a listing, if it finds one -/
def address? (pattern : ExtractionPattern) (listing : String) : Option Nat :=
  match pattern.locate listing with
  | .ok (address, _) => some address
  | .error _ => none

/-- the thread that a run found: the address in its first listing -/
def threadIn (profile : Profile) (j : Journal) : Option Nat := j.listings[0]?.bind (address? profile.threadPattern)

/-- the object that a run found: the address in its second listing -/
def objectIn (profile : Profile) (j : Journal) : Option Nat := j.listings[1]?.bind (address? profile.objectPattern)

/-- the agenda of a run that finds this thread and this object -/
def agenda (profile : Profile) (thread? object? : Option Nat) : Agenda :=
  (.list profile.threadPattern, .initial) :: thread?.elim [] fun thread =>
    threadTasks profile .threadFound thread ++ (sentinelTasks .threadClassified profile.sentinels ++
      (.list profile.objectPattern, .badAddressesChecked) :: object?.elim [] fun object =>
        [(.check object .managedObject false (some profile.expectedField), .objectFound),
          (.sweep object, .objectClassified)])

section Run

variable {profile : Profile}

theorem writable_of_sentinelsCourse {sentinels : List Int} {j : Journal} (h : SentinelsCourse sentinels j (.ok ())) :
    ∀ a ∈ sentinels, Address.Writable a := by
  induction sentinels generalizing j with
  | nil => exact fun a ha => absurd ha List.not_mem_nil
  | cons a rest ih =>
    obtain ⟨_, k, l, rfl, hk, hl⟩ := Course.andThen_ok_iff.1 h
    have ha : Address.Writable a := by
      cases hk with
      | judged ha => exact ha
    exact List.forall_mem_cons.2 ⟨ha, ih hl⟩

/-- sentinels that were sent can be put into words -/
theorem describeSentinels_of_writable {sentinels : List Int} (h : ∀ a ∈ sentinels, Address.Writable a) :
    ∃ text, describeSentinels sentinels = .ok text := by
  have hdescribe : ∃ texts, sentinels.mapM Address.describe = .ok texts := by
    induction sentinels with
    | nil => exact ⟨[], rfl⟩
    | cons a rest ih =>
      obtain ⟨ha, hrest⟩ := List.forall_mem_cons.1 h
      obtain ⟨texts, htexts⟩ := ih hrest
      rw [List.mapM_cons, Address.describe_of_writable ha, htexts]
      exact ⟨_, rfl⟩
  obtain ⟨texts, htexts⟩ := hdescribe
  rw [describeSentinels, htexts]
  exact ⟨_, rfl⟩

/-- an object that was judged to be as expected can be put into words -/
theorem describe_of_checkCourse {address : Int} {verbose : Bool} {e : FieldExpectation} {j : Journal}
    (h : CheckCourse address .managedObject verbose (some e) j (.ok ())) : ∃ text, e.describe = .ok text := by
  cases h with
  | judged _ output _ hr =>
    obtain ⟨f, _, haccepts⟩ := Classification.shownIn_of_check hr
    exact FieldExpectation.describe_of_writable (FieldExpectation.writable_of_accepts haccepts)

/-- a listing in which an address was found is the only one of its phase -/
theorem listings_of_found {stage : Stage} {pattern : ExtractionPattern} {detail : Nat → Except Failure String}
    {j : Journal} {address : Nat} (h : PhaseCourse stage (FindCourse pattern) detail j (.ok address)) :
    ∃ listing, j.listings = [listing] ∧ address? pattern listing = some address := by
  cases h with
  | reached k _ text hk hd =>
    cases hk with
    | found output _ line hlocate => exact ⟨output.text, by simp [Journal.listings, Deed.listing?, info, announcement],
        by rw [address?, hlocate]⟩

/-- the other phases have no listing -/
theorem listings_of_phase {stage : Stage} {T : Course α} {detail : α → Except Failure String} {j : Journal} {a : α}
    (h : PhaseCourse stage T detail j (.ok a)) (hT : T.Without Deed.listing?) : j.listings = [] := by
  cases h with
  | reached k _ text hk hd =>
    rw [Journal.listings_append, Journal.listings, hT k _ hk]
    rfl

section Phases

variable {p : Progress} {j : Journal}

theorem ending_found {stage before : Stage} {settings : SweepSettings} {pattern : ExtractionPattern}
    {r : Except Failure Nat} (hp : p.stage = before)
    (h : PhaseCourse stage (FindCourse pattern) (fun a => .ok (hexText a)) j r) :
    Ending settings [(.list pattern, before)] j.outward (p.after j).stage r := by
  rw [← hp]
  exact ending_phase h (fun _ _ => ending_find) fun _ _ _ _ => by simp

theorem ending_threadClassified {thread : Nat} {r : Except Failure (Option Sweep.Report)} (hp : p.stage = .threadFound)
    (h : ThreadClassified profile thread j r) :
    Ending profile.sweep (threadTasks profile .threadFound thread) j.outward (p.after j).stage r := by
  rw [← hp]
  exact ending_phase h (fun _ _ => ending_thread) fun _ _ _ _ => by simp

theorem ending_badAddressesChecked {settings : SweepSettings} {r : Except Failure Unit}
    (hp : p.stage = .threadClassified) (h : BadAddressesChecked profile j r) :
    Ending settings (sentinelTasks .threadClassified profile.sentinels) j.outward (p.after j).stage r := by
  rw [← hp]
  refine ending_phase h (fun _ _ => ending_sentinels) fun k _ e hk hwords => ?_
  obtain ⟨text, htext⟩ := describeSentinels_of_writable (writable_of_sentinelsCourse hk)
  rw [htext] at hwords
  cases hwords

theorem ending_objectClassified {settings : SweepSettings} {object : Nat} {r : Except Failure Unit}
    (hp : p.stage = .objectFound) (h : ObjectClassified profile object j r) :
    Ending settings [(.check object .managedObject false (some profile.expectedField), .objectFound)] j.outward
      (p.after j).stage r := by
  rw [← hp]
  refine ending_phase h (fun _ _ => ending_check) fun k _ e hk hwords => ?_
  obtain ⟨text, htext⟩ := describe_of_checkCourse hk
  rw [htext] at hwords
  cases hwords

theorem ending_neighborhoodSwept {object : Nat} {r : Except Failure Sweep.Report} (hp : p.stage = .objectClassified)
    (h : NeighborhoodSwept profile object j r) :
    Ending profile.sweep [(.sweep object, .objectClassified)] j.outward (p.after j).stage r := by
  rw [← hp]
  exact ending_phase h (fun _ _ => ending_sweep) fun _ _ _ _ => by simp

theorem ending_done {settings : SweepSettings} {r : Except Failure Unit} (h : Done j r) :
    Ending settings [] j.outward (p.after j).stage r :=
  ending_phase h (fun _ _ => ending_still ()) fun _ _ _ _ => by simp

end Phases

/-- **All steps keep the agenda** that their own listings give. -/
theorem ending_stepsCourse {j : Journal} {x : Except Failure (List Transition → Result)} (h : StepsCourse profile j x) :
    Ending profile.sweep (agenda profile (threadIn profile j) (objectIn profile j)) j.outward
      (Progress.after {} j).stage x := by
  have hthread := fun thread => without_threadCourse offProbes_transition profile thread
  have hsentinels := without_sentinelsCourse offProbes_transition profile.sentinels
  refine ending_andThen (A := [_]) h (fun _ _ => ending_found rfl) fun thread k₁ l₁ hj hk₁ hl₁ => ?_
  obtain ⟨first, hfirst, hlocated⟩ := listings_of_found hk₁
  have hfound : threadIn profile j = some thread ∧
      objectIn profile j = l₁.listings[0]?.bind (address? profile.objectPattern) := by
    simp [threadIn, objectIn, hj, hfirst, hlocated]
  rw [hfound.1, hfound.2]
  refine ending_andThen hl₁ (fun _ _ => ending_threadClassified (hk₁.stage_after (quiet_findCourse _) _))
    fun threadSweep k₂ l₂ hj₂ hk₂ hl₂ => ?_
  refine ending_andThen hl₂ (fun _ _ => ending_badAddressesChecked (hk₂.stage_after (hthread thread) _))
    fun _ k₃ l₃ hj₃ hk₃ hl₃ => ?_
  refine ending_andThen (A := [_]) hl₃ (fun _ _ => ending_found (hk₃.stage_after hsentinels _))
    fun object k₄ l₄ hj₄ hk₄ hl₄ => ?_
  obtain ⟨second, hsecond, hlocated'⟩ := listings_of_found hk₄
  have hquiet₂ := listings_of_phase hk₂ (without_threadCourse offProbes_listing profile thread)
  have hquiet₃ := listings_of_phase hk₃ (without_sentinelsCourse offProbes_listing profile.sentinels)
  have hobject : l₁.listings[0]?.bind (address? profile.objectPattern) = some object := by
    simp [hj₂, hj₃, hj₄, hquiet₂, hquiet₃, hsecond, hlocated']
  rw [hobject]
  refine ending_andThen (A := [_]) hl₄
    (fun _ _ => ending_objectClassified (hk₄.stage_after (quiet_findCourse _) _)) fun _ k₅ l₅ _ hk₅ hl₅ => ?_
  have hchecked := without_checkCourse offProbes_transition object .managedObject false (some profile.expectedField)
  refine ending_andThen (A := [_]) (B := []) hl₅
    (fun _ _ => ending_neighborhoodSwept (hk₅.stage_after hchecked _)) fun objectSweep k₆ l₆ _ _ hl₆ => ?_
  exact ending_andThen (A := []) hl₆ (fun _ _ => ending_done) fun _ _ _ _ _ => ending_still _

/-- a failure that comes back from outside is the last thing in a run, and its result -/
theorem settled_of_runCourse {j : Journal} {r : Except Failure Result} (h : RunCourse profile j r) :
    j.outward.Settled r := by
  obtain ⟨x, hx, rfl⟩ := h
  exact (ending_stepsCourse hx).settled.map _

/-- a run that ends well has come to the last stage -/
theorem stage_of_stepsCourse {j : Journal} {found : List Transition → Result} (h : StepsCourse profile j (.ok found)) :
    (Progress.after {} j).stage = .done := by
  simp only [StepsCourse, Course.andThen_ok_iff] at h
  obtain ⟨_, k₁, _, rfl, -, _, k₂, _, rfl, -, _, k₃, _, rfl, -, _, k₄, _, rfl, -, _, k₅, _, rfl, -, _, k₆, _, rfl, -,
    _, k₇, _, rfl, hdone, rfl, -⟩ := h
  simp only [Progress.after_append]
  exact hdone.stage_after (Course.without_still _) _

/-- **Every run keeps its agenda.** Whatever the channel answers and the observers reply, a run from the initial stage
sends an initial part of the commands on the agenda that its own listings give, and all of them if it gives a result.
A failure that comes back from outside is the last thing that happens and is passed on. A run that fails stops at a
task of the agenda, in the stage of that task, or at a transition that was vetoed; where no transition is vetoed, it is
the task. The journal that shows this changes nothing about the run. -/
theorem run_keeps_agenda (channel : Channel σ) (profile : Profile) (observers : Observers σ) (s : σ) :
    let u : Surroundings σ := ⟨channel, observers⟩
    let plain := run channel profile observers ({}, s)
    let kept := run u.journaled.channel profile u.journaled.observers ({}, [], s)
    let done : Journal := kept.world.2.1
    let plan := agenda profile (threadIn profile done) (objectIn profile done)
    done.commands <+: plan.commands profile.sweep ∧
      (∀ result, kept.result = .ok result → done.commands = plan.commands profile.sweep ∧ kept.world.1.stage = .done) ∧
      done.Settled kept.result ∧
      Ending profile.sweep plan done kept.world.1.stage kept.result ∧
      (observers.HearTransitions → ∀ e, kept.result = .error e →
        StoppedAtTask profile.sweep plan done kept.world.1.stage e) ∧
      plain.result = kept.result ∧ plain.world = (kept.world.1, kept.world.2.2) := by
  intro u plain kept done plan
  obtain ⟨d, ⟨x, hd, hx⟩, hresult, hprogress, hworld, hhappens⟩ := FollowsFrom.journaled
    (follows_run (u := u) profile) (follows_run (u := u.journaled) profile) [] s
  have hdone : done = d.outward := by
    show kept.world.2.1 = _
    rw [hworld]
    rfl
  have hstage : kept.world.1 = Progress.after {} d := by rw [hworld]
  have hlistings : done.listings = d.listings := by rw [hdone, Journal.listings_outward]
  have hending : Ending profile.sweep plan done kept.world.1.stage kept.result := by
    have hsteps := ending_stepsCourse hd
    have hplan : plan = agenda profile (threadIn profile d) (objectIn profile d) := by
      show agenda profile (threadIn profile done) (objectIn profile done) = _
      rw [threadIn, objectIn, hlistings]
      rfl
    rw [hplan, hdone, hstage, hresult, hx]
    cases x with
    | error e =>
      rw [← List.append_nil (agenda _ _ _)]
      exact hsteps.weaken rfl
    | ok found =>
      obtain ⟨all, untroubled⟩ := hsteps.of_ok rfl
      exact .completed _ _ _ all untroubled
  refine ⟨hending.commands_prefix, ?_, hending.settled, hending, ?_, hresult.symm, ?_⟩
  · intro result hok
    refine ⟨(hending.of_ok hok).1, ?_⟩
    rw [hresult, hx] at hok
    cases x with
    | error e => cases hok
    | ok found => rw [hstage, stage_of_stepsCourse hd]
  · intro hobservers e he
    rw [he] at hending
    refine hending.stoppedAtTask fun t reply hmem => ?_
    rw [hdone] at hmem
    exact announced_of_happens hobservers hhappens t reply (List.mem_of_mem_filter hmem)
  · rw [hworld, ← hprogress]

end Run

end Scenario

end DebugFind
