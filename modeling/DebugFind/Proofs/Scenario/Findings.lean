/-
The failures of a scenario over sound surroundings. A channel is sound if it fails only by itself and its answers are
legible; observers are willing if they never fail. Then every task on the agenda of a proper profile fails with a
finding: no address in a listing, a response that is not as expected, a channel that does not deliver, or a sweep that
cannot be laid out (`isFinding_of_ending`).
-/
import DebugFind.Proofs.Profile
import DebugFind.Proofs.Scenario.Agenda

namespace DebugFind

open DebugFind.Text

variable {σ α : Type}

/-! ## Sound surroundings -/

/-- the channel fails only by itself, and what it answers is legible -/
structure Channel.Sound (channel : Channel σ) : Prop where
  fails : ∀ command s e, (channel.execute command s).result = .error e → ∃ f, e = .channel f
  legible : ∀ command s output, (channel.execute command s).result = .ok output →
    ObjectField.Legible (lines output.text.toList)

/-- no observer fails -/
structure Scenario.Observers.Willing (observers : Observers σ) : Prop where
  transition : ∀ tell ∈ observers.onTransition, ∀ t s, (tell t s).result = .ok ()
  probe : ∀ listener ∈ observers.onProbe, ∀ address response s, (listener address response s).result = .ok ()

theorem Scenario.willing_nobody : Observers.Willing ({} : Observers σ) := ⟨by simp, by simp⟩

/-- what comes back from sound surroundings -/
def Deed.Sound : Deed → Prop
  | .asked _ (.error e) => ∃ f, e = .channel f
  | .asked _ (.ok output) => ObjectField.Legible (lines output.text.toList)
  | .told _ _ reply => reply = .ok ()
  | .announced _ reply => reply = .ok ()
  | .noted _ => True

theorem Surroundings.tell_of_willing {u : Surroundings σ} (h : u.observers.Willing) (address : Int)
    (response : ProbeResponse) (s : σ) : (u.tell address response s).result = .ok () := by
  unfold tell
  cases hlistener : u.observers.onProbe with
  | none => rfl
  | some listener => exact h.probe listener hlistener address response s

theorem Surroundings.announce_of_willing {u : Surroundings σ} (h : u.observers.Willing) (t : Transition) (s : σ) :
    (u.announce t s).result = .ok () := u.announce_of_hearTransitions h.transition t s

/-- nobody who was told of something failed -/
def Deed.Heard : Deed → Prop
  | .told _ _ reply => reply = .ok ()
  | .announced _ reply => reply = .ok ()
  | _ => True

/-- nobody in the whole journal failed who was told of something -/
def Journal.Heard (j : Journal) : Prop := ∀ d ∈ j, d.Heard

theorem Journal.heard_append {j k : Journal} : (j ++ k).Heard ↔ j.Heard ∧ k.Heard := List.forall_mem_append

/-- willing observers hear whatever they are told -/
theorem Deed.heard_of_happens {u : Surroundings σ} (h : u.observers.Willing) {d : Deed} {s t : σ} {es : List Event}
    (hd : d.Happens u s t es) : d.Heard := by
  cases d with
  | told address response reply =>
    have hreply : (u.tell address response s).result = reply := by rw [hd]
    exact hreply.symm.trans (u.tell_of_willing h address response s)
  | announced transition reply =>
    have hreply : (u.announce transition s).result = reply := by rw [hd]
    exact hreply.symm.trans (u.announce_of_willing h transition s)
  | _ => trivial

theorem heard_of_happens {u : Surroundings σ} (h : u.observers.Willing) {j : Journal} {s t : σ} {es : List Event}
    (hj : Happens u j s t es) : j.Heard :=
  forall_of_happens (fun _ _ _ _ hd => Deed.heard_of_happens h hd) hj

/-- everything that happens in sound surroundings is sound -/
theorem sound_of_happens {u : Surroundings σ} (hchannel : u.channel.Sound) (hobservers : u.observers.Willing)
    {j : Journal} {s t : σ} {es : List Event} (h : Happens u j s t es) : ∀ d ∈ j, d.Sound := by
  refine forall_of_happens (fun d s m es₁ hd => ?_) h
  have hheard : d.Heard := Deed.heard_of_happens hobservers hd
  cases d with
  | asked command answer =>
    have hanswer : (u.channel.execute command s).result = answer := by rw [hd]
    cases answer with
    | error e => exact hchannel.fails command s e hanswer
    | ok output => exact hchannel.legible command s output hanswer
  | told | announced => exact hheard
  | noted record => trivial

namespace Scenario

/-! ## Proper tasks -/

/-- a task whose address and expected value can be written, and that expects something -/
def Task.Proper : Task → Prop
  | .check address expected _ field =>
    Address.Writable address ∧ expected ≠ .unknown ∧ ∀ e ∈ field, Numeral.Writable e.value
  | _ => True

theorem agenda_proper {profile : Profile} (h : profile.Proper) (thread? object? : Option Nat) :
    ∀ entry ∈ agenda profile thread? object?, entry.1.Proper := by
  have hthread (stage : Stage) (thread : Nat) : ∀ entry ∈ threadTasks profile stage thread, entry.1.Proper := by
    intro entry hentry
    have hwritable : Address.Writable thread := Address.writable_natCast thread
    rcases List.mem_cons.1 hentry with rfl | hentry
    · exact ⟨hwritable, by decide, by simp⟩
    · rcases List.mem_cons.1 hentry with rfl | hentry
      · exact ⟨hwritable, by decide, by simp⟩
      · split_ifs at hentry
        · rw [List.mem_singleton.1 hentry]
          trivial
        · cases hentry
  have hsentinels (stage : Stage) : ∀ entry ∈ sentinelTasks stage profile.sentinels, entry.1.Proper := by
    intro entry hentry
    obtain ⟨a, ha, rfl⟩ := List.mem_map.1 hentry
    exact ⟨h.sentinels a ha, by decide, by simp⟩
  refine List.forall_mem_cons.2 ⟨trivial, ?_⟩
  cases thread? with
  | none => exact fun entry hentry => absurd hentry List.not_mem_nil
  | some thread =>
    refine List.forall_mem_append.2 ⟨hthread _ thread, List.forall_mem_append.2 ⟨hsentinels _, ?_⟩⟩
    refine List.forall_mem_cons.2 ⟨trivial, ?_⟩
    cases object? with
    | none => exact fun entry hentry => absurd hentry List.not_mem_nil
    | some object =>
      refine List.forall_mem_cons.2 ⟨⟨Address.writable_natCast object, by decide, ?_⟩, ?_⟩
      · simpa using h.value
      · simp [Task.Proper]

/-! ## Failures -/

theorem isFinding_of_layOut {settings : SweepSettings} (hlookback : Numeral.Writable settings.lookback) {address : Nat}
    {e : Failure} (h : Sweep.layOut address settings.lookback settings.count = .error e) : e.isFinding = true := by
  have hcount : 0 < (settings.count : Int).toNat := by
    rw [Int.toNat_natCast]
    exact settings.count_pos
  rw [Sweep.layOut, if_neg (by omega), dif_pos hcount, Numeral.write_of_writable hlookback] at h
  split_ifs at h
  cases h
  rfl

theorem Task.Fails.isFinding {settings : SweepSettings} (hlookback : Numeral.Writable settings.lookback) {task : Task}
    (htask : task.Proper) {j : Journal} (hj : ∀ d ∈ j, d.Sound) {e : Failure} (h : task.Fails settings j e) :
    e.isFinding = true := by
  cases h with
  | unlisted | unanswered =>
    obtain ⟨f, rfl⟩ := hj _ List.mem_cons_self
    rfl
  | absent => rfl
  | unwritten address expected verbose field h => exact absurd htask.1 h
  | refuted address expected verbose field output _ h =>
    obtain ⟨m, rfl⟩ := Classification.check_eq_error (hj _ List.mem_cons_self) htask.2.2 htask.2.1 h
    rfl
  | refused address _ h => exact isFinding_of_layOut hlookback h
  | swept address answers _ rs _ h =>
    cases h with
    | unanswered =>
      obtain ⟨f, rfl⟩ := hj _ (List.mem_append_right _ List.mem_cons_self)
      rfl
    | rejected output =>
      have hreply := hj _ (List.mem_append_right _ (List.mem_cons_of_mem _ List.mem_cons_self))
      cases hreply

/-- **Every failure is a finding** of the scenario. -/
theorem isFinding_of_ending {profile : Profile} (hprofile : profile.Proper) {thread? object? : Option Nat} {j : Journal}
    (hj : ∀ d ∈ j, d.Sound) {stage : Stage} {r : Except Failure α} {e : Failure}
    (h : Ending profile.sweep (agenda profile thread? object?) j stage r) (hr : r = .error e) : e.isFinding = true := by
  cases h with
  | completed => cases hr
  | stopped before task stage after here earlier all untroubled last e' failed =>
    cases hr
    have hentry : (task, stage) ∈ agenda profile thread? object? := by
      rw [here]
      exact List.mem_append_right _ List.mem_cons_self
    exact failed.isFinding hprofile.lookback (agenda_proper hprofile _ _ _ hentry)
      fun d hd => hj d (List.mem_append_right _ hd)
  | vetoed before after here earlier all untroubled t e' =>
    have hreply := hj _ (List.mem_append_right _ List.mem_cons_self)
    cases hreply

/-! ## The last stage -/

/-- no task is left to the last stage -/
theorem stage_of_mem_agenda {profile : Profile} {thread? object? : Option Nat} :
    ∀ entry ∈ agenda profile thread? object?, entry.2 ≠ .done := by
  have hthread (thread : Nat) : ∀ entry ∈ threadTasks profile .threadFound thread, entry.2 ≠ .done := by
    unfold threadTasks
    split_ifs <;> simp
  have hsentinels : ∀ entry ∈ sentinelTasks .threadClassified profile.sentinels, entry.2 ≠ .done := by
    simp [sentinelTasks]
  refine List.forall_mem_cons.2 ⟨by simp, ?_⟩
  cases thread? with
  | none => exact fun entry hentry => absurd hentry List.not_mem_nil
  | some thread =>
    refine List.forall_mem_append.2 ⟨hthread thread, List.forall_mem_append.2 ⟨hsentinels, ?_⟩⟩
    refine List.forall_mem_cons.2 ⟨by simp, ?_⟩
    cases object? <;> simp

theorem stage_ne_done_of_ending {profile : Profile} {thread? object? : Option Nat} {j : Journal} (hj : j.Heard)
    {stage : Stage} {r : Except Failure α} {e : Failure}
    (h : Ending profile.sweep (agenda profile thread? object?) j stage r) (hr : r = .error e) : stage ≠ .done := by
  cases h with
  | completed => cases hr
  | stopped before task stage after here earlier all untroubled last e' failed =>
    have hentry : (task, stage) ∈ agenda profile thread? object? := by
      rw [here]
      exact List.mem_append_right _ List.mem_cons_self
    exact stage_of_mem_agenda _ hentry
  | vetoed before after here earlier all untroubled t e' =>
    have hreply : Deed.Heard (.announced t (.error e')) := hj _ (List.mem_append_right _ List.mem_cons_self)
    cases hreply

/-- **The last stage is reached by the runs that give a result and by no others**, if no observer fails. -/
theorem stage_eq_done_iff {u : Surroundings σ} (h : u.observers.Willing) (profile : Profile) (s : σ) :
    let outcome := run u.channel profile u.observers ({}, s)
    outcome.world.1.stage = .done ↔ ∃ r, outcome.result = .ok r := by
  intro outcome
  obtain ⟨j, ⟨x, hj, hx⟩, -, hprogress, hhappens⟩ := exists_runCourse u profile s
  have hstage : outcome.world.1.stage = (Progress.after {} j).stage := congrArg Progress.stage hprogress
  have hresult : outcome.result = x.map fun found => found j.transitions := hx
  rw [hstage, hresult]
  cases x with
  | ok found =>
    rw [stage_of_stepsCourse hj]
    exact ⟨fun _ => ⟨_, rfl⟩, fun _ => rfl⟩
  | error e =>
    have hheard : j.outward.Heard := fun d hd => heard_of_happens h hhappens d (List.mem_filter.1 hd).1
    constructor
    · intro hdone
      exact absurd hdone (stage_ne_done_of_ending hheard (ending_stepsCourse hj) rfl)
    · rintro ⟨r, hr⟩
      cases hr

end Scenario

end DebugFind
