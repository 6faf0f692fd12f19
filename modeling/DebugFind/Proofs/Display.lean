/-
The display beside a scenario. As long as the user stays, the display takes every update, and it can fail in one way
only: with an answer of a sweep it shows how many answers there were, and a number with too many digits is not written.
That is no finding of a scenario. So a scenario that ends with a result or a finding on the display does there what it
does without one, and ends alike; only what is shown comes in between.

- `deed_of_display` says what one deed does on the display, and `happens_of_display` what a journal does; `deed_on_display`
  and `happens_on_display` lead back.
- `run_beside`: a scenario that is `Contained` on the display is run there as it is run plainly.
- `contained_iff`: it is contained there if it is plainly and the number of answers to be shown can be written.
- `run_eq`: a run on the display that nobody leaves is the layout, the scenario there, and a last status.
- `run_display`: what the display ends with is the stage and the finding that the plain run ends with.
-/
import DebugFind.Display.Run
import DebugFind.Proofs.Scenario.Findings

namespace DebugFind

open Scenario

variable {σ α : Type}

/-! ## What is not shown -/

/-- the events without those of the display -/
def offDisplay (events : List Event) : List Event :=
  events.filter fun
    | .shown _ => false
    | _ => true

@[simp] theorem offDisplay_append (es fs : List Event) : offDisplay (es ++ fs) = offDisplay es ++ offDisplay fs :=
  List.filter_append ..

@[simp] theorem offDisplay_shown (es : List Display.Event) : offDisplay (es.map .shown) = [] := by
  induction es with
  | nil => rfl
  | cons e es ih => exact ih

/-- the events of a kind that is not shown are the same without those of the display -/
theorem filterMap_offDisplay {γ : Type} {pick : Event → Option γ} (h : ∀ e, pick (.shown e) = none)
    (es : List Event) : (offDisplay es).filterMap pick = es.filterMap pick := by
  rw [offDisplay, List.filterMap_filter]
  refine List.filterMap_congr fun e _ => ?_
  cases e with
  | shown e => exact (h e).symm
  | _ => rfl

/-! ## What is told -/

/-- whether a listener was told of an answer -/
def Deed.isTold : Deed → Bool
  | .told .. => true
  | _ => false

/-- the number of answers that a listener was told of -/
def Journal.tellings (j : Journal) : Nat := j.countP Deed.isTold

theorem Journal.tellings_cons (d : Deed) (j : Journal) : tellings (d :: j) = tellings [d] + tellings j := by
  rw [tellings, ← List.singleton_append, List.countP_append]
  rfl

theorem Journal.tellings_outward (j : Journal) : tellings (outward j) = tellings j := by
  have houtward (d : Deed) : (d.isTold && d.isOutward) = d.isTold := by cases d <;> rfl
  simp only [tellings, outward, List.countP_filter, houtward]

/-- an answer about a sentinel that a listener was told of -/
def Deed.sentinelTold? : Deed → Option Int
  | .told address _ _ => if 0 ≤ address then none else some address
  | _ => none

theorem offProbes_sentinelTold : Deed.OffProbes Deed.sentinelTold? where
  asked _ _ _ := rfl
  told address _ _ := by simp [Deed.sentinelTold?]
  noted _ := rfl

namespace Scenario

/-- a run that ends with a result, or with a finding of the scenario -/
def Contained (u : Surroundings σ) (profile : Profile) (s : σ) : Prop :=
  ∀ e, (run u.channel profile u.observers ({}, s)).result = .error e → e.isFinding = true

theorem contained_of_ok {u : Surroundings σ} {profile : Profile} {s : σ} {found : Result}
    (h : (run u.channel profile u.observers ({}, s)).result = .ok found) : Contained u profile s := by
  intro e he
  rw [h] at he
  cases he

/-- listeners are told of addresses alone -/
theorem told_nonneg {profile : Profile} {j : Journal} {r : Except Failure Result} (h : RunCourse profile j r) :
    ∀ deed ∈ j, deed.sentinelTold? = none :=
  List.filterMap_eq_nil_iff.1
    (without_runCourse offProbes_sentinelTold (fun _ => rfl) (fun _ _ => rfl) profile j r h)

/-- the failure that a run ended with -/
def failure? : Except Failure α → Option Failure
  | .ok _ => none
  | .error e => some e

end Scenario

namespace Display

/-- a scenario on the display -/
def surroundings (channel : Channel σ) : Surroundings (State × σ) := ⟨channel.under, observers⟩

variable {channel : Channel σ} {d : State} {s t : σ}

/-! ## One update -/

/-- what the display knows after so many more answers -/
def State.after (d : State) (answers : Nat) : State := { d with shown := d.shown + answers }

theorem State.after_after (d : State) (m n : Nat) : (d.after m).after n = d.after (m + n) := by
  rw [after, after, after, Nat.add_assoc]

/-- what the display knows if its user waits for so many updates -/
def State.leaving (d : State) (updates : Nat) : State := { d with patience := some updates }

section Update

/-- a display whose user stays takes an update -/
theorem update_eq (h : d.patience = none) (events : List Event) :
    update events (d, s) = ⟨.ok (), (d, s), events.map .shown⟩ := by
  obtain ⟨shown, patience⟩ := d
  subst h
  simp [update, bind, Action.andThen, Action.next, Action.state, Action.change, Action.emitAll]

/-- one whose user waits takes it, and the user waits for one less -/
theorem update_of_waiting (updates : Nat) (events : List Event) :
    update events (d.leaving (updates + 1), s) = ⟨.ok (), (d.leaving updates, s), events.map .shown⟩ := by
  simp [update, bind, Action.andThen, Action.next, Action.state, Action.change, Action.emitAll, State.leaving]

/-- and one whose user has left takes none -/
theorem update_of_left (events : List Event) :
    update events (d.leaving 0, s) = ⟨.error .interrupted, (d.leaving 0, s), []⟩ := rfl

/-- an update fails only because the user has left -/
theorem update_result (events : List Event) (w : State × σ) :
    (update events w).result = .ok () ∨ (update events w).result = .error .interrupted := by
  obtain ⟨⟨shown, _ | _ | updates⟩, s⟩ := w
  · rw [update_eq rfl]
    exact Or.inl rfl
  · exact Or.inr (congrArg Outcome.result (update_of_left (d := ⟨shown, none⟩) events))
  · exact Or.inl (congrArg Outcome.result (update_of_waiting (d := ⟨shown, none⟩) updates events))

/-- a transition is shown by its marks -/
theorem announce_eq (transition : Transition) : (surroundings channel).announce transition (d, s) =
    update [.cell transition.stage.name "status" "done", .cell transition.stage.name "detail" transition.detail] (d, s) :=
  rfl

section Tell

variable {address : Int} {response : ProbeResponse}

theorem tell_eq : (surroundings channel).tell address response (d, s) =
    (Action.ofNumeral (probeStatus (d.after 1).shown address response.text) >>= fun text =>
      update [.status text]) (d.after 1, s) := rfl

/-- an answer is shown with the number of answers -/
theorem tell_of_text {text : String} (h : probeStatus (d.after 1).shown address response.text = .ok text) :
    (surroundings channel).tell address response (d, s) = update [.status text] (d.after 1, s) := by
  rw [tell_eq, h]
  rfl

/-- if that can be written -/
theorem tell_of_error {e : Numeral.Error} (h : probeStatus (d.after 1).shown address response.text = .error e) :
    (surroundings channel).tell address response (d, s) = ⟨.error (.numeral e), (d.after 1, s), []⟩ := by
  rw [tell_eq, h]
  rfl

end Tell

theorem probeStatus_of_writable {n : Nat} (h : Numeral.Writable n) {address : Int} (haddress : 0 ≤ address)
    (response : String) : ∃ text, probeStatus n address response = .ok text := by
  rw [probeStatus, Numeral.write_of_writable h, Address.format_of_writable (Or.inl haddress)]
  exact ⟨_, rfl⟩

theorem writable_of_probeStatus {n : Nat} {address : Int} {response text : String}
    (h : probeStatus n address response = .ok text) : Numeral.Writable n := by
  by_contra hn
  rw [probeStatus, Numeral.write_of_not_writable hn] at h
  cases h

end Update

/-! ## One deed -/

section Deeds

/-- a deed on a display whose user stays: the display counts what it was told and has written the number, and the deed
does what it does without a display; or the display fails, and not with a finding -/
theorem deed_of_display {deed : Deed} {w : State × σ} {es : List DebugFind.Event} (hpatience : d.patience = none)
    (hcount : Numeral.Writable d.shown) (h : deed.Happens (surroundings channel) (d, s) w es) :
    (w.1 = d.after (Journal.tellings [deed]) ∧ Numeral.Writable w.1.shown ∧
      ∃ es', deed.Happens ⟨channel, {}⟩ s w.2 es' ∧ offDisplay es = offDisplay es') ∨
    ∃ e, deed.failure? = some e ∧ e.isFinding = false := by
  obtain ⟨d', t⟩ := w
  cases deed with
  | asked command answer =>
    obtain ⟨hexecute, rfl⟩ := Action.under_eq_iff.1 h
    exact Or.inl ⟨rfl, hcount, es, hexecute, rfl⟩
  | told address response reply =>
    have hcounted : (d.after 1).patience = none := hpatience
    have htell : (surroundings channel).tell address response (d, s) = ⟨reply, (d', t), es⟩ := h
    cases hstatus : probeStatus (d.after 1).shown address response.text with
    | ok text =>
      rw [tell_of_text hstatus, update_eq hcounted] at htell
      cases htell
      exact Or.inl ⟨rfl, writable_of_probeStatus hstatus, [], rfl, offDisplay_shown _⟩
    | error e =>
      rw [tell_of_error hstatus] at htell
      cases htell
      exact Or.inr ⟨.numeral e, rfl, rfl⟩
  | announced transition reply =>
    have hannounce : (surroundings channel).announce transition (d, s) = ⟨reply, (d', t), es⟩ := h
    rw [announce_eq, update_eq hpatience] at hannounce
    cases hannounce
    exact Or.inl ⟨rfl, hcount, [], rfl, offDisplay_shown _⟩
  | noted record =>
    obtain ⟨h, rfl⟩ := h
    cases h
    exact Or.inl ⟨rfl, hcount, _, ⟨rfl, rfl⟩, rfl⟩

/-- and what a deed does without a display it does on one, if the number of answers can be written -/
theorem deed_on_display {deed : Deed} {es : List DebugFind.Event} (hpatience : d.patience = none)
    (hcount : Numeral.Writable (d.after (Journal.tellings [deed])).shown) (haddress : deed.sentinelTold? = none)
    (h : deed.Happens ⟨channel, {}⟩ s t es) :
    ∃ es', deed.Happens (surroundings channel) (d, s) (d.after (Journal.tellings [deed]), t) es' := by
  cases deed with
  | asked command answer => exact ⟨es, Action.under_eq_iff.2 ⟨h, rfl⟩⟩
  | told address response reply =>
    cases h
    have hnonneg : 0 ≤ address := by
      by_contra hneg
      simp [Deed.sentinelTold?, hneg] at haddress
    have hwritable : Numeral.Writable (d.after 1).shown := hcount
    obtain ⟨text, htext⟩ := probeStatus_of_writable hwritable hnonneg response.text
    have hcounted : (d.after 1).patience = none := hpatience
    exact ⟨_, (tell_of_text htext).trans (update_eq hcounted _)⟩
  | announced transition reply =>
    cases h
    exact ⟨_, (announce_eq transition).trans (update_eq hpatience _)⟩
  | noted record =>
    obtain ⟨rfl, rfl⟩ := h
    exact ⟨_, rfl, rfl⟩

end Deeds

/-! ## A whole run -/

/-- a journal on the display in which only findings come back as failures is one without a display -/
theorem happens_of_display {j : Journal} {w : State × σ} {es : List DebugFind.Event} (hpatience : d.patience = none)
    (hcount : Numeral.Writable d.shown) (h : Happens (surroundings channel) j (d, s) w es)
    (hfindings : ∀ deed ∈ j, ∀ e, deed.failure? = some e → e.isFinding = true) :
    w.1 = d.after j.tellings ∧ Numeral.Writable w.1.shown ∧
      ∃ es', Happens ⟨channel, {}⟩ j s w.2 es' ∧ offDisplay es = offDisplay es' := by
  induction j generalizing d s es with
  | nil =>
    obtain ⟨rfl, rfl⟩ := h
    exact ⟨rfl, hcount, [], ⟨rfl, rfl⟩, rfl⟩
  | cons deed j ih =>
    obtain ⟨⟨d', m⟩, es₁, es₂, hdeed, hrest, rfl⟩ := h
    obtain ⟨hfinding, hfindings⟩ := List.forall_mem_cons.1 hfindings
    rcases deed_of_display hpatience hcount hdeed with ⟨hd', hcount', es₁', hdeed', hsame₁⟩ | ⟨e, he, hnone⟩
    · obtain rfl : d' = d.after (Journal.tellings [deed]) := hd'
      obtain ⟨hw, hwritten, es₂', hrest', hsame₂⟩ :=
        ih (d := d.after (Journal.tellings [deed])) hpatience hcount' hrest hfindings
      refine ⟨?_, hwritten, es₁' ++ es₂', ⟨m, es₁', es₂', hdeed', hrest', rfl⟩, ?_⟩
      · rw [hw, State.after_after, ← Journal.tellings_cons]
      · rw [offDisplay_append, offDisplay_append, hsame₁, hsame₂]
    · rw [hfinding e he] at hnone
      cases hnone

/-- and a journal without a display is one on the display, if the number of answers can be written -/
theorem happens_on_display {j : Journal} {es : List DebugFind.Event} (hpatience : d.patience = none)
    (hcount : Numeral.Writable (d.after j.tellings).shown) (haddresses : ∀ deed ∈ j, deed.sentinelTold? = none)
    (h : Happens ⟨channel, {}⟩ j s t es) : ∃ w es', Happens (surroundings channel) j (d, s) (w, t) es' := by
  induction j generalizing d s es with
  | nil =>
    obtain ⟨rfl, rfl⟩ := h
    exact ⟨d, [], rfl, rfl⟩
  | cons deed j ih =>
    obtain ⟨m, es₁, es₂, hdeed, hrest, rfl⟩ := h
    obtain ⟨haddress, haddresses⟩ := List.forall_mem_cons.1 haddresses
    rw [Journal.tellings_cons, ← State.after_after] at hcount
    have hfirst : Numeral.Writable (d.after (Journal.tellings [deed])).shown :=
      Numeral.writable_of_le (Nat.le_add_right _ _) hcount
    obtain ⟨es₁', hdeed'⟩ := deed_on_display hpatience hfirst haddress hdeed
    obtain ⟨w, es₂', hrest'⟩ := ih (d := d.after (Journal.tellings [deed])) hpatience hcount haddresses hrest
    exact ⟨w, es₁' ++ es₂', _, es₁', es₂', hdeed', hrest', rfl⟩

/-- **A scenario beside the display is the scenario.** If it ends with a result or a finding on the display, it does so
without one, with the same progress, and the same happens meanwhile but for what is shown. -/
theorem run_beside {profile : Profile} (h : Contained (surroundings channel) profile ({}, s)) :
    let shown := Scenario.run channel.under profile observers ({}, {}, s)
    let plain := Scenario.run channel profile {} ({}, s)
    let answers := (conversation ⟨channel, {}⟩ profile s).tellings
    shown.result = plain.result ∧ shown.world = (plain.world.1, State.after {} answers, plain.world.2) ∧
      offDisplay shown.events = offDisplay plain.events ∧ Numeral.Writable answers := by
  intro shown plain answers
  obtain ⟨j, hj, -, hprogress, hhappens⟩ := exists_runCourse (surroundings channel) profile ({}, s)
  have hfindings : ∀ deed ∈ j, ∀ e, deed.failure? = some e → e.isFinding = true := by
    intro deed hdeed e he
    have houtward : deed ∈ j.outward := by
      refine List.mem_filter.2 ⟨hdeed, ?_⟩
      cases deed with
      | noted record => cases he
      | _ => rfl
    exact h e ((settled_of_runCourse hj).of_mem houtward he).1
  obtain ⟨hw, hwritten, es', hhappens', hsame⟩ := happens_of_display rfl (by decide) hhappens hfindings
  have hplain := (follows_run (u := ⟨channel, {}⟩) profile s _ _ _ _).2 ⟨j, hj, rfl, hhappens'⟩
  have hrun : plain = _ := hplain
  have hanswers : answers = j.tellings := by
    show Journal.tellings (conversation ⟨channel, {}⟩ profile s) = _
    rw [conversation_eq hj hhappens', Journal.tellings_outward]
  have hshown : State.after {} j.tellings = ⟨j.tellings, none⟩ := by rw [State.after, Nat.zero_add]
  rw [hrun, hanswers]
  refine ⟨rfl, Prod.ext hprogress (Prod.ext hw rfl), hsame, ?_⟩
  rw [hw, hshown] at hwritten
  exact hwritten

theorem contained_of_display {profile : Profile} (h : Contained (surroundings channel) profile ({}, s)) :
    Contained ⟨channel, {}⟩ profile s := by
  intro e he
  exact h e ((run_beside h).1.trans he)

/-- a scenario that ends with a result or a finding plainly does so on the display exactly if the number of answers to be
shown can be written -/
theorem contained_iff {profile : Profile} (h : Contained ⟨channel, {}⟩ profile s) :
    Contained (surroundings channel) profile ({}, s) ↔
      Numeral.Writable (conversation ⟨channel, {}⟩ profile s).tellings := by
  constructor
  · intro hshown
    exact (run_beside hshown).2.2.2
  · intro hcount
    obtain ⟨j, hj, hconversation, -, hhappens⟩ := exists_runCourse ⟨channel, {}⟩ profile s
    have hanswers : (State.after {} j.tellings).shown = (conversation ⟨channel, {}⟩ profile s).tellings := by
      rw [hconversation, Journal.tellings_outward, State.after, Nat.zero_add]
    rw [← hanswers] at hcount
    obtain ⟨w, es', hhappens'⟩ := happens_on_display rfl hcount (told_nonneg hj) hhappens
    have hrun := (follows_run (u := surroundings channel) profile ({}, s) _ _ _ _).2 ⟨j, hj, rfl, hhappens'⟩
    intro e he
    rw [hrun] at he
    exact h e he

/-! ## The end on the display -/

/-- the status about the end of a run, after so many answers -/
def finalStatus (answers : Nat) (stage : Stage) : Except Failure Result → String
  | .ok _ => passedStatus answers
  | .error f => f.line stage

/-- the last status is shown, and the display gives the stage and the finding -/
theorem conclude_eq {stage : Stage} {r : Except Failure Result} (hr : ∀ e, r = .error e → e.isFinding = true)
    (hpatience : d.patience = none) :
    conclude stage r (d, s) = ⟨.ok ⟨stage, failure? r⟩, (d, s),
      ([.status (finalStatus d.shown stage r)] : List Event).map .shown⟩ := by
  cases r with
  | ok found =>
    simp [conclude, bind, pure, Action.done, Action.andThen, Action.next, Action.state, update_eq hpatience, failure?,
      finalStatus]
  | error e =>
    simp [conclude, hr e rfl, bind, pure, Action.done, Action.andThen, Action.next, Action.attempt,
      update_eq hpatience, failure?, finalStatus]

/-- a run on the display that nobody leaves: the layout, the scenario, and the last status -/
theorem run_eq {profile : Profile} (h : Contained (surroundings channel) profile ({}, s)) :
    let shown := Scenario.run channel.under profile observers ({}, {}, s)
    run channel profile true none s = ⟨.ok ⟨shown.world.1.stage, failure? shown.result⟩, shown.world.2.2,
      layout.map .shown ++ (shown.events ++
        ([.status (finalStatus shown.world.2.1.shown shown.world.1.stage shown.result)] : List Event).map .shown)⟩ := by
  intro shown
  have hworld : shown.world = (_, State.after {} _, _) := (run_beside h).2.1
  have hpatience : shown.world.2.1.patience = none := by
    rw [hworld]
    rfl
  have hfinding : ∀ e, shown.result = .error e → e.isFinding = true := h
  have hconclude : conclude shown.world.1.stage shown.result shown.world.2 = _ := conclude_eq hfinding hpatience
  have hsession : session channel profile ({}, s) = ⟨.ok ⟨shown.world.1.stage, failure? shown.result⟩, shown.world.2,
      shown.events ++
        ([.status (finalStatus shown.world.2.1.shown shown.world.1.stage shown.result)] : List Event).map .shown⟩ := by
    simp [session, bind, pure, Action.done, Action.andThen, Action.next, Action.within, Action.attempt, shown,
      hconclude]
  simp [run, bind, Action.andThen, Action.next, Action.within, Action.emitAll, Action.ofExcept, hsession]

/-- **The display ends as the plain run.** A scenario that ends with a result or a finding on the display ends there in
the stage and with the finding, if any, that it ends with plainly; the channel is left in the same state, and the same
happens meanwhile but for what is shown. -/
theorem run_display {profile : Profile} (h : Contained (surroundings channel) profile ({}, s)) :
    let plain := Scenario.run channel profile {} ({}, s)
    ∃ es, run channel profile true none s = ⟨.ok ⟨plain.world.1.stage, failure? plain.result⟩, plain.world.2, es⟩ ∧
      offDisplay es = offDisplay plain.events := by
  intro plain
  obtain ⟨hresult, hworld, hevents, -⟩ := run_beside h
  have hstage : (Scenario.run channel.under profile observers ({}, {}, s)).world.1 = plain.world.1 :=
    congrArg Prod.fst hworld
  have hstate : (Scenario.run channel.under profile observers ({}, {}, s)).world.2.2 = plain.world.2 :=
    congrArg (fun w => w.2.2) hworld
  have hfailure : (Scenario.run channel.under profile observers ({}, {}, s)).result = plain.result := hresult
  have hrun := run_eq h
  rw [← hstage, ← hstate, ← hfailure]
  refine ⟨_, hrun, ?_⟩
  simp only [offDisplay_append, offDisplay_shown, List.nil_append, List.append_nil]
  exact hevents

end Display

end DebugFind
