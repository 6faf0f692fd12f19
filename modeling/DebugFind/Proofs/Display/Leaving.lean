/-
The display shows the truth, and a user who leaves only cuts the run short. An update begins where the status line gets
a text or a stage is marked. As long as the user waits for more updates, the same happens as for a user who stays
(`happens_of_waiting`); at the update that is not waited for, whoever would have told of it fails instead, which ends
the run there (`veto_of_left` and `vetoable_runCourse`). So the events are those of the whole run up to that update
(`left_of_contained`).

- `Shows` is what a run that nobody leaves has shown in the end.
- `Behind` is how far the table is behind the runner at an update: at the update of a transition by that transition,
  which the runner records before it tells of it; at any other by none.
- `display_shows_truth` puts both together.
-/
import DebugFind.Proofs.Display.Shown
import DebugFind.Proofs.Scenario.Stages
import DebugFind.Proofs.Scenario.Verdict
import DebugFind.Proofs.Scenario.Veto

namespace DebugFind

open Scenario

variable {σ : Type}

namespace Display

/-! ## Updates among events -/

/-- whether an update begins: the status line gets a text, or a stage is marked -/
def beginsUpdate : DebugFind.Event → Bool
  | .shown (.status _) => true
  | .shown (.cell _ column _) => column == "status"
  | _ => false

/-- the number of updates -/
def updates (events : List DebugFind.Event) : Nat := events.countP beginsUpdate

/-- the events before the update that comes after so many others -/
def upTo : Nat → List DebugFind.Event → List DebugFind.Event
  | _, [] => []
  | 0, e :: events => if beginsUpdate e then [] else e :: upTo 0 events
  | n + 1, e :: events => e :: upTo (if beginsUpdate e then n else n + 1) events

theorem updates_append (es fs : List DebugFind.Event) : updates (es ++ fs) = updates es + updates fs :=
  List.countP_append

theorem upTo_append {e : DebugFind.Event} (he : beginsUpdate e = true) (es fs : List DebugFind.Event) :
    upTo (updates es) (es ++ e :: fs) = es := by
  induction es with
  | nil =>
    show (if beginsUpdate e then [] else _) = []
    rw [if_pos he]
  | cons first es ih =>
    by_cases hfirst : beginsUpdate first = true
    · have hcount : updates (first :: es) = updates es + 1 := List.countP_cons_of_pos hfirst
      rw [hcount, List.cons_append, upTo, if_pos hfirst, ih]
    · have hcount : updates (first :: es) = updates es := List.countP_cons_of_neg hfirst
      rw [hcount, List.cons_append]
      cases hn : updates es with
      | zero =>
        rw [hn] at ih
        rw [upTo, if_neg hfirst, ih]
      | succ n =>
        rw [hn] at ih
        rw [upTo, if_neg hfirst, ih]

/-- updates are made on the display -/
theorem updates_eq (events : List DebugFind.Event) :
    updates events = updates ((onDisplay events).map .shown) := by
  induction events with
  | nil => rfl
  | cons e events ih =>
    rw [← List.singleton_append, onDisplay_append, List.map_append, updates_append, updates_append, ih]
    cases e <;> rfl

/-- a journal makes an update for everything that is told -/
theorem updates_seen (answers : Nat) (j : Journal) : updates ((j.seen answers).map .shown) = j.updates := by
  induction j generalizing answers with
  | nil => rfl
  | cons d j ih =>
    rw [Journal.seen, List.map_append, updates_append, ih, Journal.updates_cons]
    cases d <;> rfl

/-- there is something told after so many others, if there are more -/
theorem exists_update {j : Journal} {n : Nat} (h : n < j.updates) :
    ∃ k d l, j = k ++ d :: l ∧ Journal.updates k = n ∧ d.isUpdate = true := by
  induction j generalizing n with
  | nil => exact absurd h (Nat.not_lt_zero n)
  | cons d j ih =>
    by_cases hd : d.isUpdate = true
    · have hcount : Journal.updates (d :: j) = Journal.updates j + 1 := List.countP_cons_of_pos hd
      cases n with
      | zero => exact ⟨[], d, j, rfl, rfl, hd⟩
      | succ n =>
        obtain ⟨k, d', l, rfl, hk, hd'⟩ := ih (by omega : n < Journal.updates j)
        refine ⟨d :: k, d', l, rfl, ?_, hd'⟩
        rw [← hk]
        exact List.countP_cons_of_pos hd
    · have hcount : Journal.updates (d :: j) = Journal.updates j := List.countP_cons_of_neg hd
      obtain ⟨k, d', l, rfl, hk, hd'⟩ := ih (by omega : n < Journal.updates j)
      refine ⟨d :: k, d', l, rfl, ?_, hd'⟩
      rw [← hk]
      exact List.countP_cons_of_neg hd

/-! ## While the user waits -/

section Waiting

variable {channel : Channel σ} {d : State} {deed : Deed} {s : σ} {w : State × σ} {es : List DebugFind.Event}

/-- a deed that is heard goes on as it does for a user who stays, if the user still waits for what it tells -/
theorem deed_of_waiting (hpatience : d.patience = none) (hheard : deed.Heard)
    (h : deed.Happens (surroundings channel) (d, s) w es) (n : Nat) :
    deed.Happens (surroundings channel) (d.leaving (n + Journal.updates [deed]), s) (w.1.leaving n, w.2) es := by
  cases deed with
  | asked command answer =>
    obtain ⟨d', t⟩ := w
    obtain ⟨hexecute, rfl⟩ := Action.under_eq_iff.1 h
    exact Action.under_eq_iff.2 ⟨hexecute, rfl⟩
  | told address response reply =>
    obtain rfl : reply = .ok () := hheard
    obtain ⟨htext, rfl, rfl⟩ := told_of_heard hpatience h
    exact (tell_of_text (d := d.leaving (n + 1)) htext).trans (update_of_waiting (d := d.after 1) n _)
  | announced transition reply =>
    have hannounce : update (marks transition) (d, s) = ⟨reply, w, es⟩ := h
    rw [update_eq hpatience] at hannounce
    cases hannounce
    exact update_of_waiting n (marks transition)
  | noted record =>
    obtain ⟨rfl, rfl⟩ := h
    exact ⟨rfl, rfl⟩

/-- **A journal goes on as it does for a user who stays**, if the user waits for everything that it tells. -/
theorem happens_of_waiting (hchannel : channel.Unseen) {j : Journal} (hpatience : d.patience = none)
    (hheard : j.Heard) (h : Happens (surroundings channel) j (d, s) w es) (n : Nat) :
    Happens (surroundings channel) j (d.leaving (n + j.updates), s) (w.1.leaving n, w.2) es := by
  induction j generalizing d s es with
  | nil =>
    obtain ⟨rfl, rfl⟩ := h
    exact ⟨rfl, rfl⟩
  | cons deed j ih =>
    obtain ⟨⟨d', m⟩, es₁, es₂, hdeed, hrest, rfl⟩ := h
    obtain ⟨hfirst, hheard⟩ := List.forall_mem_cons.1 hheard
    have hd' : d' = d.after (Journal.tellings [deed]) := (seen_of_deed hchannel hpatience hfirst hdeed).1
    have hstays : d'.patience = none := by
      rw [hd']
      exact hpatience
    have hwaiting := deed_of_waiting hpatience hfirst hdeed (n + Journal.updates j)
    have hcount : n + Journal.updates j + Journal.updates [deed] = n + Journal.updates (deed :: j) := by
      rw [Journal.updates_cons deed j]
      omega
    rw [hcount] at hwaiting
    exact ⟨_, es₁, es₂, hwaiting, ih hstays hheard hrest, rfl⟩

/-- once the user has left, whoever would be heard fails, and nothing is shown -/
theorem veto_of_left (hpatience : d.patience = none) (hheard : deed.Heard)
    (h : deed.Happens (surroundings channel) (d, s) w es) (hupdate : deed.isUpdate = true) :
    ∃ deed' d', deed.vetoed? .interrupted = some deed' ∧
      deed'.Happens (surroundings channel) (d.leaving 0, s) (d', s) [] := by
  cases deed with
  | told address response reply =>
    obtain rfl : reply = .ok () := hheard
    obtain ⟨htext, -, -⟩ := told_of_heard hpatience h
    exact ⟨_, _, rfl, (tell_of_text (d := d.leaving 0) htext).trans (update_of_left (d := d.after 1) _)⟩
  | announced transition reply => exact ⟨_, _, rfl, update_of_left (marks transition)⟩
  | asked | noted => cases hupdate

end Waiting

/-! ## The stages on the display -/

/-- what a journal shows makes the table of its transitions, if they belong to stages in order -/
theorem draw_of_orderly {p : Progress} (hp : p.Orderly) {k : Journal} (hk : k.transitions <+: p.transitions) :
    ({} : Table).draw (layout ++ k.seen 0) = some (sheet k.transitions) := by
  have hstages : ∀ t ∈ k.transitions, t.stage ≠ .initial :=
    fun t ht => hp.forall_ne_initial t (hk.subset ht)
  have hnew : (([] ++ k.transitions).map Transition.stage).Nodup :=
    hp.nodup.sublist (hk.sublist.map _)
  rw [Table.draw_append, draw_layout, Option.bind_some, draw_seen, draw_flatMap_marks hstages hnew]
  rfl

/-! ## A run that the user leaves -/

section Leaving

variable {channel : Channel σ} {profile : Profile} {s : σ} {w : State × σ} {es : List DebugFind.Event} {n : Nat}

/-- a run on the display whose scenario was interrupted ends in the stage that was reached, with no finding -/
theorem run_of_interrupted {w : Progress × State × σ}
    (h : Scenario.run channel.under profile observers ({}, { patience := some n }, s) =
      ⟨.error .interrupted, w, es⟩) :
    run channel profile true (some n) s = ⟨.ok ⟨w.1.stage, none⟩, w.2.2, layout.map .shown ++ es⟩ := by
  have hsession : session channel profile ({ patience := some n }, s) = ⟨.ok ⟨w.1.stage, none⟩, w.2, es⟩ := by
    simp [session, conclude, bind, pure, Action.done, Action.andThen, Action.next, Action.within, Action.attempt,
      Action.fail, Failure.isFinding, h]
  simp [run, bind, Action.andThen, Action.next, Action.within, Action.emitAll, Action.ofExcept, hsession]

/-- a veto leaves the transitions as they are -/
theorem after_of_vetoed {e : Failure} {deed deed' : Deed} (h : deed.vetoed? e = some deed') (p : Progress)
    (k : Journal) : p.after (k ++ [deed']) = p.after (k ++ [deed]) := by
  rw [Progress.after_append, Progress.after_append]
  cases deed <;> cases h <;> rfl

/-- **A user who leaves at an update cuts the scenario short there.** What happened before is the same, and the progress
is that at the update, of which the runner knows already. -/
theorem exists_cut (hchannel : channel.Unseen) (h : Contained (surroundings channel) profile ({}, s)) {j : Journal}
    {r : Except Failure Result} (hj : RunCourse profile j r) (hh : Happens (surroundings channel) j ({}, s) w es)
    (hn : n < j.updates) :
    ∃ k deed l es₁ es₂ w', j = k ++ deed :: l ∧ deed.isUpdate = true ∧ onDisplay es₁ = Journal.seen 0 k ∧
      updates es₁ = n ∧ es = es₁ ++ ((deed.seen (Journal.tellings k)).map .shown ++ es₂) ∧
      Scenario.run channel.under profile observers ({}, { patience := some n }, s) =
        ⟨.error .interrupted, (Progress.after {} (k ++ [deed]), w'), es₁⟩ := by
  obtain ⟨k, deed, l, rfl, rfl, hupdate⟩ := exists_update hn
  obtain ⟨hk, hrest⟩ := Journal.heard_append.1 (heard_of_contained h hj hh)
  have hfirst : deed.Heard := hrest deed List.mem_cons_self
  obtain ⟨⟨d, m⟩, es₁, _, hbefore, ⟨_, es₂, es₃, hdeed, -, rfl⟩, rfl⟩ := happens_append.1 hh
  obtain ⟨hd, hseen⟩ := seen_of_happens hchannel rfl hk hbefore
  obtain rfl : d = State.after {} (Journal.tellings k) := hd
  obtain ⟨-, -, hshown⟩ := seen_of_deed hchannel rfl hfirst hdeed
  have htellings : (State.after {} (Journal.tellings k)).shown = Journal.tellings k := Nat.zero_add _
  rw [htellings] at hshown
  -- at the update the journal is cut, and whoever tells of it fails
  obtain ⟨deed', left, hveto, hleft⟩ := veto_of_left rfl hfirst hdeed hupdate
  have hcourse := vetoable_runCourse profile .interrupted k deed deed' l r hj hveto
  have hwaiting := happens_of_waiting hchannel rfl hk hbefore 0
  rw [Nat.zero_add] at hwaiting
  have hcut : Happens (surroundings channel) (k ++ [deed']) (State.leaving {} (Journal.updates k), s) (left, m) es₁ :=
    happens_append.2 ⟨_, es₁, [], hwaiting, happens_singleton.2 hleft, (List.append_nil _).symm⟩
  have hrun := (follows_run (u := surroundings channel) profile _ _ _ _ _).2 ⟨_, hcourse, rfl, hcut⟩
  rw [after_of_vetoed hveto] at hrun
  refine ⟨k, deed, l, es₁, es₃, (left, m), rfl, hupdate, hseen, ?_, by rw [hshown hupdate], hrun⟩
  rw [updates_eq, hseen]
  exact updates_seen 0 k

end Leaving

/-! ## The truth -/

/-- the status about the end of a run: the sum of the probes of its sweeps if it came to the last stage, and the stage
and the failure if not -/
inductive LastStatus (stage : Stage) (r : Except Failure Result) : String → Prop
  | passed (found : Result) (hstage : stage = .done) (hr : r = .ok found) :
    LastStatus stage r (passedStatus found.probes)
  | failed (f : Failure) (hstage : stage ≠ .done) (hr : r = .error f) : LastStatus stage r (f.line stage)

/-- what a run that nobody left has shown in the end -/
structure Shows (events : List Event) (p : Progress) (told : List (Int × ProbeResponse))
    (r : Except Failure Result) : Prop where
  /-- every cell that got a new text was there -/
  addressed : Addressed events
  /-- no stage has two transitions -/
  once : (p.transitions.map Transition.stage).Nodup
  /-- the stages that were reached are done, with what there is to say about them, and all others are pending -/
  table : ({} : Table).draw events = some (sheet p.transitions)
  /-- there is a status for every answer, with the number of answers so far, and one about the end -/
  status : ∃ last, LastStatus p.stage r last ∧
    statuses events = (told.mapIdx fun k a => probeText (k + 1) a.1 a.2.text) ++ [last]
  /-- the sweeps of a result have probed as often as there was an answer -/
  counted : ∀ found, r = .ok found → found.probes = told.length

/-- how far the table is behind the runner when an update is about to be made: what the runner records of a transition
before it tells of it is not marked yet -/
inductive Behind (p : Progress) : Event → List Transition → Prop
  | answer (text : String) : Behind p (.status text) p.transitions
  | transition (marked : List Transition) (t : Transition) (hrecorded : p.transitions = marked ++ [t])
    (hstage : p.stage = t.stage) : Behind p (.cell t.stage.name "status" "done") marked

section Truth

variable {channel : Channel σ} {profile : Profile} {s : σ} {w : State × σ} {es : List DebugFind.Event} {j : Journal}
  {r : Except Failure Result}

/-- what is told begins with an update, and then the table lacks at most the transition that is told -/
theorem behind_of_isUpdate {deed : Deed} (h : deed.isUpdate = true) (answers : Nat) (k : Journal) :
    ∃ e more, deed.seen answers = e :: more ∧ beginsUpdate (.shown e) = true ∧
      Behind (Progress.after {} (k ++ [deed])) e k.transitions := by
  have htransitions : (Progress.after {} (k ++ [deed])).transitions = k.transitions ++ Journal.transitions [deed] := by
    rw [Progress.transitions_after, Journal.transitions_append]
    rfl
  cases deed with
  | told address response reply =>
    have hnone : Journal.transitions [.told address response reply] = [] := rfl
    have hbehind : Behind _ (.status (probeText (answers + 1) address response.text)) _ :=
      .answer (p := Progress.after {} (k ++ [.told address response reply])) _
    rw [htransitions, hnone, List.append_nil] at hbehind
    exact ⟨_, [], rfl, rfl, hbehind⟩
  | announced transition reply =>
    refine ⟨_, _, rfl, rfl, .transition _ transition htransitions ?_⟩
    rw [Progress.after_append]
    rfl
  | asked | noted => cases h

/-- what has been shown in the end, from the journal of the run -/
theorem shows_of_journal {last : String} (hj : RunCourse profile j r)
    (hlast : LastStatus (Progress.after {} j).stage r last) :
    Shows (layout ++ (j.seen 0 ++ [.status last])) (Progress.after {} j) j.told r := by
  have horderly := orderly_of_runCourse hj
  have htransitions : (Progress.after {} j).transitions = j.transitions := Progress.transitions_after {} j
  have htable : ({} : Table).draw (layout ++ (j.seen 0 ++ [.status last])) =
      some (sheet (Progress.after {} j).transitions) := by
    rw [← List.append_assoc, Table.draw_append, draw_of_orderly horderly (by rw [htransitions]), htransitions]
    rfl
  have hstatuses : statuses (layout ++ (j.seen 0 ++ [.status last])) =
      (j.told.mapIdx fun k a => probeText (k + 1) a.1 a.2.text) ++ [last] := by
    have hlayout : statuses layout = [] := rfl
    rw [statuses_append, statuses_append, statuses_seen, hlayout]
    simp only [Nat.zero_add]
    rfl
  refine ⟨addressed_of_draw htable, horderly.nodup, htable, ⟨last, hlast, hstatuses⟩, ?_⟩
  rintro found rfl
  rw [Journal.length_told, tellings_runCourse hj]

/-- a scenario on the display gives the last status that it should -/
theorem lastStatus_of_contained (h : Contained (surroundings channel) profile ({}, s)) :
    let scenario := Scenario.run channel.under profile observers ({}, {}, s)
    LastStatus scenario.world.1.stage scenario.result
      (finalStatus scenario.world.2.1.shown scenario.world.1.stage scenario.result) := by
  intro scenario
  obtain ⟨hbeside, hworld, -, -⟩ := run_beside h
  have hresult : scenario.result = _ := hbeside
  obtain ⟨j, hj, hconversation, -, -⟩ := exists_runCourse ⟨channel, {}⟩ profile s
  have hanswers : scenario.world.2.1.shown = j.tellings := by
    have hshown : scenario.world.2.1 = State.after {} _ := congrArg (fun w => w.2.1) hworld
    rw [hshown, hconversation, Journal.tellings_outward]
    exact Nat.zero_add _
  -- the last stage is reached by the scenarios that give a result, as it is without a display
  have hdone : scenario.world.1.stage = .done ↔ ∃ found, scenario.result = .ok found := by
    have hprogress : scenario.world.1 = _ := congrArg Prod.fst hworld
    rw [hprogress, hresult]
    exact stage_eq_done_iff (u := ⟨channel, {}⟩) willing_nobody profile s
  have hcourse : RunCourse profile j scenario.result := by
    rw [hresult]
    exact hj
  cases hscenario : scenario.result with
  | ok found =>
    rw [hscenario] at hcourse
    rw [finalStatus, hanswers, tellings_runCourse hcourse]
    exact .passed found (hdone.2 ⟨found, hscenario⟩) rfl
  | error f =>
    refine .failed f ?_ rfl
    intro hstage
    obtain ⟨found, hfound⟩ := hdone.1 hstage
    rw [hscenario] at hfound
    cases hfound

/-- what a user leaves who leaves at an update, from the journal of the run -/
theorem cut_of_journal (hchannel : channel.Unseen) (h : Contained (surroundings channel) profile ({}, s))
    (hj : RunCourse profile j r) (hh : Happens (surroundings channel) j ({}, s) w es) {n : Nat} (hn : n < j.updates)
    (last : String) :
    let full := layout.map .shown ++ (es ++ ([.status last] : List Event).map .shown)
    let left := (Scenario.run channel.under profile observers ({}, { patience := some n }, s)).world.1
    let cut := run channel profile true (some n) s
    cut.result = .ok ⟨left.stage, none⟩ ∧ cut.events = upTo n full ∧ left.transitions <+: j.transitions ∧
      ∃ next rest marked, full = cut.events ++ .shown next :: rest ∧ Behind left next marked ∧
        ({} : Table).draw (onDisplay cut.events) = some (sheet marked) := by
  intro full left cut
  have horderly := orderly_of_runCourse hj
  obtain ⟨k, deed, l, es₁, es₂, w, rfl, hupdate, hbefore, hcount, rfl, hinterrupted⟩ :=
    exists_cut hchannel h hj hh hn
  obtain ⟨next, more, hfirst, hbegins, hbehind⟩ := behind_of_isUpdate hupdate (Journal.tellings k) k
  have hcut : cut = _ := run_of_interrupted hinterrupted
  have hleft : left = Progress.after {} (k ++ [deed]) := congrArg (fun o => o.world.1) hinterrupted
  have htransitions : (Progress.after {} (k ++ deed :: l)).transitions = Journal.transitions (k ++ deed :: l) :=
    Progress.transitions_after {} _
  have hsplit : full = (layout.map .shown ++ es₁) ++ .shown next ::
      (more.map .shown ++ (es₂ ++ ([.status last] : List Event).map .shown)) := by
    show layout.map .shown ++ (es₁ ++ ((deed.seen (Journal.tellings k)).map .shown ++ es₂) ++ _) = _
    rw [hfirst]
    simp
  have hbeforehand : updates (layout.map .shown ++ es₁) = n := by
    rw [updates_append, hcount]
    exact Nat.zero_add n
  have htable : ({} : Table).draw (onDisplay (layout.map .shown ++ es₁)) = some (sheet (Journal.transitions k)) := by
    rw [onDisplay_append, onDisplay_shown, hbefore]
    apply draw_of_orderly horderly
    rw [htransitions]
    exact (List.prefix_append k _).filterMap _
  rw [hcut, hleft, hsplit]
  refine ⟨rfl, ?_, ?_, next, _, Journal.transitions k, rfl, hbehind, htable⟩
  · rw [← hbeforehand]
    exact (upTo_append hbegins _ _).symm
  · have hpart : k ++ [deed] <+: k ++ deed :: l := ⟨l, (List.append_cons k deed l).symm⟩
    rw [Progress.transitions_after]
    exact hpart.filterMap _

/-- **The display shows the truth, and leaving it only cuts a run short.** For every profile, every channel that shows
nothing itself, and a scenario that ends with a result or a finding (where the channel is traced, the trace holds the
commands as well):
- the run on the display ends with the stage of the runner and the finding, if any, and has shown the truth;
- a user who leaves at the update of a transition or an answer leaves the part of the trace before that update, the
  stage of the runner and no finding, and a table that is behind the runner at most by that transition. -/
theorem display_shows_truth (hchannel : channel.Unseen) (h : Contained (surroundings channel) profile ({}, s)) :
    let scenario := Scenario.run channel.under profile observers ({}, {}, s)
    let runner := scenario.world.1
    let told := (conversation (surroundings channel) profile ({}, s)).told
    let full := run channel profile true none s
    full.result = .ok ⟨runner.stage, failure? scenario.result⟩ ∧
      Shows (onDisplay full.events) runner told scenario.result ∧
      ∀ n, n + 1 < updates full.events →
        let left := (Scenario.run channel.under profile observers ({}, { patience := some n }, s)).world.1
        let cut := run channel profile true (some n) s
        cut.result = .ok ⟨left.stage, none⟩ ∧ cut.events = upTo n full.events ∧
          left.transitions <+: runner.transitions ∧
          ∃ next rest marked, full.events = cut.events ++ .shown next :: rest ∧ Behind left next marked ∧
            ({} : Table).draw (onDisplay cut.events) = some (sheet marked) := by
  intro scenario runner told full
  obtain ⟨j, hj, hconversation, hprogress, hhappens⟩ := exists_runCourse (surroundings channel) profile ({}, s)
  have hcourse : RunCourse profile j scenario.result := hj
  have hrunner : runner = Progress.after {} j := hprogress
  have htold : told = j.told := by
    show Journal.told (conversation (surroundings channel) profile ({}, s)) = _
    rw [hconversation, Journal.told_outward]
  have hscenario : onDisplay scenario.events = j.seen 0 :=
    (seen_of_happens hchannel rfl (heard_of_contained h hj hhappens) hhappens).2
  have hfull : full = _ := run_eq h
  have hlast : LastStatus runner.stage scenario.result _ := lastStatus_of_contained h
  generalize finalStatus _ _ _ = last at hfull hlast
  have hshown : onDisplay full.events = layout ++ (j.seen 0 ++ [.status last]) := by
    rw [hfull, onDisplay_append, onDisplay_append, onDisplay_shown, onDisplay_shown, hscenario]
  refine ⟨by rw [hfull], ?_, ?_⟩
  · rw [hrunner] at hlast
    rw [hshown, htold, hrunner]
    exact shows_of_journal hcourse hlast
  · intro n hn left cut
    have hlayout : updates (layout.map .shown) = 0 := rfl
    have hupdates : updates full.events = j.updates + 1 := by
      rw [updates_eq, hshown, List.map_append, List.map_append, updates_append, updates_append, updates_seen, hlayout,
        Nat.zero_add]
      rfl
    have htransitions : runner.transitions = j.transitions := by
      rw [hrunner]
      exact Progress.transitions_after {} j
    rw [hfull, htransitions]
    exact cut_of_journal hchannel h hj hhappens (by omega) last

end Truth

/-! ### A run with two sweeps -/

/-- the sample process, which is asked about the neighborhood of the thread as well; its commands are traced -/
def sweptChannel : Channel Nat :=
  Channel.traced ⟨fun _ n => ⟨.ok ⟨sampleAnswer (if n < 3 then n else n - 1), 0⟩, n + 1, []⟩⟩

def sweptProfile : Profile := { sampleProfile with sweepThreadNeighborhood := true }

theorem contained_swept : Contained (surroundings sweptChannel) sweptProfile ({}, 0) := by
  intro e he
  have hgiven : (Scenario.run (surroundings sweptChannel).channel sweptProfile (surroundings sweptChannel).observers
      ({}, {}, 0)).result.toOption.isSome = true := by decide +kernel
  rw [he] at hgiven
  cases hgiven

/-- the statuses count on from one sweep to the other, and all stages are done in the end; a user who leaves at the third
update leaves a table that lacks the transition of that update -/
theorem display_shows_truth_of_swept :
    let full := run sweptChannel sweptProfile true none 0
    let cut := run sweptChannel sweptProfile true (some 2) 0
    sweptChannel.Unseen ∧ Contained (surroundings sweptChannel) sweptProfile ({}, 0) ∧ 2 + 1 < updates full.events ∧
      Addressed (onDisplay full.events) ∧
      statuses (onDisplay full.events) = ["sweep probes=1 last=0x10 -> THREAD",
        "sweep probes=2 last=0x20 -> MANAGED_OBJECT", "passed, 2 sweep probes"] ∧
      cut.result = .ok ⟨.threadClassified, none⟩ ∧ cut.events = upTo 2 full.events ∧
      ({} : Table).draw (onDisplay cut.events) = some (sheet [⟨.threadFound, "0x10"⟩]) := by
  intro full cut
  have hunseen : sweptChannel.Unseen := fun _ _ => rfl
  have hupdates : 2 + 1 < updates full.events := by decide +kernel
  obtain ⟨-, hshows, hcuts⟩ := display_shows_truth hunseen contained_swept
  obtain ⟨hcut, hevents, -⟩ := hcuts 2 hupdates
  have hstage : (Scenario.run sweptChannel.under sweptProfile observers
      ({}, { patience := some 2 }, 0)).world.1.stage = .threadClassified := by decide +kernel
  rw [hstage] at hcut
  exact ⟨hunseen, contained_swept, hupdates, hshows.addressed, by decide +kernel, hcut, hevents, by decide +kernel⟩

end Display

end DebugFind
