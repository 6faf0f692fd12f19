/-
What the display shows of a run. Whoever is told of an answer or a transition on the display hears it as long as the user
stays, and what is then shown follows from the journal of the run: a status for every answer, with the number of
answers so far, and the marks of every transition (`Journal.seen`).

- `Deed.seen_of_happens` is the step, `seen_of_happens` the run.
- `statuses_seen`: the statuses number the answers, from the first sweep on to the last.
- `draw_seen`: the table takes the marks of the transitions, and nothing else that is seen changes it.
- `tellings_runCourse`: the answers of a run that gives a result are the probes of its sweeps.
-/
import DebugFind.Proofs.Display.Table
import DebugFind.Proofs.Scenario.Findings

namespace DebugFind

open Scenario

variable {σ α β : Type}

/-! ## Answers and transitions that are told -/

/-- an answer that a listener was told of -/
def Deed.telling? : Deed → Option (Int × ProbeResponse)
  | .told address response _ => some (address, response)
  | _ => none

/-- whether something is told, be it an answer or a transition -/
def Deed.isUpdate : Deed → Bool
  | .told .. | .announced .. => true
  | _ => false

namespace Journal

/-- the answers that listeners were told of, in order -/
def told (j : Journal) : List (Int × ProbeResponse) := j.filterMap Deed.telling?

/-- the number of things told -/
def updates (j : Journal) : Nat := j.countP Deed.isUpdate

theorem told_outward (j : Journal) : told (outward j) = told j := filterMap_outward (fun _ => rfl) j

theorem length_told (j : Journal) : (told j).length = tellings j := by
  rw [told, List.length_filterMap_eq_countP]
  apply List.countP_congr
  rintro d -
  cases d <;> rfl

theorem tellings_append (j k : Journal) : tellings (j ++ k) = tellings j + tellings k := List.countP_append

theorem updates_cons (d : Deed) (j : Journal) : updates (d :: j) = updates [d] + updates j := by
  rw [updates, ← List.singleton_append, List.countP_append]
  rfl

end Journal

namespace Display

/-- the status after so many answers, the last of them to an address -/
def probeText (answers : Nat) (address : Int) (response : String) : String :=
  "sweep probes=" ++ toString answers ++ " last=" ++ Address.spelling address ++ " -> " ++
    (Classification.ofText response).name

theorem probeStatus_eq {n : Nat} {address : Int} {response text : String}
    (h : probeStatus n address response = .ok text) : text = probeText n address response := by
  have hcount : Numeral.write n = .ok (toString n) := Numeral.write_of_writable (writable_of_probeStatus h)
  have haddress : Address.Writable address := by
    by_contra hlong
    rw [probeStatus, hcount, Address.format_of_not_writable hlong] at h
    cases h
  rw [probeStatus, hcount, Address.format_of_writable haddress] at h
  exact (Except.ok.inj h).symm

end Display

/-! ## What is seen of a journal -/

/-- what the display shows of a deed, after so many answers -/
def Deed.seen (answers : Nat) : Deed → List Display.Event
  | .told address response _ => [.status (Display.probeText (answers + 1) address response.text)]
  | .announced transition _ => Display.marks transition
  | _ => []

/-- what it shows of a journal -/
def Journal.seen (answers : Nat) : Journal → List Display.Event
  | [] => []
  | d :: j => d.seen answers ++ seen (answers + tellings [d]) j

namespace Display

/-- the texts that the status line gets -/
def statuses (events : List Event) : List String :=
  events.filterMap fun
    | .status text => some text
    | _ => none

theorem statuses_append (es fs : List Event) : statuses (es ++ fs) = statuses es ++ statuses fs :=
  List.filterMap_append

/-- **The statuses number the answers**, whatever is told in between. -/
theorem statuses_seen (answers : Nat) (j : Journal) :
    statuses (j.seen answers) = j.told.mapIdx fun k a => probeText (answers + k + 1) a.1 a.2.text := by
  induction j generalizing answers with
  | nil => rfl
  | cons d j ih =>
    rw [Journal.seen, statuses_append, ih]
    cases d with
    | told address response reply =>
      have htold : Journal.told (.told address response reply :: j) = (address, response) :: Journal.told j := rfl
      have hone : Journal.tellings [.told address response reply] = 1 := rfl
      have hnext (k : Nat) : answers + 1 + k + 1 = answers + (k + 1) + 1 := by omega
      simp only [htold, hone, hnext, List.mapIdx_cons]
      rfl
    | _ => rfl

/-- the table takes the marks of the transitions -/
theorem draw_seen (table : Table) (answers : Nat) (j : Journal) :
    table.draw (j.seen answers) = table.draw (j.transitions.flatMap marks) := by
  induction j generalizing table answers with
  | nil => rfl
  | cons d j ih =>
    rw [Journal.seen, Table.draw_append]
    cases d with
    | announced transition reply =>
      have hfirst : Journal.transitions (.announced transition reply :: j) =
          transition :: Journal.transitions j := rfl
      rw [hfirst, List.flatMap_cons, Table.draw_append]
      simp only [ih]
      rfl
    | _ => exact ih table _

end Display

/-! ## On the display -/

/-- what is shown is shown by the display, and not by the channel -/
def Channel.Unseen (channel : Channel σ) : Prop := ∀ command s, onDisplay (channel.execute command s).events = []

namespace Display

variable {channel : Channel σ} {d : State} {deed : Deed} {s : σ} {w w' : State × σ} {es : List DebugFind.Event}

/-- whoever fails on the display does not fail with a finding -/
theorem heard_or_fault (h : deed.Happens (surroundings channel) w w' es) :
    deed.Heard ∨ ∃ e, deed.failure? = some e ∧ e.isFinding = false := by
  obtain ⟨d, s⟩ := w
  have hupdate {events : List Event} {d : State} {reply : Except Failure Unit}
      (h : update events (d, s) = ⟨reply, w', es⟩) : reply = .ok () ∨ reply = .error .interrupted := by
    have hresult := update_result events (d, s)
    rw [h] at hresult
    exact hresult
  cases deed with
  | told address response reply =>
    have htell : (surroundings channel).tell address response (d, s) = ⟨reply, w', es⟩ := h
    cases hstatus : probeStatus (d.after 1).shown address response.text with
    | ok text =>
      rw [tell_of_text hstatus] at htell
      rcases hupdate htell with rfl | rfl
      · exact Or.inl rfl
      · exact Or.inr ⟨_, rfl, rfl⟩
    | error e =>
      rw [tell_of_error hstatus] at htell
      cases htell
      exact Or.inr ⟨_, rfl, rfl⟩
  | announced transition reply =>
    rcases hupdate h with rfl | rfl
    · exact Or.inl rfl
    · exact Or.inr ⟨_, rfl, rfl⟩
  | _ => exact Or.inl trivial

/-- so in a scenario that ends with a result or a finding everything that is told is heard -/
theorem heard_of_contained {profile : Profile} (h : Contained (surroundings channel) profile ({}, s)) {j : Journal}
    {r : Except Failure Result} (hj : RunCourse profile j r) (hh : Happens (surroundings channel) j ({}, s) w es) :
    j.Heard := by
  intro deed hdeed
  rcases forall_of_happens (fun _ _ _ _ => heard_or_fault) hh deed hdeed with hheard | ⟨e, he, hfault⟩
  · exact hheard
  · have houtward : deed ∈ j.outward := by
      refine List.mem_filter.2 ⟨hdeed, ?_⟩
      cases deed with
      | noted record => cases he
      | _ => rfl
    have hr : r = .error e := ((settled_of_runCourse hj).of_mem houtward he).1
    have hrun := (follows_run (u := surroundings channel) profile ({}, s) r _ _ es).2 ⟨j, hj, rfl, hh⟩
    have hfinding : e.isFinding = true := h e (by rw [hrun, hr])
    rw [hfault] at hfinding
    cases hfinding

/-- an answer that is heard was shown with its number -/
theorem told_of_heard (hpatience : d.patience = none) {address : Int} {response : ProbeResponse}
    (h : (surroundings channel).tell address response (d, s) = ⟨.ok (), w, es⟩) :
    probeStatus (d.after 1).shown address response.text = .ok (probeText (d.shown + 1) address response.text) ∧
      w = (d.after 1, s) ∧ es = [.shown (.status (probeText (d.shown + 1) address response.text))] := by
  have hcounted : (d.after 1).patience = none := hpatience
  cases hstatus : probeStatus (d.after 1).shown address response.text with
  | ok text =>
    rw [tell_of_text hstatus, update_eq hcounted] at h
    cases h
    rw [probeStatus_eq hstatus]
    exact ⟨rfl, rfl, rfl⟩
  | error e =>
    rw [tell_of_error hstatus] at h
    cases h

/-- **What one deed shows**, and what the display knows then. -/
theorem seen_of_deed (hchannel : channel.Unseen) (hpatience : d.patience = none) (hheard : deed.Heard)
    (h : deed.Happens (surroundings channel) (d, s) w es) :
    w.1 = d.after (Journal.tellings [deed]) ∧ onDisplay es = deed.seen d.shown ∧
      (deed.isUpdate → es = (deed.seen d.shown).map .shown) := by
  cases deed with
  | asked command answer =>
    obtain ⟨d', t⟩ := w
    obtain ⟨hexecute, rfl⟩ := Action.under_eq_iff.1 h
    have hunseen := hchannel command s
    rw [hexecute] at hunseen
    exact ⟨rfl, hunseen, fun hupdate => by cases hupdate⟩
  | told address response reply =>
    obtain rfl : reply = .ok () := hheard
    obtain ⟨-, rfl, rfl⟩ := told_of_heard hpatience h
    exact ⟨rfl, rfl, fun _ => rfl⟩
  | announced transition reply =>
    have hannounce : update (marks transition) (d, s) = ⟨reply, w, es⟩ := h
    rw [update_eq hpatience] at hannounce
    cases hannounce
    exact ⟨rfl, rfl, fun _ => rfl⟩
  | noted record =>
    obtain ⟨rfl, rfl⟩ := h
    exact ⟨rfl, rfl, fun hupdate => by cases hupdate⟩

/-- **What a journal shows**, if everything in it is heard. -/
theorem seen_of_happens (hchannel : channel.Unseen) {j : Journal} (hpatience : d.patience = none) (hheard : j.Heard)
    (h : Happens (surroundings channel) j (d, s) w es) :
    w.1 = d.after j.tellings ∧ onDisplay es = j.seen d.shown := by
  induction j generalizing d s es with
  | nil =>
    obtain ⟨rfl, rfl⟩ := h
    exact ⟨rfl, rfl⟩
  | cons deed j ih =>
    obtain ⟨⟨d', m⟩, es₁, es₂, hdeed, hrest, rfl⟩ := h
    obtain ⟨hfirst, hheard⟩ := List.forall_mem_cons.1 hheard
    obtain ⟨hd', hseen, -⟩ := seen_of_deed hchannel hpatience hfirst hdeed
    obtain rfl : d' = d.after (Journal.tellings [deed]) := hd'
    obtain ⟨hw, hseen'⟩ := ih (d := d.after (Journal.tellings [deed])) hpatience hheard hrest
    constructor
    · rw [hw, State.after_after, ← Journal.tellings_cons]
    · rw [onDisplay_append, hseen, hseen']
      rfl

end Display

/-! ## The probes of a run -/

/-- whoever ends well has told of so many answers as the result says -/
def Course.Tells (T : Course α) (answers : α → Nat) : Prop := ∀ j a, T j (.ok a) → Journal.tellings j = answers a

theorem Course.tells_still (a : α) {answers : α → Nat} (h : answers a = 0) : (Course.still (.ok a)).Tells answers := by
  rintro j b ⟨rfl, hb⟩
  cases hb
  exact h.symm

/-- a first part that tells of nothing -/
theorem Course.Tells.andThen {T : Course α} {U : α → Course β} {answers : β → Nat} (hT : T.Tells fun _ => 0)
    (hU : ∀ a, (U a).Tells answers) : (T.andThen U).Tells answers := by
  intro j b hj
  obtain ⟨a, k, l, rfl, hk, hl⟩ := Course.andThen_ok_iff.1 hj
  rw [Journal.tellings_append, hT k a hk, hU a l b hl, Nat.zero_add]

namespace Sweep

/-- every probe that a report counts was told of -/
theorem tellings_probesCourse {logger : Logger} {address count : Nat} {report report' : Report} {j : Journal}
    (h : ProbesCourse logger address count report j (.ok report')) :
    report.probes + j.tellings = report'.probes := by
  induction count generalizing address report j with
  | zero =>
    obtain ⟨rfl, hreport⟩ := h
    cases hreport
    rfl
  | succ count ih =>
    obtain ⟨mid, k, l, rfl, hk, hl⟩ := Course.andThen_ok_iff.1 h
    cases hk with
    | counted output =>
      have hone : Journal.tellings (answered logger address output (.ok ())) = 1 := rfl
      have hadd : (report.add (.ofOutput address false output)).probes = report.probes + 1 := rfl
      have hrest := ih hl
      rw [Journal.tellings_append, hone]
      omega

theorem tells_neighborhoodCourse (logger : Logger) (knownGood lookback count : Int) :
    (NeighborhoodCourse logger knownGood lookback count).Tells Report.probes := by
  intro j report hj
  cases hj with
  | laidOut range h j _ hprobes =>
    have hcounted := tellings_probesCourse hprobes
    rw [Nat.zero_add] at hcounted
    exact hcounted

end Sweep

namespace Scenario

/-- the probes of all sweeps that were performed -/
def Result.probes (r : Result) : Nat := r.threadSweep.elim 0 Sweep.Report.probes + r.objectSweep.probes

theorem tells_findCourse (pattern : ExtractionPattern) : (FindCourse pattern).Tells fun _ => 0 := by
  intro j a hj
  cases hj
  rfl

theorem tells_checkCourse (address : Int) (expected : Classification) (verbose : Bool)
    (field : Option FieldExpectation) : (CheckCourse address expected verbose field).Tells fun _ => 0 := by
  intro j a hj
  cases hj
  rfl

theorem tells_sentinelsCourse (sentinels : List Int) : (SentinelsCourse sentinels).Tells fun _ => 0 := by
  induction sentinels with
  | nil => exact Course.tells_still () rfl
  | cons a rest ih => exact (tells_checkCourse a .notSafe false none).andThen fun _ => ih

theorem tells_threadCourse (profile : Profile) (thread : Nat) :
    (ThreadCourse profile thread).Tells fun report => report.elim 0 Sweep.Report.probes := by
  apply (tells_checkCourse _ _ _ _).andThen
  intro _
  apply (tells_checkCourse _ _ _ _).andThen
  intro _
  split_ifs
  · intro j report hj
    obtain ⟨found, k, l, rfl, hk, rfl, hreport⟩ := Course.andThen_ok_iff.1 hj
    cases hreport
    rw [Journal.tellings_append, Sweep.tells_neighborhoodCourse _ _ _ _ k found hk]
    rfl
  · exact Course.tells_still none rfl

/-- a phase tells of what its body tells of -/
theorem tells_phaseCourse {stage : Stage} {T : Course α} {detail : α → Except Failure String} {answers : α → Nat}
    (hT : T.Tells answers) : (PhaseCourse stage T detail).Tells answers := by
  intro j a hj
  cases hj with
  | reached j a text h =>
    rw [Journal.tellings_append, hT j a h]
    rfl

/-- **The answers of a run that gives a result are the probes of its sweeps.** -/
theorem tellings_runCourse {profile : Profile} {j : Journal} {found : Result} (h : RunCourse profile j (.ok found)) :
    j.tellings = found.probes := by
  obtain ⟨x, hx, hfound⟩ := h
  rcases x with e | result
  · cases hfound
  obtain ⟨thread, j₁, _, rfl, h₁, hx⟩ := Course.andThen_ok_iff.1 hx
  obtain ⟨threadSweep, j₂, _, rfl, h₂, hx⟩ := Course.andThen_ok_iff.1 hx
  obtain ⟨_, j₃, _, rfl, h₃, hx⟩ := Course.andThen_ok_iff.1 hx
  obtain ⟨object, j₄, _, rfl, h₄, hx⟩ := Course.andThen_ok_iff.1 hx
  obtain ⟨_, j₅, _, rfl, h₅, hx⟩ := Course.andThen_ok_iff.1 hx
  obtain ⟨objectSweep, j₆, _, rfl, h₆, hx⟩ := Course.andThen_ok_iff.1 hx
  obtain ⟨_, j₇, _, rfl, h₇, rfl, hresult⟩ := Course.andThen_ok_iff.1 hx
  cases hresult
  cases hfound
  have hfirst : Journal.tellings j₁ = 0 := tells_phaseCourse (tells_findCourse _) _ _ h₁
  have hthread := tells_phaseCourse (tells_threadCourse profile thread) _ _ h₂
  have hsentinels : Journal.tellings j₃ = 0 := tells_phaseCourse (tells_sentinelsCourse _) _ _ h₃
  have hsecond : Journal.tellings j₄ = 0 := tells_phaseCourse (tells_findCourse _) _ _ h₄
  have hobject : Journal.tellings j₅ = 0 := tells_phaseCourse (tells_checkCourse _ _ _ _) _ _ h₅
  have hsweep := tells_phaseCourse (Sweep.tells_neighborhoodCourse _ _ _ _) _ _ h₆
  have hstill : (Course.still (.ok ())).Tells fun _ => 0 := Course.tells_still () rfl
  have hdone : Journal.tellings j₇ = 0 := tells_phaseCourse hstill _ _ h₇
  have hnone : Journal.tellings [] = 0 := rfl
  simp only [Journal.tellings_append, hfirst, hthread, hsentinels, hsecond, hobject, hsweep, hdone, hnone,
    Nat.zero_add, Nat.add_zero, Result.probes]

end Scenario

end DebugFind
