/-
The course of a sweep. Every address is asked for once; an answer is recorded and told to the listener, and then
counts. A channel that fails leaves a record that names the address and the number of answers before it; a listener
that fails leaves none. `follows_neighborhood` says that a sweep does this and nothing else.
-/
import DebugFind.Proofs.Command
import DebugFind.Proofs.Course

namespace DebugFind

open DebugFind.Numeral

variable {σ α : Type} {u : Surroundings σ}

/-! ## One question -/

/-- the response that an output is -/
def ProbeResponse.ofOutput (address : Int) (verbose : Bool) (output : CommandOutput) : ProbeResponse :=
  ⟨address, Command.findText address verbose, output.text, verbose, output.exitStatus⟩

/-- the course of one question about an address -/
inductive ProbeCourse (address : Int) (verbose : Bool) : Course ProbeResponse
  | unwritten (h : ¬ Address.Writable address) : ProbeCourse address verbose [] (.error (.numeral .tooLongToWrite))
  | unanswered (h : Address.Writable address) (e : Failure) :
    ProbeCourse address verbose [.asked (Command.findText address verbose) (.error e)] (.error e)
  | answered (h : Address.Writable address) (output : CommandOutput) :
    ProbeCourse address verbose [.asked (Command.findText address verbose) (.ok output)]
      (.ok (.ofOutput address verbose output))

theorem follows_probe (address : Int) (verbose : Bool) :
    Follows u (u.channel.probe address verbose) (ProbeCourse address verbose) := by
  have hparts : Follows u (u.channel.probe address verbose)
      ((Course.still (Failure.ofNumeral (Command.find address verbose))).andThen fun command =>
        (Course.single (.asked command)).andThen fun output =>
          .still (.ok ⟨address, command, output.text, verbose, output.exitStatus⟩)) :=
    (follows_ofExcept _).bind fun command => (follows_execute command).bind fun output => follows_pure _
  refine hparts.congr fun j r => ?_
  by_cases h : Address.Writable address
  · have hfind : Failure.ofNumeral (Command.find address verbose) = .ok (Command.findText address verbose) := by
      rw [Command.find_of_writable h]
      rfl
    rw [hfind, Course.still_ok_andThen_iff]
    constructor
    · rintro (⟨e, rfl, rfl⟩ | ⟨output, _, _, rfl, rfl, rfl, rfl⟩)
      · exact .unanswered h e
      · exact .answered h output
    · intro hj
      cases hj with
      | unwritten h' => exact absurd h h'
      | unanswered _ e => exact Or.inl ⟨e, rfl, rfl⟩
      | answered _ output => exact Or.inr ⟨output, _, [], rfl, rfl, rfl, rfl⟩
  · have hfind : Failure.ofNumeral (Command.find address verbose) = .error (.numeral .tooLongToWrite) := by
      rw [Command.find_of_not_writable h]
      rfl
    rw [hfind, Course.still_error_andThen_iff]
    constructor
    · rintro ⟨rfl, rfl⟩
      exact .unwritten h
    · intro hj
      cases hj with
      | unwritten => exact ⟨rfl, rfl⟩
      | unanswered h' => exact absurd h' h
      | answered h' => exact absurd h' h

/-- a kind of deeds that no question about an address, no word to the listener of a sweep and no record is of -/
structure Deed.OffProbes {γ : Type} (pick : Deed → Option γ) : Prop where
  asked : ∀ address verbose answer, pick (.asked (Command.findText address verbose) answer) = none
  told : ∀ (address : Nat) response reply, pick (.told address response reply) = none
  noted : ∀ record, pick (.noted record) = none

theorem offProbes_transition : Deed.OffProbes Deed.transition? := ⟨fun _ _ _ => rfl, fun _ _ _ => rfl, fun _ => rfl⟩

/-! ## The sweep -/

namespace Sweep

/-- the record about a channel that fails -/
def failureRecord (logger : Logger) (address : Int) (probes : Nat) : Record :=
  ⟨.error, logger, "Sweep probe failed at " ++ hexText address ++ " after " ++ toString probes ++ " probes"⟩

/-- the record about an answer -/
def answerRecord (logger : Logger) (address : Int) (output : CommandOutput) : Record :=
  ⟨.debug, logger, "Sweep " ++ hexText address ++ " -> " ++ (Classification.ofText output.text).name ++
    " (exit " ++ toString output.exitStatus ++ ")"⟩

/-- the record about a sweep that begins -/
def startRecord (logger : Logger) (knownGood : Int) (range : Range) : Record :=
  ⟨.info, logger, "Sweeping " ++ hexText range.start ++ ".." ++ hexText range.last ++ " around " ++ hexText knownGood⟩

/-- what is done about an answer before it counts -/
def answered (logger : Logger) (address : Int) (output : CommandOutput) (reply : Except Failure Unit) : Journal :=
  [.asked (Command.findText address) (.ok output), .noted (answerRecord logger address output),
    .told address (.ofOutput address false output) reply]

/-- the course of one address -/
inductive StepCourse (logger : Logger) (address : Nat) (report : Report) : Course Report
  | unanswered (e : Failure) :
    StepCourse logger address report
      [.asked (Command.findText address) (.error e), .noted (failureRecord logger address report.probes)] (.error e)
  | rejected (output : CommandOutput) (e : Failure) :
    StepCourse logger address report (answered logger address output (.error e)) (.error e)
  | counted (output : CommandOutput) :
    StepCourse logger address report (answered logger address output (.ok ()))
      (.ok (report.add (.ofOutput address false output)))

/-- the course of so many addresses from one on -/
def ProbesCourse (logger : Logger) (address : Nat) : Nat → Report → Course Report
  | 0, report => .still (.ok report)
  | count + 1, report => (StepCourse logger address report).andThen (ProbesCourse logger (address + 1) count)

/-- the course of a sweep -/
inductive NeighborhoodCourse (logger : Logger) (knownGood lookback count : Int) : Course Report
  | refused (e : Failure) (h : layOut knownGood lookback count = .error e) :
    NeighborhoodCourse logger knownGood lookback count [] (.error e)
  | laidOut (range : Range) (h : layOut knownGood lookback count = .ok range) (j : Journal) (r : Except Failure Report)
    (hj : ProbesCourse logger range.start range.count ⟨range.start, range.last, 0, 0, {}⟩ j r) :
    NeighborhoodCourse logger knownGood lookback count (.noted (startRecord logger knownGood range) :: j) r

theorem step_eq (logger : Logger) (address : Nat) (report : Report) :
    step u.channel logger u.observers.onProbe address report =
      ((u.channel.probe address).onFailure fun _ => Action.log .error logger
        ("Sweep probe failed at " ++ hexText address ++ " after " ++ toString report.probes ++ " probes")) >>=
      fun response => Action.log .debug logger ("Sweep " ++ hexText address ++ " -> " ++
        (Classification.ofText response.text).name ++ " (exit " ++ toString response.exitStatus ++ ")") >>=
      fun _ => u.tell address response >>= fun _ => pure (report.add response) := by
  unfold step Surroundings.tell
  cases u.observers.onProbe with
  | some tell => rfl
  | none => simp only [pure_bind]

theorem follows_step (logger : Logger) (address : Nat) (report : Report) :
    Follows u (step u.channel logger u.observers.onProbe address report) (StepCourse logger address report) := by
  have hparts : Follows u (step u.channel logger u.observers.onProbe address report)
      (((ProbeCourse address false).orNote (failureRecord logger address report.probes)).andThen fun response =>
        (Course.note ⟨.debug, logger, "Sweep " ++ hexText address ++ " -> " ++
            (Classification.ofText response.text).name ++ " (exit " ++ toString response.exitStatus ++ ")"⟩).andThen
          fun _ => (Course.single (.told address response)).andThen fun _ => .still (.ok (report.add response))) := by
    rw [step_eq]
    exact (follows_probe address false).onFailure.bind fun response => (follows_log _ _ _).bind fun _ =>
      (follows_tell _ _).bind fun _ => follows_pure _
  refine hparts.congr fun j r => ?_
  have hw : Address.Writable address := Address.writable_natCast address
  constructor
  · rintro (⟨e, rfl, ⟨_, h, _⟩ | ⟨e', k, he, hk, rfl⟩⟩ | ⟨response, j₁, j₂, rfl, ⟨_, hr, hj₁⟩ | ⟨_, _, h, _⟩, hj₂⟩)
    · cases h
    · cases he
      cases hk with
      | unwritten h => exact absurd hw h
      | unanswered => exact .unanswered e
    · cases hr
      obtain ⟨j₃, rfl, hj₃⟩ := Course.note_andThen_iff.1 hj₂
      cases hj₁ with
      | answered _ output =>
        rcases hj₃ with ⟨e, rfl, rfl⟩ | ⟨_, _, _, rfl, rfl, rfl, rfl⟩
        · exact .rejected output e
        · exact .counted output
    · cases h
  · intro hj
    cases hj with
    | unanswered e => exact Or.inl ⟨e, rfl, Or.inr ⟨e, _, rfl, .unanswered hw e, rfl⟩⟩
    | rejected output e =>
      exact Or.inr ⟨_, _, _, rfl, Or.inl ⟨_, rfl, .answered hw output⟩,
        Course.note_andThen_iff.2 ⟨_, rfl, Or.inl ⟨e, rfl, rfl⟩⟩⟩
    | counted output =>
      exact Or.inr ⟨_, _, _, rfl, Or.inl ⟨_, rfl, .answered hw output⟩,
        Course.note_andThen_iff.2 ⟨_, rfl, Or.inr ⟨(), _, [], rfl, rfl, rfl, rfl⟩⟩⟩

theorem follows_probes (logger : Logger) (address count : Nat) (report : Report) :
    Follows u (probes u.channel logger u.observers.onProbe address count report)
      (ProbesCourse logger address count report) := by
  induction count generalizing address report with
  | zero => exact follows_pure report
  | succ count ih => exact (follows_step logger address report).bind (ih (address + 1))

theorem follows_neighborhood (knownGood lookback count : Int) (logger : Logger) :
    Follows u (neighborhood u.channel knownGood lookback count u.observers.onProbe logger)
      (NeighborhoodCourse logger knownGood lookback count) := by
  have hparts : Follows u (neighborhood u.channel knownGood lookback count u.observers.onProbe logger)
      ((Course.still (layOut knownGood lookback count)).andThen fun range =>
        (Course.note (startRecord logger knownGood range)).andThen fun _ =>
          ProbesCourse logger range.start range.count ⟨range.start, range.last, 0, 0, {}⟩) :=
    (follows_ofExcept _).bind fun range => (follows_log _ _ _).bind fun _ => follows_probes _ _ _ _
  refine hparts.congr fun j r => ?_
  constructor
  · rintro (⟨e, rfl, rfl, he⟩ | ⟨range, j₁, j₂, rfl, ⟨rfl, hr⟩, hj⟩)
    · exact .refused e he.symm
    · obtain ⟨k, rfl, hk⟩ := Course.note_andThen_iff.1 hj
      exact .laidOut range hr.symm k r hk
  · intro hj
    cases hj with
    | refused e h => exact Or.inl ⟨e, rfl, rfl, h.symm⟩
    | laidOut range h k r hk =>
      exact Or.inr ⟨range, [], _, rfl, ⟨rfl, h.symm⟩, Course.note_andThen_iff.2 ⟨k, rfl, hk⟩⟩

/-! ## What a sweep does not do -/

theorem without_probesCourse {γ : Type} {pick : Deed → Option γ} (hpick : Deed.OffProbes pick) (logger : Logger)
    (address count : Nat) (report : Report) : (ProbesCourse logger address count report).Without pick := by
  induction count generalizing address report with
  | zero => exact Course.without_still _
  | succ count ih =>
    refine Course.Without.andThen (fun j r hj => ?_) (ih (address + 1))
    cases hj <;> simp [answered, hpick.asked, hpick.told, hpick.noted]

theorem without_neighborhoodCourse {γ : Type} {pick : Deed → Option γ} (hpick : Deed.OffProbes pick) (logger : Logger)
    (knownGood lookback count : Int) : (NeighborhoodCourse logger knownGood lookback count).Without pick := by
  intro j r hj
  cases hj with
  | refused => rfl
  | laidOut range h j r hj =>
    rw [List.filterMap_cons, hpick.noted]
    exact without_probesCourse hpick logger _ _ _ j r hj

end Sweep

end DebugFind
