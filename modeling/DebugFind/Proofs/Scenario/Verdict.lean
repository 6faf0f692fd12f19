/-
The verdict of a scenario. A `Dialogue` is what the inspected process said in the course of a complete run; `Passes`
says what it has to say for the run to give a result: the listings show the addresses, the answers have the markers
they should have and none that they should not, the object shows the field that is expected, and the sweeps stay above
zero and were answered.

- `runCourse_ok_iff`: the courses of a run that give a result are those of the dialogues that pass, and the result is
  the dialogue's.
- `verdict_exact`: for every profile that was read, every sound channel and willing observers, a run gives a result
  exactly if its dialogue passes, and fails with a finding of the scenario (`isFinding_of_ending`) if not.
-/
import DebugFind.Proofs.Scenario.Findings
import DebugFind.Proofs.Sweep.Reports

namespace DebugFind.Scenario

open DebugFind.Numeral DebugFind.Text DebugFind.Classification

variable {σ α β : Type}

/-! ## Dialogues -/

/-- what the inspected process said in the course of a complete run -/
structure Dialogue where
  listing : CommandOutput
  plain : CommandOutput
  detailed : CommandOutput
  /-- the answers about the neighborhood of the thread, if it was swept -/
  around : Option (List CommandOutput)
  sentinels : List CommandOutput
  relisting : CommandOutput
  object : CommandOutput
  /-- the answers about the neighborhood of the object -/
  neighborhood : List CommandOutput

/-- a neighborhood that does not reach below zero was answered throughout -/
def Answered (settings : SweepSettings) (address : Nat) (answers : List CommandOutput) : Prop :=
  settings.lookback ≤ address ∧ answers.length = settings.count

/-- an address was refused, and nothing was said that identifies it -/
def Refused (text : String) : Prop :=
  contains text notSafeMarker = true ∧ contains text threadMarker = false ∧ contains text objectMarker = false ∧
    contains text fieldsMarker = false

/-- the neighborhood of a thread was answered throughout, if it was to be swept -/
def AnsweredAround (profile : Profile) (thread : Nat) : Option (List CommandOutput) → Prop
  | some answers => profile.sweepThreadNeighborhood = true ∧ Answered profile.sweep thread answers
  | none => profile.sweepThreadNeighborhood = false

/-- words that can be written -/
def words (text : Except Numeral.Error String) : String :=
  match text with
  | .ok text => text
  | .error _ => ""

namespace Dialogue

/-- what has to be said for a run to give a result -/
structure Passes (d : Dialogue) (profile : Profile) (thread object : Nat) : Prop where
  threadListed : address? profile.threadPattern d.listing.text = some thread
  isThread : contains d.plain.text threadMarker = true
  isWaiting : contains d.detailed.text threadMarker = true ∧ contains d.detailed.text waitingMarker = true
  threadSwept : AnsweredAround profile thread d.around
  sentinelsRefused : d.sentinels.length = profile.sentinels.length ∧ ∀ output ∈ d.sentinels, Refused output.text
  objectListed : address? profile.objectPattern d.relisting.text = some object
  isObject : contains d.object.text objectMarker = true ∧ contains d.object.text fieldsMarker = true ∧
    profile.expectedField.ShownIn d.object.text
  objectSwept : Answered profile.sweep object d.neighborhood

/-- the answers about sentinels, in order -/
def asked (addresses : List Int) (answers : List CommandOutput) : Journal :=
  List.zipWith (fun a output => .asked (Command.findText a) (.ok output)) addresses answers

/-- a transition that was announced without trouble -/
def reached (stage : Stage) (detail : String) : Deed := .announced ⟨stage, detail⟩ (.ok ())

/-- the whole conversation, with the transitions that were announced in between -/
def journal (d : Dialogue) (profile : Profile) (thread object : Nat) : Journal :=
  [.asked Command.threadListing (.ok d.listing), reached .threadFound (hexText thread),
    .asked (Command.findText thread) (.ok d.plain), .asked (Command.findText thread true) (.ok d.detailed)] ++
  d.around.elim [] (Sweep.served (thread - profile.sweep.lookback)) ++
  [reached .threadClassified "thread, waiting"] ++
  asked profile.sentinels d.sentinels ++
  [reached .badAddressesChecked (words (describeSentinels profile.sentinels)),
    .asked Command.threadListing (.ok d.relisting), reached .objectFound (hexText object),
    .asked (Command.findText object) (.ok d.object),
    reached .objectClassified (words profile.expectedField.describe)] ++
  Sweep.served (object - profile.sweep.lookback) d.neighborhood ++
  [reached .neighborhoodSwept
      (sweepDetail (.ofAnswers (object - profile.sweep.lookback) d.neighborhood)),
    reached .done ""]

/-- the transitions of a complete run, in order -/
def transitions (d : Dialogue) (profile : Profile) (thread object : Nat) : List Transition :=
  [⟨.threadFound, hexText thread⟩, ⟨.threadClassified, "thread, waiting"⟩,
    ⟨.badAddressesChecked, words (describeSentinels profile.sentinels)⟩, ⟨.objectFound, hexText object⟩,
    ⟨.objectClassified, words profile.expectedField.describe⟩,
    ⟨.neighborhoodSwept, sweepDetail (.ofAnswers (object - profile.sweep.lookback) d.neighborhood)⟩, ⟨.done, ""⟩]

/-- what the run has found -/
def result (d : Dialogue) (profile : Profile) (thread object : Nat) : Result where
  threadAddress := thread
  objectAddress := object
  objectSweep := .ofAnswers (object - profile.sweep.lookback) d.neighborhood
  threadSweep := d.around.map (.ofAnswers (thread - profile.sweep.lookback))
  transitions := d.transitions profile thread object

end Dialogue

/-! ## Questions and judgements seen from outside -/

section Shown

variable {profile : Profile} {k : Journal}

theorem shown_findCourse_ok {pattern : ExtractionPattern} {address : Nat} :
    (FindCourse pattern).shown k (.ok address) ↔
      ∃ output, k = [.asked Command.threadListing (.ok output)] ∧ address? pattern output.text = some address := by
  constructor
  · rintro ⟨_, hj, rfl⟩
    cases hj with
    | found output _ line h => exact ⟨output, rfl, by rw [address?, h]⟩
  · rintro ⟨output, rfl, h⟩
    rw [address?] at h
    split at h <;> cases h
    exact ⟨_, .found output address _ (by assumption), rfl⟩

theorem shown_checkCourse_ok {address : Int} {expected : Classification} {verbose : Bool}
    {field : Option FieldExpectation} :
    (CheckCourse address expected verbose field).shown k (.ok ()) ↔
      Address.Writable address ∧ ∃ output, k = [.asked (Command.findText address verbose) (.ok output)] ∧
        expected.check output.text verbose field = .ok () := by
  constructor
  · rintro ⟨_, hj, rfl⟩
    cases hj with
    | judged h output _ hr => exact ⟨h, output, rfl, hr⟩
  · rintro ⟨h, output, rfl, hr⟩
    exact ⟨_, .judged h output _ hr, rfl⟩

theorem shown_sentinelsCourse_ok {sentinels : List Int} (hwritable : ∀ a ∈ sentinels, Address.Writable a) :
    (SentinelsCourse sentinels).shown k (.ok ()) ↔
      ∃ answers, answers.length = sentinels.length ∧ k = Dialogue.asked sentinels answers ∧
        ∀ output ∈ answers, Classification.notSafe.check output.text = .ok () := by
  induction sentinels generalizing k with
  | nil =>
    simp only [SentinelsCourse, Course.shown_still_ok, and_true]
    constructor
    · rintro rfl
      exact ⟨[], rfl, rfl, by simp⟩
    · rintro ⟨_, _, rfl, _⟩
      rfl
  | cons a rest ih =>
    obtain ⟨ha, hrest⟩ := List.forall_mem_cons.1 hwritable
    rw [SentinelsCourse, Course.shown_andThen_ok]
    constructor
    · rintro ⟨⟨⟩, _, _, rfl, h₁, h₂⟩
      obtain ⟨_, output, rfl, hcheck⟩ := shown_checkCourse_ok.1 h₁
      obtain ⟨answers, hlength, rfl, hchecks⟩ := (ih hrest).1 h₂
      exact ⟨output :: answers, by simp [hlength], rfl, List.forall_mem_cons.2 ⟨hcheck, hchecks⟩⟩
    · rintro ⟨answers, hlength, rfl, hchecks⟩
      cases answers with
      | nil => cases hlength
      | cons output answers =>
        obtain ⟨hcheck, hchecks⟩ := List.forall_mem_cons.1 hchecks
        exact ⟨(), _, _, rfl, shown_checkCourse_ok.2 ⟨ha, output, rfl, hcheck⟩,
          (ih hrest).2 ⟨answers, by simpa using hlength, rfl, hchecks⟩⟩

theorem shown_sweepCourse_ok {settings : SweepSettings} {address : Nat} {report : Sweep.Report} :
    (SweepCourse settings address).shown k (.ok report) ↔
      ∃ answers, Answered settings address answers ∧ k = Sweep.served (address - settings.lookback) answers ∧
        report = .ofAnswers (address - settings.lookback) answers := by
  have hcount : (1 : Int) ≤ settings.count := by exact_mod_cast settings.count_pos
  have hstart : ((address : Int) - settings.lookback).toNat = address - settings.lookback := by omega
  rw [SweepCourse, Sweep.shown_neighborhoodCourse_ok (Int.natCast_nonneg _) hcount, hstart, Int.toNat_natCast,
    Nat.cast_le]
  constructor
  · rintro ⟨hreach, answers, hlength, hk, hreport⟩
    exact ⟨answers, ⟨hreach, hlength⟩, hk, hreport⟩
  · rintro ⟨answers, ⟨hreach, hlength⟩, hk, hreport⟩
    exact ⟨hreach, answers, hlength, hk, hreport⟩

theorem shown_phaseCourse_ok {stage : Stage} {T : Course α} {detail : α → Except Failure String} {a : α} :
    (PhaseCourse stage T detail).shown k (.ok a) ↔
      ∃ text k₁, detail a = .ok text ∧ k = k₁ ++ [Dialogue.reached stage text] ∧ T.shown k₁ (.ok a) := by
  constructor
  · rintro ⟨_, hj, rfl⟩
    cases hj with
    | reached j _ text h hd => exact ⟨text, _, hd, Journal.outward_append j _, j, h, rfl⟩
  · rintro ⟨text, _, hd, rfl, j, h, rfl⟩
    refine ⟨_, .reached j a text h hd, ?_⟩
    rw [Journal.outward_append]
    rfl

/-! ## Assertions in words -/

theorem check_thread_iff {text : String} :
    Classification.thread.check text = .ok () ↔ contains text threadMarker = true := by
  rw [check_eq_ok_iff_marked (by decide)]
  simp [Marked, required, forbidden]

theorem check_waiting_iff {text : String} :
    Classification.thread.check text true = .ok () ↔
      contains text threadMarker = true ∧ contains text waitingMarker = true := by
  rw [check_eq_ok_iff_marked (by decide)]
  simp [Marked, required, forbidden]

theorem check_notSafe_iff {text : String} : Classification.notSafe.check text = .ok () ↔ Refused text := by
  rw [check_eq_ok_iff_marked (by decide)]
  simp [Marked, required, forbidden, Refused]

theorem check_object_iff {text : String} {e : FieldExpectation} (hlegible : ObjectField.Legible (lines text.toList))
    (hvalue : Numeral.Writable e.value) :
    Classification.managedObject.check text false (some e) = .ok () ↔
      contains text objectMarker = true ∧ contains text fieldsMarker = true ∧ e.ShownIn text := by
  rw [check_eq_ok_iff hlegible (by simpa using hvalue) (by decide)]
  simp [Marked, required, forbidden, and_assoc]

theorem of_check_object {text : String} {e : FieldExpectation}
    (h : Classification.managedObject.check text false (some e) = .ok ()) :
    contains text objectMarker = true ∧ contains text fieldsMarker = true ∧ e.ShownIn text := by
  have hmarked := ((check_eq_ok_iff_marked (by decide)).1 h).1
  simp only [Marked, required, forbidden, List.mem_cons, List.not_mem_nil, or_false, forall_eq_or_imp,
    forall_eq] at hmarked
  exact ⟨hmarked.1.1, hmarked.1.2, shownIn_of_check h⟩

/-! ## The run seen from outside -/

/-- the sweep around a thread, if the profile asks for one -/
theorem shown_around_ok {thread : Nat} {report : Option Sweep.Report} :
    (if profile.sweepThreadNeighborhood then
      (SweepCourse profile.sweep thread).andThen fun report => .still (.ok (some report))
        else Course.still (.ok none)).shown k (.ok report) ↔
      ∃ around, AnsweredAround profile thread around ∧
        k = around.elim [] (Sweep.served (thread - profile.sweep.lookback)) ∧
        report = around.map (.ofAnswers (thread - profile.sweep.lookback)) := by
  split_ifs with hsweep
  · rw [Course.shown_andThen_ok]
    constructor
    · rintro ⟨_, _, _, rfl, h₁, h₂⟩
      obtain ⟨answers, hanswered, rfl, rfl⟩ := shown_sweepCourse_ok.1 h₁
      obtain ⟨rfl, rfl⟩ := Course.shown_still_ok.1 h₂
      exact ⟨some answers, ⟨hsweep, hanswered⟩, List.append_nil _, rfl⟩
    · rintro ⟨_ | answers, hanswered, rfl, rfl⟩
      · rw [AnsweredAround, hsweep] at hanswered
        cases hanswered
      · exact ⟨_, _, [], (List.append_nil _).symm, shown_sweepCourse_ok.2 ⟨answers, hanswered.2, rfl, rfl⟩,
          Course.shown_still_ok.2 ⟨rfl, rfl⟩⟩
  · rw [Course.shown_still_ok]
    constructor
    · rintro ⟨rfl, rfl⟩
      exact ⟨none, by simpa [AnsweredAround] using hsweep, rfl, rfl⟩
    · rintro ⟨_ | answers, hanswered, rfl, rfl⟩
      · exact ⟨rfl, rfl⟩
      · exact absurd hanswered.1 hsweep

theorem shown_threadCourse_ok {thread : Nat} {report : Option Sweep.Report} :
    (ThreadCourse profile thread).shown k (.ok report) ↔
      ∃ plain detailed around, contains plain.text threadMarker = true ∧
        (contains detailed.text threadMarker = true ∧ contains detailed.text waitingMarker = true) ∧
        AnsweredAround profile thread around ∧
        k = [.asked (Command.findText thread) (.ok plain)] ++ ([.asked (Command.findText thread true) (.ok detailed)] ++
          around.elim [] (Sweep.served (thread - profile.sweep.lookback))) ∧
        report = around.map (.ofAnswers (thread - profile.sweep.lookback)) := by
  have hwritable : Address.Writable thread := Address.writable_natCast thread
  constructor
  · intro h
    obtain ⟨⟨⟩, _, _, rfl, h₁, h⟩ := Course.shown_andThen_ok.1 h
    obtain ⟨⟨⟩, _, _, rfl, h₂, h₃⟩ := Course.shown_andThen_ok.1 h
    obtain ⟨-, plain, rfl, hplain⟩ := shown_checkCourse_ok.1 h₁
    obtain ⟨-, detailed, rfl, hdetailed⟩ := shown_checkCourse_ok.1 h₂
    obtain ⟨around, hanswered, rfl, rfl⟩ := shown_around_ok.1 h₃
    exact ⟨plain, detailed, around, check_thread_iff.1 hplain, check_waiting_iff.1 hdetailed, hanswered, rfl, rfl⟩
  · rintro ⟨plain, detailed, around, hplain, hdetailed, hanswered, rfl, rfl⟩
    refine Course.shown_andThen_ok.2 ⟨(), _, _, rfl, ?_, Course.shown_andThen_ok.2 ⟨(), _, _, rfl, ?_, ?_⟩⟩
    · exact shown_checkCourse_ok.2 ⟨hwritable, plain, rfl, check_thread_iff.2 hplain⟩
    · exact shown_checkCourse_ok.2 ⟨hwritable, detailed, rfl, check_waiting_iff.2 hdetailed⟩
    · exact shown_around_ok.2 ⟨around, hanswered, rfl, rfl⟩

/-- the conversation in its seven phases -/
theorem Dialogue.journal_eq (d : Dialogue) (thread object : Nat) : d.journal profile thread object =
    ([.asked Command.threadListing (.ok d.listing)] ++ [reached .threadFound (hexText thread)]) ++
    ((([.asked (Command.findText thread) (.ok d.plain)] ++ ([.asked (Command.findText thread true) (.ok d.detailed)] ++
      d.around.elim [] (Sweep.served (thread - profile.sweep.lookback)))) ++
        [reached .threadClassified "thread, waiting"]) ++
    ((asked profile.sentinels d.sentinels ++
      [reached .badAddressesChecked (words (describeSentinels profile.sentinels))]) ++
    (([.asked Command.threadListing (.ok d.relisting)] ++ [reached .objectFound (hexText object)]) ++
    (([.asked (Command.findText object) (.ok d.object)] ++
      [reached .objectClassified (words profile.expectedField.describe)]) ++
    ((Sweep.served (object - profile.sweep.lookback) d.neighborhood ++
      [reached .neighborhoodSwept (sweepDetail (.ofAnswers (object - profile.sweep.lookback) d.neighborhood))]) ++
    (([] ++ [reached .done ""]) ++ [])))))) := by
  simp [journal]

theorem words_of_eq_ok {x : Except Numeral.Error String} {text : String} (h : Failure.ofNumeral x = .ok text) :
    words x = text := by
  cases x with
  | error e => cases h
  | ok t =>
    cases h
    rfl

theorem ofNumeral_words {x : Except Numeral.Error String} (h : ∃ text, x = .ok text) :
    Failure.ofNumeral x = .ok (words x) := by
  obtain ⟨text, rfl⟩ := h
  rfl

/-- steps that all end well had a dialogue that passes -/
theorem passes_of_shown (hproper : profile.Proper) {found : List Transition → Result}
    (h : (StepsCourse profile).shown k (.ok found)) :
    ∃ (d : Dialogue) (thread object : Nat), d.Passes profile thread object ∧ k = d.journal profile thread object ∧
      found = Result.mk thread object (.ofAnswers (object - profile.sweep.lookback) d.neighborhood)
        (d.around.map (.ofAnswers (thread - profile.sweep.lookback))) := by
  obtain ⟨thread, _, _, rfl, h₁, h⟩ := Course.shown_andThen_ok.1 h
  obtain ⟨threadSweep, _, _, rfl, h₂, h⟩ := Course.shown_andThen_ok.1 h
  obtain ⟨⟨⟩, _, _, rfl, h₃, h⟩ := Course.shown_andThen_ok.1 h
  obtain ⟨object, _, _, rfl, h₄, h⟩ := Course.shown_andThen_ok.1 h
  obtain ⟨⟨⟩, _, _, rfl, h₅, h⟩ := Course.shown_andThen_ok.1 h
  obtain ⟨objectSweep, _, _, rfl, h₆, h⟩ := Course.shown_andThen_ok.1 h
  obtain ⟨⟨⟩, _, _, rfl, h₇, h⟩ := Course.shown_andThen_ok.1 h
  obtain ⟨rfl, rfl⟩ := Course.shown_still_ok.1 h
  obtain ⟨_, _, ht₁, rfl, hb₁⟩ := shown_phaseCourse_ok.1 h₁
  obtain ⟨_, _, ht₂, rfl, hb₂⟩ := shown_phaseCourse_ok.1 h₂
  obtain ⟨_, _, ht₃, rfl, hb₃⟩ := shown_phaseCourse_ok.1 h₃
  obtain ⟨_, _, ht₄, rfl, hb₄⟩ := shown_phaseCourse_ok.1 h₄
  obtain ⟨_, _, ht₅, rfl, hb₅⟩ := shown_phaseCourse_ok.1 h₅
  obtain ⟨_, _, ht₆, rfl, hb₆⟩ := shown_phaseCourse_ok.1 h₆
  obtain ⟨_, _, ht₇, rfl, hb₇⟩ := shown_phaseCourse_ok.1 h₇
  cases ht₁
  cases ht₂
  cases ht₄
  cases ht₆
  cases ht₇
  obtain ⟨listing, rfl, hlisting⟩ := shown_findCourse_ok.1 hb₁
  obtain ⟨plain, detailed, around, hplain, hdetailed, haround, rfl, rfl⟩ := shown_threadCourse_ok.1 hb₂
  obtain ⟨answers, hlength, rfl, hrefused⟩ := (shown_sentinelsCourse_ok hproper.sentinels).1 hb₃
  obtain ⟨relisting, rfl, hrelisting⟩ := shown_findCourse_ok.1 hb₄
  obtain ⟨-, response, rfl, hobject⟩ := shown_checkCourse_ok.1 hb₅
  obtain ⟨neighborhood, hneighborhood, rfl, rfl⟩ := shown_sweepCourse_ok.1 hb₆
  obtain ⟨rfl, -⟩ := Course.shown_still_ok.1 hb₇
  refine ⟨⟨listing, plain, detailed, around, answers, relisting, response, neighborhood⟩, thread, object, ?_, ?_, rfl⟩
  · exact ⟨hlisting, hplain, hdetailed, haround, ⟨hlength, fun output ho => check_notSafe_iff.1 (hrefused output ho)⟩,
      hrelisting, of_check_object hobject, hneighborhood⟩
  · rw [Dialogue.journal_eq, words_of_eq_ok ht₃, words_of_eq_ok ht₅]

/-- a dialogue that passes is one of steps that all end well -/
theorem shown_of_passes (hproper : profile.Proper) {d : Dialogue} {thread object : Nat}
    (hd : d.Passes profile thread object) (hlegible : ObjectField.Legible (lines d.object.text.toList)) :
    (StepsCourse profile).shown (d.journal profile thread object)
      (.ok (Result.mk thread object (.ofAnswers (object - profile.sweep.lookback) d.neighborhood)
        (d.around.map (.ofAnswers (thread - profile.sweep.lookback))))) := by
  have hobject : Address.Writable object := Address.writable_natCast object
  have hsentinelWords := ofNumeral_words (describeSentinels_of_writable hproper.sentinels)
  have hfieldWords := ofNumeral_words (FieldExpectation.describe_of_writable hproper.value)
  rw [Dialogue.journal_eq]
  refine Course.shown_andThen_ok.2 ⟨thread, _, _, rfl, shown_phaseCourse_ok.2 ⟨_, _, rfl, rfl, ?_⟩, ?_⟩
  · exact shown_findCourse_ok.2 ⟨d.listing, rfl, hd.threadListed⟩
  refine Course.shown_andThen_ok.2 ⟨d.around.map (.ofAnswers (thread - profile.sweep.lookback)), _, _, rfl,
    shown_phaseCourse_ok.2 ⟨_, _, rfl, rfl, ?_⟩, ?_⟩
  · exact shown_threadCourse_ok.2 ⟨d.plain, d.detailed, d.around, hd.isThread, hd.isWaiting, hd.threadSwept, rfl, rfl⟩
  refine Course.shown_andThen_ok.2 ⟨(), _, _, rfl, shown_phaseCourse_ok.2 ⟨_, _, hsentinelWords, rfl, ?_⟩, ?_⟩
  · exact (shown_sentinelsCourse_ok hproper.sentinels).2 ⟨d.sentinels, hd.sentinelsRefused.1, rfl,
      fun output ho => check_notSafe_iff.2 (hd.sentinelsRefused.2 output ho)⟩
  refine Course.shown_andThen_ok.2 ⟨object, _, _, rfl, shown_phaseCourse_ok.2 ⟨_, _, rfl, rfl, ?_⟩, ?_⟩
  · exact shown_findCourse_ok.2 ⟨d.relisting, rfl, hd.objectListed⟩
  refine Course.shown_andThen_ok.2 ⟨(), _, _, rfl, shown_phaseCourse_ok.2 ⟨_, _, hfieldWords, rfl, ?_⟩, ?_⟩
  · exact shown_checkCourse_ok.2 ⟨hobject, d.object, rfl, (check_object_iff hlegible hproper.value).2 hd.isObject⟩
  refine Course.shown_andThen_ok.2 ⟨.ofAnswers (object - profile.sweep.lookback) d.neighborhood, _, _, rfl,
    shown_phaseCourse_ok.2 ⟨_, _, rfl, rfl, ?_⟩, ?_⟩
  · exact shown_sweepCourse_ok.2 ⟨d.neighborhood, hd.objectSwept, rfl, rfl⟩
  refine Course.shown_andThen_ok.2 ⟨(), _, _, rfl, shown_phaseCourse_ok.2 ⟨_, _, rfl, rfl, ?_⟩, ?_⟩
  · exact Course.shown_still_ok.2 ⟨rfl, rfl⟩
  · exact Course.shown_still_ok.2 ⟨rfl, rfl⟩

end Shown

/-! ## Transitions of a dialogue -/

theorem transitions_served (start : Int) (answers : List CommandOutput) :
    Journal.transitions (Sweep.served start answers) = [] := by
  induction answers generalizing start with
  | nil => rfl
  | cons output answers ih => exact ih (start + 1)

theorem Dialogue.transitions_asked (addresses : List Int) (answers : List CommandOutput) :
    Journal.transitions (asked addresses answers) = [] := by
  induction addresses generalizing answers with
  | nil => rfl
  | cons a rest ih =>
    cases answers with
    | nil => rfl
    | cons output answers => exact ih answers

theorem Dialogue.transitions_journal (d : Dialogue) (profile : Profile) (thread object : Nat) :
    Journal.transitions (d.journal profile thread object) = d.transitions profile thread object := by
  have haround : Journal.transitions (d.around.elim [] (Sweep.served (thread - profile.sweep.lookback))) = [] := by
    cases d.around with
    | none => rfl
    | some answers => exact transitions_served _ answers
  simp only [journal, Journal.transitions_append, transitions_asked, transitions_served, haround]
  rfl

/-! ## The verdict -/

/-- the runs that give a result are those of the dialogues that pass, if what is said about the object is legible -/
theorem runCourse_ok_iff {profile : Profile} (hproper : profile.Proper) {k : Journal} {r : Result}
    (hlegible : ∀ d ∈ k, d.Sound) :
    (∃ j, RunCourse profile j (.ok r) ∧ k = j.outward) ↔
      ∃ (d : Dialogue) (thread object : Nat), d.Passes profile thread object ∧ k = d.journal profile thread object ∧
        r = d.result profile thread object := by
  constructor
  · rintro ⟨j, ⟨x, hj, hr⟩, rfl⟩
    cases x with
    | error e => cases hr
    | ok found =>
      cases hr
      obtain ⟨d, thread, object, hd, hjournal, rfl⟩ := passes_of_shown hproper ⟨j, hj, rfl⟩
      refine ⟨d, thread, object, hd, hjournal, ?_⟩
      rw [← Journal.transitions_outward j, hjournal, Dialogue.transitions_journal]
      rfl
  · rintro ⟨d, thread, object, hd, rfl, rfl⟩
    have hobject : Deed.Sound (.asked (Command.findText object) (.ok d.object)) :=
      hlegible _ (by simp [Dialogue.journal])
    obtain ⟨j, hj, hjournal⟩ := shown_of_passes hproper hd hobject
    refine ⟨j, ⟨_, hj, ?_⟩, hjournal⟩
    rw [← Journal.transitions_outward j, ← hjournal, Dialogue.transitions_journal]
    rfl

/-- **The verdict is exact.** For every profile that was read from a file, every sound channel and willing observers,
a run from the initial stage gives a result exactly if the conversation that takes place is a dialogue that passes,
and then the result is that of the dialogue; every failure is a finding of the scenario. -/
theorem verdict_exact {runtime : Runtime} {path : String} {file : Except Profile.FileError (List UInt8)}
    {profile : Profile} (hprofile : Profile.ofFile runtime path file = .ok profile) {channel : Channel σ}
    (hchannel : channel.Sound) {observers : Observers σ} (hobservers : observers.Willing) (s : σ) :
    let u : Surroundings σ := ⟨channel, observers⟩
    let outcome := run channel profile observers ({}, s)
    (∀ r, outcome.result = .ok r ↔ ∃ (d : Dialogue) (thread object : Nat), d.Passes profile thread object ∧
        (∃ t es, Happens u (d.journal profile thread object) s t es) ∧ r = d.result profile thread object) ∧
      ∀ e, outcome.result = .error e → e.isFinding = true := by
  intro u outcome
  have hproper : profile.Proper := Profile.proper_of_ofFile hprofile
  have hsound {j : Journal} {t : σ} {es : List Event} (h : Happens u j s t es) : ∀ d ∈ j, d.Sound :=
    sound_of_happens (u := u) hchannel hobservers h
  have hrun {x : Except Failure Result} :
      outcome.result = x ↔ ∃ j, RunCourse profile j x ∧ ∃ t es, Happens u j.outward s t es := by
    constructor
    · rintro rfl
      obtain ⟨j, hj, -, hh⟩ := (follows_run (u := u) profile s _ _ _ _).1 rfl
      exact ⟨j, hj, _, happens_outward.2 ⟨_, hh⟩⟩
    · rintro ⟨j, hj, t, hh⟩
      obtain ⟨es, hh⟩ := happens_outward.1 hh
      have h := (follows_run (u := u) profile s x _ t es).2 ⟨j, hj, rfl, hh⟩
      show (run u.channel profile u.observers ({}, s)).result = x
      rw [h]
  constructor
  · intro r
    rw [hrun]
    constructor
    · rintro ⟨j, hj, t, es, hh⟩
      obtain ⟨d, thread, object, hd, hjournal, hr⟩ := (runCourse_ok_iff hproper (hsound hh)).1 ⟨j, hj, rfl⟩
      exact ⟨d, thread, object, hd, ⟨t, es, hjournal ▸ hh⟩, hr⟩
    · rintro ⟨d, thread, object, hd, ⟨t, es, hh⟩, hr⟩
      obtain ⟨j, hj, hjournal⟩ := (runCourse_ok_iff hproper (hsound hh)).2 ⟨d, thread, object, hd, rfl, hr⟩
      exact ⟨j, hj, t, es, hjournal ▸ hh⟩
  · intro e he
    obtain ⟨j, ⟨x, hj, hx⟩, t, es, hh⟩ := hrun.1 he
    cases x with
    | ok found => cases hx
    | error e' =>
      cases hx
      exact isFinding_of_ending hproper (hsound hh) (ending_stepsCourse hj) rfl

/-! ### A run that gives a result -/

/-- the text of a profile with one sentinel and sweeps of one address, of the object alone -/
def sampleText : List Char :=
  ["\x7b\"version\": 1, \"thread_pattern\": \x7b", "\"name\": \"thread_id\", ", "\"regex\": \" tid=0x([0-9a-fA-F]+) ",
    "\", \"group\": 1\x7d, \"object_pattern\": \x7b", "\"name\": \"waiting_on_MyLock\", ", "\"regex\": \"- waiting on ",
    "<0x([0-9a-fA-F]+)> \\\\(a MyLock\\\\)\", ", "\"group\": 1\x7d, ", "\"sentinel_addresses\": [\"0x0\"], ",
    "\"sweep\": \x7b\"lookback\": 0, ", "\"count\": 1\x7d, ", "\"sweep_thread_neighborhood\": ",
    "false, \"expected_field\": \x7b", "\"name\": \"myInt\", ", "\"type_tag\": \"I\", \"value\": 12345\x7d, ",
    "\"jcmd\": \x7b\"executable\": \"jcmd\", ", "\"timeout_seconds\": 30\x7d\x7d"].flatMap String.toList

def sampleFile : List UInt8 := sampleText.map fun c => UInt8.ofNat c.toNat

def sampleProfile : Profile where
  sentinels := [0]
  sweep := { lookback := 0, count := 1 }
  sweepThreadNeighborhood := false

/-- what a process says one after the other -/
def sampleAnswer : Nat → String
  | 0 | 4 => "\"T\" tid=0x10 nid=1\n- waiting on <0x20> (a MyLock)"
  | 1 => "0x10 is a thread"
  | 2 => "0x10 is a thread\njava.lang.Thread.State: WAITING"
  | 5 | 6 => "0x20 is an oop: MyLock\n - ---- fields (total size 2 words):\n - 'myInt' 'I' @12  12345 (0x00003039)"
  | _ => "0x0: address not safe"

/-- a process that counts what it was asked -/
def sampleChannel : Channel Nat := ⟨fun _ n => ⟨.ok ⟨sampleAnswer n, 0⟩, n + 1, []⟩⟩

def sampleResult : Result where
  threadAddress := 0x10
  objectAddress := 0x20
  objectSweep := { start := 0x20, last := 0x20, probes := 1, tally := { managedObject := 1 } }
  threadSweep := none
  transitions := [⟨.threadFound, "0x10"⟩, ⟨.threadClassified, "thread, waiting"⟩, ⟨.badAddressesChecked, "0x0"⟩,
    ⟨.objectFound, "0x20"⟩, ⟨.objectClassified, "field 'myInt' 'I' = 12345 (0x3039)"⟩,
    ⟨.neighborhoodSwept, "1 probes 0x20..0x20"⟩, ⟨.done, ""⟩]

theorem ofFile_sample : Profile.ofFile .usual "profile.json" (.ok sampleFile) = .ok sampleProfile :=
  Profile.ofFile_asBytes (by decide +kernel) (by decide +kernel) (by decide +kernel)

theorem sound_sampleChannel : sampleChannel.Sound where
  fails _ _ _ h := by cases h
  legible _ n output h := by
    cases h
    have hlegible (n : Nat) : ObjectField.Legible (lines (sampleAnswer n).toList) := by
      unfold sampleAnswer
      split <;> decide +kernel
    exact hlegible n

theorem run_sample : (run sampleChannel sampleProfile {} ({}, 0)).result.toOption = some sampleResult := by
  decide +kernel

/-- a run that gives a result, and the dialogue it had -/
theorem verdict_exact_of_sample :
    Profile.ofFile .usual "profile.json" (.ok sampleFile) = .ok sampleProfile ∧ sampleChannel.Sound ∧
      Observers.Willing ({} : Observers Nat) ∧
      (run sampleChannel sampleProfile {} ({}, 0)).result = .ok sampleResult ∧
      ∃ (d : Dialogue) (thread object : Nat), d.Passes sampleProfile thread object ∧
        (∃ t es, Happens ⟨sampleChannel, {}⟩ (d.journal sampleProfile thread object) 0 t es) ∧
        sampleResult = d.result sampleProfile thread object := by
  have hverdict := (verdict_exact ofFile_sample sound_sampleChannel willing_nobody 0).1
  have hrun : (run sampleChannel sampleProfile {} ({}, 0)).result = .ok sampleResult := by
    cases h : (run sampleChannel sampleProfile {} ({}, 0)).result with
    | error e =>
      have hsample := run_sample
      rw [h] at hsample
      cases hsample
    | ok r =>
      have hsample := run_sample
      rw [h] at hsample
      cases hsample
      rfl
  exact ⟨ofFile_sample, sound_sampleChannel, willing_nobody, hrun, (hverdict _).1 hrun⟩

end DebugFind.Scenario
