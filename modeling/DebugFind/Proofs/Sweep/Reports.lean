/-
The report of a complete sweep as a function of its answers, and what a complete sweep looks like from outside: a
sweep ends with a report exactly if it does not reach below zero and every address was answered
(`shown_neighborhoodCourse_ok`).
-/
import DebugFind.Proofs.Sweep.Accounting

namespace DebugFind

variable {α β : Type}

namespace Course

/-- a course as it is seen from outside, without the records -/
def shown (T : Course α) : Course α := fun k r => ∃ j, T j r ∧ k = Journal.outward j

theorem shown_andThen_ok {T : Course α} {U : α → Course β} {k : Journal} {b : β} :
    (T.andThen U).shown k (.ok b) ↔
      ∃ a k₁ k₂, k = k₁ ++ k₂ ∧ T.shown k₁ (.ok a) ∧ (U a).shown k₂ (.ok b) := by
  constructor
  · rintro ⟨j, hj, rfl⟩
    obtain ⟨a, j₁, j₂, rfl, h₁, h₂⟩ := andThen_ok_iff.1 hj
    exact ⟨a, _, _, Journal.outward_append j₁ j₂, ⟨j₁, h₁, rfl⟩, ⟨j₂, h₂, rfl⟩⟩
  · rintro ⟨a, _, _, rfl, ⟨j₁, h₁, rfl⟩, ⟨j₂, h₂, rfl⟩⟩
    exact ⟨j₁ ++ j₂, andThen_ok_iff.2 ⟨a, j₁, j₂, rfl, h₁, h₂⟩, (Journal.outward_append j₁ j₂).symm⟩

theorem shown_still_ok {a b : α} {k : Journal} : (still (.ok a)).shown k (.ok b) ↔ k = [] ∧ b = a := by
  constructor
  · rintro ⟨_, ⟨rfl, h⟩, rfl⟩
    cases h
    exact ⟨rfl, rfl⟩
  · rintro ⟨rfl, rfl⟩
    exact ⟨[], ⟨rfl, rfl⟩, rfl⟩

end Course

namespace Sweep

/-- how many answers are of each class -/
def Tally.ofAnswers (answers : List CommandOutput) : Tally where
  thread := answers.countP fun output => Classification.ofText output.text = .thread
  managedObject := answers.countP fun output => Classification.ofText output.text = .managedObject
  notSafe := answers.countP fun output => Classification.ofText output.text = .notSafe
  unknown := answers.countP fun output => Classification.ofText output.text = .unknown

/-- the report of a sweep with these answers, from an address on -/
def Report.ofAnswers (start : Nat) (answers : List CommandOutput) : Report where
  start := start
  last := start + answers.length - 1
  probes := answers.length
  errorExits := answers.countP fun output => output.exitStatus ≠ 0
  tally := .ofAnswers answers

/-- a report is known from its first and last address and the answers that it counts -/
theorem Report.Counts.eq_ofAnswers {report : Report} {answers : List CommandOutput} {start : Nat}
    (h : report.Counts answers) (first : report.start = start) (last : report.last = start + answers.length - 1) :
    report = .ofAnswers start answers := by
  obtain ⟨first', last', probes, errorExits, thread, managedObject, notSafe, unknown⟩ := report
  have hthread := h.tally .thread
  have hobject := h.tally .managedObject
  have hnotSafe := h.tally .notSafe
  have hunknown := h.tally .unknown
  have hprobes := h.probes
  have hexits := h.errorExits
  simp only [Tally.count] at first last hthread hobject hnotSafe hunknown hprobes hexits
  simp only [Report.ofAnswers, Tally.ofAnswers, first, last, hprobes, hexits, hthread, hobject, hnotSafe, hunknown]

theorem served_injective {start : Int} {answers answers' : List CommandOutput}
    (h : served start answers = served start answers') : answers = answers' := by
  induction answers generalizing start answers' with
  | nil =>
    cases answers' with
    | nil => rfl
    | cons => cases h
  | cons output answers ih =>
    cases answers' with
    | nil => cases h
    | cons output' answers' =>
      simp only [served, List.cons.injEq, Deed.asked.injEq, Except.ok.injEq] at h
      rw [h.1.2, ih h.2.2]

/-- answers for all addresses make a complete course -/
theorem exists_probesCourse (logger : Logger) (address : Nat) (answers : List CommandOutput) (report : Report) :
    ∃ report', (ProbesCourse logger address answers.length report).shown (served address answers) (.ok report') := by
  induction answers generalizing address report with
  | nil => exact ⟨report, [], ⟨rfl, rfl⟩, rfl⟩
  | cons output answers ih =>
    obtain ⟨report', hrest⟩ := ih (address + 1) (report.add (.ofOutput address false output))
    exact ⟨report', Course.shown_andThen_ok.2 ⟨_, _, _, rfl, ⟨_, .counted output, rfl⟩, hrest⟩⟩

theorem Account.eq_ofAnswers {logger : Logger} {start : Int} {count : Nat} {answers : List CommandOutput} {j : Journal}
    {rs : List Record} {report : Report} (h : Account logger start count answers j rs (.ok report))
    (hcount : 0 < count) :
    report = .ofAnswers start.toNat answers := by
  cases h with
  | complete _ all first last counts => exact counts.eq_ofAnswers (by omega) (by omega)

/-- **A sweep seen from outside.** It ends with a report exactly if it does not reach below zero and every address was
answered, and the report is that of the answers. -/
theorem shown_neighborhoodCourse_ok {logger : Logger} {knownGood lookback count : Int} (hlookback : 0 ≤ lookback)
    (hcount : 1 ≤ count) {k : Journal} {report : Report} :
    (NeighborhoodCourse logger knownGood lookback count).shown k (.ok report) ↔
      lookback ≤ knownGood ∧ ∃ answers : List CommandOutput, answers.length = count.toNat ∧
        k = served (knownGood - lookback) answers ∧ report = .ofAnswers (knownGood - lookback).toNat answers := by
  constructor
  · rintro ⟨j, hj, rfl⟩
    have hknown : lookback ≤ knownGood := by
      cases hj with
      | laidOut range hrange => exact (reach_of_layOut hrange).1
    obtain ⟨answers, haccount⟩ := account_of_neighborhoodCourse hlookback hcount hknown hj
    obtain ⟨all, hserved⟩ := haccount.eq_served
    exact ⟨hknown, answers, all, hserved, haccount.eq_ofAnswers (by omega)⟩
  · rintro ⟨hknown, answers, all, rfl, rfl⟩
    have hrange := layOut_eq_ok hlookback hcount hknown
    have hstart : ((knownGood - lookback).toNat : Int) = knownGood - lookback := Int.toNat_of_nonneg (by omega)
    obtain ⟨report', j, hj, hshown⟩ := exists_probesCourse logger (knownGood - lookback).toNat answers
      ⟨(knownGood - lookback).toNat, Range.last ⟨(knownGood - lookback).toNat, count.toNat, by omega⟩, 0, 0, {}⟩
    rw [hstart] at hshown
    rw [all] at hj
    have hcourse : NeighborhoodCourse logger knownGood lookback count _ (.ok report') := .laidOut _ hrange j _ hj
    obtain ⟨answers', haccount⟩ := account_of_neighborhoodCourse hlookback hcount hknown hcourse
    have hsame : answers = answers' := served_injective (hshown.trans haccount.eq_served.2)
    rw [hsame, ← haccount.eq_ofAnswers (by omega), ← hsame]
    exact ⟨_, hcourse, hshown⟩

end Sweep

end DebugFind
