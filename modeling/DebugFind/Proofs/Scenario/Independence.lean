/-
Sweeps decide nothing. A run asks for two kinds of answers: some are judged, and those about a neighborhood are only
counted (`plan` says which are which, place by place). Two runs of one profile whose judged answers are the same send
the same commands, come to the same stage with the same transitions, and fail alike or find the same, whatever was
said about the neighborhoods. Only the counts of the reports may differ (`Result.outline` leaves these out).

- `Agree`: two lists of answers that are the same where they are judged, and no failures where they are swept.
- `Course.Alike`: two courses that do the same under answers that agree. Two questions that are judged are alike because
  a course is known from its answers; two addresses of a sweep are alike because an answer changes counts alone.
- `Course.Alike.andThen`: courses in a row are alike under the plans in a row. The second parts may start with different
  results of the first ones, as long as these look the same; this is how a report goes on to the words about it.
- `sweeps_decide_nothing`: two runs, over any two channels and observers that do not fail.
-/
import DebugFind.Proofs.Scenario.Verdict

namespace DebugFind

open Scenario

variable {σ τ α β γ δ : Type}

/-! ## Answers that agree -/

/-- what an answer is for -/
inductive Purpose where
  /-- to be judged -/
  | judged
  /-- to be counted -/
  | swept
deriving DecidableEq

/-- answers agree as a plan says: place by place, two that are judged are the same, and one that is swept is no failure -/
structure Agree (plan : List Purpose) (as bs : List (Except Failure CommandOutput)) : Prop where
  judged : ∀ (i : Nat) a b, plan[i]? = some .judged → as[i]? = some a → bs[i]? = some b → a = b
  sweptLeft : ∀ (i : Nat) a, plan[i]? = some .swept → as[i]? = some a → ∃ output, a = .ok output
  sweptRight : ∀ (i : Nat) b, plan[i]? = some .swept → bs[i]? = some b → ∃ output, b = .ok output

section Agree

variable {P Q : List Purpose} {as as' bs bs' : List (Except Failure CommandOutput)}

theorem getElem?_append_of_some {l m : List α} {i : Nat} {a : α} (h : l[i]? = some a) : (l ++ m)[i]? = some a := by
  rw [List.getElem?_append_left (List.getElem?_eq_some_iff.1 h).1, h]

theorem getElem?_append_add {l m : List α} {n : Nat} (h : l.length = n) (i : Nat) : (l ++ m)[n + i]? = m[i]? := by
  rw [List.getElem?_append_right (by omega), h, Nat.add_sub_cancel_left]

/-- what agrees as two plans in a row say agrees at first as the first one says -/
theorem Agree.first (h : Agree (P ++ Q) (as ++ as') (bs ++ bs')) : Agree P as bs where
  judged i a b hp ha hb := h.judged i a b (getElem?_append_of_some hp) (getElem?_append_of_some ha)
    (getElem?_append_of_some hb)
  sweptLeft i a hp ha := h.sweptLeft i a (getElem?_append_of_some hp) (getElem?_append_of_some ha)
  sweptRight i b hp hb := h.sweptRight i b (getElem?_append_of_some hp) (getElem?_append_of_some hb)

/-- and then as the second one says, if the first one was carried out -/
theorem Agree.rest (h : Agree (P ++ Q) (as ++ as') (bs ++ bs')) (has : as.length = P.length)
    (hbs : bs.length = P.length) : Agree Q as' bs' where
  judged i a b hp ha hb := by
    apply h.judged (P.length + i) a b
    · rw [getElem?_append_add rfl, hp]
    · rw [getElem?_append_add has, ha]
    · rw [getElem?_append_add hbs, hb]
  sweptLeft i a hp ha := by
    apply h.sweptLeft (P.length + i) a
    · rw [getElem?_append_add rfl, hp]
    · rw [getElem?_append_add has, ha]
  sweptRight i b hp hb := by
    apply h.sweptRight (P.length + i) b
    · rw [getElem?_append_add rfl, hp]
    · rw [getElem?_append_add hbs, hb]

end Agree

/-! ## Courses that are alike -/

/-- two journals with their results that do the same, as far as `view` shows what they found; if they found something,
they took so many answers -/
structure Journal.Alike (taken : Nat) (view : α → γ) (j k : Journal) (r x : Except Failure α) : Prop where
  commands : j.commands = k.commands
  transitions : j.transitions = k.transitions
  results : r.map view = x.map view
  length : ∀ a, r = .ok a → j.commands.length = taken

/-- two courses that do the same if their answers agree as a plan says and nobody who is told fails -/
def Course.Alike (plan : List Purpose) (view : α → γ) (T T' : Course α) : Prop :=
  ∀ j k r x, T j r → T' k x → j.Heard → k.Heard → Agree plan j.answers k.answers →
    Journal.Alike plan.length view j k r x

section Alike

variable {P Q : List Purpose} {view : α → γ} {view' : β → δ} {T T' : Course α} {U U' : α → Course β}

/-- courses in a row have a first part, and the rest of them if that ends well -/
theorem Course.andThen_iff {j : Journal} {r : Except Failure β} :
    T.andThen U j r ↔ ∃ y j₁ j₂, j = j₁ ++ j₂ ∧ T j₁ y ∧
      match y with
      | .ok a => U a j₂ r
      | .error e => j₂ = [] ∧ r = .error e := by
  constructor
  · rintro (⟨e, rfl, hj⟩ | ⟨a, j₁, j₂, rfl, hj₁, hj₂⟩)
    · exact ⟨.error e, j, [], (List.append_nil j).symm, hj, rfl, rfl⟩
    · exact ⟨.ok a, j₁, j₂, rfl, hj₁, hj₂⟩
  · rintro ⟨y, j₁, j₂, rfl, hj₁, hj₂⟩
    cases y with
    | ok a => exact Or.inr ⟨a, j₁, j₂, rfl, hj₁, hj₂⟩
    | error e =>
      obtain ⟨rfl, rfl⟩ := hj₂
      exact Or.inl ⟨e, rfl, by rwa [List.append_nil]⟩

theorem Course.alike_still {a a' : α} (h : view a = view a') : Alike [] view (still (.ok a)) (still (.ok a')) := by
  rintro j k r x ⟨rfl, rfl⟩ ⟨rfl, rfl⟩ - - -
  exact ⟨rfl, rfl, congrArg Except.ok h, fun _ _ => rfl⟩

/-- **Courses in a row are alike under plans in a row.** -/
theorem Course.Alike.andThen (hT : Alike P view T T')
    (hU : ∀ a a', view a = view a' → Alike Q view' (U a) (U' a')) :
    Alike (P ++ Q) view' (T.andThen U) (T'.andThen U') := by
  intro j k r x hj hk hheard hheard' hagree
  obtain ⟨y, j₁, j₂, rfl, hj₁, hj₂⟩ := Course.andThen_iff.1 hj
  obtain ⟨z, k₁, k₂, rfl, hk₁, hk₂⟩ := Course.andThen_iff.1 hk
  obtain ⟨hheard₁, hheard₂⟩ := Journal.heard_append.1 hheard
  obtain ⟨hheard₁', hheard₂'⟩ := Journal.heard_append.1 hheard'
  rw [Journal.answers_append, Journal.answers_append] at hagree
  have hfirst := hT j₁ k₁ y z hj₁ hk₁ hheard₁ hheard₁' hagree.first
  have hresults := hfirst.results
  cases y with
  | error e =>
    cases z with
    | ok a' => cases hresults
    | error e' =>
      cases hresults
      obtain ⟨rfl, rfl⟩ := hj₂
      obtain ⟨rfl, rfl⟩ := hk₂
      rw [List.append_nil, List.append_nil]
      exact ⟨hfirst.commands, hfirst.transitions, rfl, fun _ h => by cases h⟩
  | ok a =>
    cases z with
    | error e' => cases hresults
    | ok a' =>
      have htaken : j₁.commands.length = P.length := hfirst.length a rfl
      have htaken' : k₁.commands.length = P.length := by rw [← hfirst.commands, htaken]
      have hrest := hU a a' (Except.ok.inj hresults) j₂ k₂ r x hj₂ hk₂ hheard₂ hheard₂'
        (hagree.rest (by rw [Journal.length_answers, htaken]) (by rw [Journal.length_answers, htaken']))
      constructor
      · rw [Journal.commands_append, Journal.commands_append, hfirst.commands, hrest.commands]
      · rw [Journal.transitions_append, Journal.transitions_append, hfirst.transitions, hrest.transitions]
      · exact hrest.results
      · intro b hb
        rw [Journal.commands_append, List.length_append, htaken, hrest.length b hb, List.length_append]

/-- results that are put into another form are alike if they look the same in it -/
theorem Course.Alike.andStill {f f' : α → β} (hT : Alike P view T T')
    (hf : ∀ a a', view a = view a' → view' (f a) = view' (f' a')) :
    Alike P view' (T.andThen fun a => still (.ok (f a))) (T'.andThen fun a => still (.ok (f' a))) := by
  have hrow := hT.andThen fun a a' h => Course.alike_still (hf a a' h)
  rwa [List.append_nil] at hrow

/-- a course of one answer that is known from it is like itself if the answer is judged -/
theorem Course.alike_of_determined
    (hknown : ∀ j k r x, T j r → T k x → (∀ a b, j.answers[0]? = some a → k.answers[0]? = some b → a = b) →
      j = k ∧ r = x)
    (hone : ∀ j a, T j (.ok a) → j.commands.length = 1) : Alike [.judged] view T T := by
  intro j k r x hj hk _ _ hagree
  obtain ⟨rfl, rfl⟩ := hknown j k r x hj hk fun a b ha hb => hagree.judged 0 a b rfl ha hb
  refine ⟨rfl, rfl, rfl, ?_⟩
  rintro a rfl
  exact hone j a hj

end Alike

/-! ## Sweeps -/

namespace Sweep

/-- a report without its counts of error statuses and classes -/
def Report.outline (r : Report) : Report := { r with errorExits := 0, tally := {} }

variable {logger : Logger} {address : Nat} {report report' : Report}

/-- one more answer adds to an outline the same, whatever was answered -/
theorem outline_add (h : report.outline = report'.outline) (response response' : ProbeResponse) :
    (report.add response).outline = (report'.add response').outline := by
  simp only [Report.outline, Report.add, Report.mk.injEq, and_true] at h ⊢
  obtain ⟨hstart, hlast, hprobes⟩ := h
  exact ⟨hstart, hlast, congrArg (· + 1) hprobes⟩

/-- an address that was answered and whose listener took the answer -/
theorem StepCourse.counted_of_heard {j : Journal} {r : Except Failure Report} (h : StepCourse logger address report j r)
    (hheard : j.Heard) (hok : ∀ a, j.answers[0]? = some a → ∃ output, a = .ok output) :
    ∃ output, j = answered logger address output (.ok ()) ∧
      r = .ok (report.add (.ofOutput address false output)) := by
  cases h with
  | unanswered e =>
    obtain ⟨output, houtput⟩ := hok (.error e) rfl
    cases houtput
  | rejected output e =>
    have htold : Deed.Heard (.told address (.ofOutput address false output) (.error e)) :=
      hheard _ (by simp [answered])
    cases htold
  | counted output => exact ⟨output, rfl, rfl⟩

/-- one address of a sweep -/
theorem alike_stepCourse (h : report.outline = report'.outline) :
    Course.Alike [.swept] Report.outline (StepCourse logger address report) (StepCourse logger address report') := by
  intro j k r x hj hk hheard hheard' hagree
  obtain ⟨output, rfl, rfl⟩ := hj.counted_of_heard hheard fun a ha => hagree.sweptLeft 0 a rfl ha
  obtain ⟨output', rfl, rfl⟩ := hk.counted_of_heard hheard' fun b hb => hagree.sweptRight 0 b rfl hb
  exact ⟨rfl, rfl, congrArg Except.ok (outline_add h _ _), fun _ _ => rfl⟩

/-- all addresses of a sweep -/
theorem alike_probesCourse (h : report.outline = report'.outline) (count : Nat) :
    Course.Alike (List.replicate count .swept) Report.outline (ProbesCourse logger address count report)
      (ProbesCourse logger address count report') := by
  induction count generalizing address report report' with
  | zero => exact Course.alike_still h
  | succ count ih =>
    rw [List.replicate_succ]
    exact (alike_stepCourse h).andThen fun _ _ hadded => ih hadded

/-- a sweep that is laid out goes over all its addresses, and one that is not asks for none -/
theorem alike_neighborhoodCourse (logger : Logger) (knownGood lookback count : Int) :
    Course.Alike (List.replicate count.toNat .swept) Report.outline
      (NeighborhoodCourse logger knownGood lookback count) (NeighborhoodCourse logger knownGood lookback count) := by
  intro j k r x hj hk hheard hheard' hagree
  cases hj with
  | refused e h =>
    cases hk with
    | refused e' h' =>
      rw [h] at h'
      cases h'
      exact ⟨rfl, rfl, rfl, fun _ hr => by cases hr⟩
    | laidOut range h' =>
      rw [h] at h'
      cases h'
  | laidOut range h j r hj =>
    cases hk with
    | refused e h' =>
      rw [h] at h'
      cases h'
    | laidOut range' h' k x hk =>
      rw [h] at h'
      cases h'
      rw [← (reach_of_layOut h).2] at hagree ⊢
      have hprobes := alike_probesCourse rfl range.count j k r x hj hk (fun d hd => hheard d (List.mem_cons_of_mem _ hd))
        (fun d hd => hheard' d (List.mem_cons_of_mem _ hd)) hagree
      exact ⟨hprobes.commands, hprobes.transitions, hprobes.results, hprobes.length⟩

end Sweep

namespace Scenario

/-! ## Questions and judgements -/

theorem alike_findCourse (pattern : ExtractionPattern) :
    Course.Alike [.judged] id (FindCourse pattern) (FindCourse pattern) := by
  refine Course.alike_of_determined (fun j k r x hj hk hsame => ?_) fun j a hj => ?_
  · cases hj with
    | unanswered e =>
      cases hk <;> cases hsame _ _ rfl rfl
      exact ⟨rfl, rfl⟩
    | absent output f h =>
      cases hk with
      | unanswered => cases hsame _ _ rfl rfl
      | absent _ f' h' =>
        cases hsame _ _ rfl rfl
        rw [h] at h'
        cases h'
        exact ⟨rfl, rfl⟩
      | found _ _ _ h' =>
        cases hsame _ _ rfl rfl
        rw [h] at h'
        cases h'
    | found output address line h =>
      cases hk with
      | unanswered => cases hsame _ _ rfl rfl
      | absent _ _ h' =>
        cases hsame _ _ rfl rfl
        rw [h] at h'
        cases h'
      | found _ _ _ h' =>
        cases hsame _ _ rfl rfl
        rw [h] at h'
        cases h'
        exact ⟨rfl, rfl⟩
  · cases hj with
    | found => rfl

theorem alike_checkCourse (address : Int) (expected : Classification) (verbose : Bool)
    (field : Option FieldExpectation) :
    Course.Alike [.judged] id (CheckCourse address expected verbose field)
      (CheckCourse address expected verbose field) := by
  refine Course.alike_of_determined (fun j k r x hj hk hsame => ?_) fun j a hj => ?_
  · cases hj with
    | unwritten h =>
      cases hk with
      | unwritten => exact ⟨rfl, rfl⟩
      | unanswered h' => exact absurd h' h
      | judged h' => exact absurd h' h
    | unanswered h e =>
      cases hk with
      | unwritten h' => exact absurd h h'
      | unanswered =>
        cases hsame _ _ rfl rfl
        exact ⟨rfl, rfl⟩
      | judged => cases hsame _ _ rfl rfl
    | judged h output _ hr =>
      cases hk with
      | unwritten h' => exact absurd h h'
      | unanswered => cases hsame _ _ rfl rfl
      | judged _ _ _ hx =>
        cases hsame _ _ rfl rfl
        exact ⟨rfl, hr.symm.trans hx⟩
  · cases hj with
    | judged => rfl

theorem alike_sentinelsCourse (sentinels : List Int) :
    Course.Alike (List.replicate sentinels.length .judged) id (SentinelsCourse sentinels)
      (SentinelsCourse sentinels) := by
  induction sentinels with
  | nil => exact Course.alike_still rfl
  | cons a rest ih => exact (alike_checkCourse a .notSafe false none).andThen fun _ _ _ => ih

theorem alike_sweepCourse (settings : SweepSettings) (address : Nat) :
    Course.Alike (List.replicate settings.count .swept) Sweep.Report.outline (SweepCourse settings address)
      (SweepCourse settings address) := by
  have hsweep := Sweep.alike_neighborhoodCourse .scenario address settings.lookback settings.count
  rwa [Int.toNat_natCast] at hsweep

/-! ## Phases -/

/-- the announcement of a stage with these words, if they can be written -/
def announced (stage : Stage) : Except Failure String → Journal
  | .ok text => announcement ⟨stage, text⟩ (.ok ())
  | .error _ => []

/-- a phase whose announcement was heard -/
theorem PhaseCourse.exists_body {stage : Stage} {T : Course α} {detail : α → Except Failure String} {j : Journal}
    {r : Except Failure α} (h : PhaseCourse stage T detail j r) (hheard : j.Heard) :
    ∃ body y, T body y ∧ j = body ++ announced stage (y.bind detail) ∧
      r = y.bind fun a => (detail a).map fun _ => a := by
  cases h with
  | stopped _ e h => exact ⟨j, .error e, h, (List.append_nil j).symm, rfl⟩
  | unwritten _ a e h hd =>
    refine ⟨j, .ok a, h, ?_, ?_⟩
    · simp [Except.bind, hd, announced]
    · simp [Except.bind, hd, Except.map]
  | vetoed body a text e h hd =>
    have hannounced : Deed.Heard (.announced ⟨stage, text⟩ (.error e)) := hheard _ (by simp [announcement])
    cases hannounced
  | reached body a text h hd =>
    refine ⟨body, .ok a, h, ?_, ?_⟩
    · simp [Except.bind, hd, announced]
    · simp [Except.bind, hd, Except.map]

/-- phases are alike if their bodies are and what they found is put into the same words -/
theorem alike_phaseCourse {plan : List Purpose} {view : α → γ} {stage : Stage} {T T' : Course α}
    {detail : α → Except Failure String} (hT : Course.Alike plan view T T')
    (hdetail : ∀ a a', view a = view a' → detail a = detail a') :
    Course.Alike plan view (PhaseCourse stage T detail) (PhaseCourse stage T' detail) := by
  intro j k r x hj hk hheard hheard' hagree
  obtain ⟨body, y, hbody, rfl, rfl⟩ := hj.exists_body hheard
  obtain ⟨body', z, hbody', rfl, rfl⟩ := hk.exists_body hheard'
  have hsilent (words : Except Failure String) :
      Journal.commands (announced stage words) = [] ∧ Journal.answers (announced stage words) = [] := by
    cases words <;> exact ⟨rfl, rfl⟩
  rw [Journal.answers_append, Journal.answers_append, (hsilent _).2, (hsilent _).2, List.append_nil,
    List.append_nil] at hagree
  have hsame := hT body body' y z hbody hbody' (Journal.heard_append.1 hheard).1 (Journal.heard_append.1 hheard').1
    hagree
  have hresults := hsame.results
  have hwords : y.bind detail = z.bind detail ∧
      (y.bind fun a => (detail a).map fun _ => a).map view = (z.bind fun a => (detail a).map fun _ => a).map view := by
    cases y with
    | error e =>
      cases z with
      | ok a' => cases hresults
      | error e' =>
        cases hresults
        exact ⟨rfl, rfl⟩
    | ok a =>
      cases z with
      | error e' => cases hresults
      | ok a' =>
        have hview : view a = view a' := Except.ok.inj hresults
        have hsaid : detail a = detail a' := hdetail a a' hview
        refine ⟨hsaid, ?_⟩
        simp only [Except.bind, hsaid]
        cases detail a' with
        | error e => rfl
        | ok text => exact congrArg Except.ok hview
  constructor
  · rw [Journal.commands_append, Journal.commands_append, (hsilent _).1, (hsilent _).1, hsame.commands]
  · rw [Journal.transitions_append, Journal.transitions_append, hsame.transitions, hwords.1]
  · exact hwords.2
  · intro a ha
    cases y with
    | error e => cases ha
    | ok b =>
      rw [Journal.commands_append, (hsilent _).1, List.append_nil]
      exact hsame.length b rfl

/-! ## The run -/

/-- what a run has found without what its sweeps counted -/
def Result.outline (r : Result) : Result :=
  { r with objectSweep := r.objectSweep.outline, threadSweep := r.threadSweep.map Sweep.Report.outline }

/-- what the answers about a thread are for -/
def threadPlan (profile : Profile) : List Purpose :=
  [.judged] ++ ([.judged] ++ if profile.sweepThreadNeighborhood then List.replicate profile.sweep.count .swept else [])

/-- what the answers of a run are for, in order: a listing and the thread, the sentinels, a listing and the object, and
the neighborhood of the object -/
def plan (profile : Profile) : List Purpose :=
  [.judged] ++ (threadPlan profile ++ (List.replicate profile.sentinels.length .judged ++ ([.judged] ++ ([.judged] ++
    List.replicate profile.sweep.count .swept))))

/-- what the answers to a task are for -/
def Task.purposes (settings : SweepSettings) : Task → List Purpose
  | .list _ | .check .. => [.judged]
  | .sweep _ => List.replicate settings.count .swept

/-- the plan is that of the agenda, whatever thread and object a run finds -/
theorem purposes_agenda (profile : Profile) (thread object : Nat) :
    ((agenda profile (some thread) (some object)).flatMap fun entry => entry.1.purposes profile.sweep) =
      plan profile := by
  have hsentinels (sentinels : List Int) :
      ((sentinelTasks .threadClassified sentinels).flatMap fun entry => entry.1.purposes profile.sweep) =
        List.replicate sentinels.length .judged := by
    induction sentinels with
    | nil => rfl
    | cons a rest ih => exact congrArg (Purpose.judged :: ·) ih
  have hthread : ((threadTasks profile .threadFound thread).flatMap fun entry => entry.1.purposes profile.sweep) =
      threadPlan profile := by
    unfold threadTasks threadPlan
    split_ifs <;> simp [Task.purposes]
  simp only [agenda, Option.elim_some, List.flatMap_cons, List.flatMap_append, hthread, hsentinels]
  simp [plan, Task.purposes]

theorem alike_threadCourse (profile : Profile) (thread : Nat) :
    Course.Alike (threadPlan profile) (Option.map Sweep.Report.outline) (ThreadCourse profile thread)
      (ThreadCourse profile thread) := by
  refine (alike_checkCourse _ _ _ _).andThen fun _ _ _ => (alike_checkCourse _ _ _ _).andThen fun _ _ _ => ?_
  split_ifs
  · exact (alike_sweepCourse _ _).andStill fun _ _ h => congrArg some h
  · exact Course.alike_still rfl

theorem alike_done : Course.Alike [] id Done Done := alike_phaseCourse (Course.alike_still rfl) fun _ _ _ => rfl

/-- all steps -/
theorem alike_stepsCourse (profile : Profile) :
    Course.Alike (plan profile) (fun found ts => (found ts).outline) (StepsCourse profile) (StepsCourse profile) := by
  have hwords {report report' : Sweep.Report} (h : report.outline = report'.outline) :
      sweepDetail report = sweepDetail report' :=
    calc sweepDetail report = sweepDetail report.outline := rfl
      _ = sweepDetail report'.outline := by rw [h]
      _ = sweepDetail report' := rfl
  refine (alike_phaseCourse (alike_findCourse _) ?_).andThen ?_
  · rintro _ _ rfl
    rfl
  rintro thread _ rfl
  refine (alike_phaseCourse (alike_threadCourse profile thread) fun _ _ _ => rfl).andThen fun report report' hreport => ?_
  refine (alike_phaseCourse (alike_sentinelsCourse _) fun _ _ _ => rfl).andThen fun _ _ _ => ?_
  refine (alike_phaseCourse (alike_findCourse _) ?_).andThen ?_
  · rintro _ _ rfl
    rfl
  rintro object _ rfl
  refine (alike_phaseCourse (alike_checkCourse _ _ _ _) fun _ _ _ => rfl).andThen fun _ _ _ => ?_
  rw [← List.append_nil (List.replicate _ _)]
  refine (alike_phaseCourse (alike_sweepCourse _ _) fun _ _ h => by rw [hwords h]).andThen fun swept swept' hswept => ?_
  refine alike_done.andStill fun _ _ _ => ?_
  funext ts
  simp only [Result.outline, hreport, hswept, id]

/-- **Sweeps decide nothing.** Take two runs of one profile, over any two channels and any observers that do not fail.
If the judged answers of both conversations are the same, place by place, and no swept answer is a failure, then both
runs send the same commands, come to the same stage with the same transitions, and fail with the same failure or find
the same; only the error statuses and the classes that their reports count may differ. -/
theorem sweeps_decide_nothing (profile : Profile) {first : Surroundings σ} {second : Surroundings τ}
    (hfirst : first.observers.Willing) (hsecond : second.observers.Willing) (s : σ) (t : τ)
    (hagree : Agree (plan profile) (conversation first profile s).answers (conversation second profile t).answers) :
    let one := run first.channel profile first.observers ({}, s)
    let other := run second.channel profile second.observers ({}, t)
    (conversation first profile s).commands = (conversation second profile t).commands ∧
      one.world.1 = other.world.1 ∧ one.result.map Result.outline = other.result.map Result.outline := by
  intro one other
  obtain ⟨j, ⟨x, hj, hx⟩, hconversation, hprogress, hhappens⟩ := exists_runCourse first profile s
  obtain ⟨k, ⟨y, hk, hy⟩, hconversation', hprogress', hhappens'⟩ := exists_runCourse second profile t
  rw [hconversation, hconversation', Journal.answers_outward, Journal.answers_outward] at hagree
  have hsame := alike_stepsCourse profile j k x y hj hk (heard_of_happens hfirst hhappens)
    (heard_of_happens hsecond hhappens') hagree
  have hresults := hsame.results
  refine ⟨?_, ?_, ?_⟩
  · rw [hconversation, hconversation', Journal.commands_outward, Journal.commands_outward, hsame.commands]
  · show (run first.channel profile first.observers ({}, s)).world.1 = _
    rw [hprogress, hprogress', Progress.after, Progress.after, hsame.transitions]
  · show (run first.channel profile first.observers ({}, s)).result.map _ = _
    rw [hx, hy, hsame.transitions]
    cases x with
    | error e =>
      cases y with
      | ok found' => cases hresults
      | error e' =>
        cases hresults
        rfl
    | ok found =>
      cases y with
      | error e' => cases hresults
      | ok found' => exact congrArg Except.ok (congrFun (Except.ok.inj hresults) _)

/-! ### Two runs with different sweeps -/

/-- what a process says one after the other that forgets the object before its neighborhood is swept -/
def forgetfulAnswer (n : Nat) : CommandOutput :=
  if n = 6 then ⟨"0x20: address not safe", 1⟩ else ⟨sampleAnswer n, 0⟩

def forgetfulChannel : Channel Nat := ⟨fun _ n => ⟨.ok (forgetfulAnswer n), n + 1, []⟩⟩

theorem answers_sample : (conversation ⟨sampleChannel, {}⟩ sampleProfile 0).answers =
    ((List.range 7).map fun n => CommandOutput.mk (sampleAnswer n) 0).map .ok := by
  decide +kernel

theorem answers_forgetful : (conversation ⟨forgetfulChannel, {}⟩ sampleProfile 0).answers =
    ((List.range 7).map forgetfulAnswer).map .ok := by
  decide +kernel

theorem errorExits_sample :
    (run sampleChannel sampleProfile {} ({}, 0)).result.toOption.map (·.objectSweep.errorExits) = some 0 := by
  rw [run_sample]
  rfl

theorem errorExits_forgetful :
    (run forgetfulChannel sampleProfile {} ({}, 0)).result.toOption.map (·.objectSweep.errorExits) = some 1 := by
  decide +kernel

/-- answers that are no failures agree if those that are judged are the same -/
theorem agree_of_outputs {plan : List Purpose} {outputs outputs' : List CommandOutput}
    (h : ∀ i < plan.length, plan[i]? = some .judged → outputs[i]? = outputs'[i]?) :
    Agree plan (outputs.map .ok) (outputs'.map .ok) := by
  constructor
  · intro i a b hp ha hb
    rw [List.getElem?_map, h i (List.getElem?_eq_some_iff.1 hp).1 hp, ← List.getElem?_map, hb] at ha
    exact Option.some.inj ha.symm
  · intro i a _ ha
    obtain ⟨output, -, rfl⟩ := List.mem_map.1 (List.mem_of_getElem? ha)
    exact ⟨output, rfl⟩
  · intro i b _ hb
    obtain ⟨output, -, rfl⟩ := List.mem_map.1 (List.mem_of_getElem? hb)
    exact ⟨output, rfl⟩

/-- two runs that sweep the very address of the object, with different answers, and find the same but for the counts -/
theorem sweeps_decide_nothing_of_sample :
    Observers.Willing ({} : Observers Nat) ∧
      Agree (plan sampleProfile) (conversation ⟨sampleChannel, {}⟩ sampleProfile 0).answers
        (conversation ⟨forgetfulChannel, {}⟩ sampleProfile 0).answers ∧
      (run sampleChannel sampleProfile {} ({}, 0)).result.toOption.map (·.objectSweep.errorExits) = some 0 ∧
      (run forgetfulChannel sampleProfile {} ({}, 0)).result.toOption.map (·.objectSweep.errorExits) = some 1 ∧
      (run sampleChannel sampleProfile {} ({}, 0)).result.map Result.outline =
        (run forgetfulChannel sampleProfile {} ({}, 0)).result.map Result.outline := by
  have hagree : Agree (plan sampleProfile) (conversation ⟨sampleChannel, {}⟩ sampleProfile 0).answers
      (conversation ⟨forgetfulChannel, {}⟩ sampleProfile 0).answers := by
    rw [answers_sample, answers_forgetful]
    exact agree_of_outputs (by decide +kernel)
  have hwilling (channel : Channel Nat) : Observers.Willing (Surroundings.mk channel {}).observers := willing_nobody
  have hsame := sweeps_decide_nothing sampleProfile (hwilling sampleChannel) (hwilling forgetfulChannel) 0 0 hagree
  exact ⟨willing_nobody, hagree, errorExits_sample, errorExits_forgetful, hsame.2.2⟩

end Scenario

end DebugFind
