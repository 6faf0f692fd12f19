/-
Binding a scenario to a virtual machine through its launcher. The launcher prints a header line before each answer,
and takes a command as its words. Neither changes what a scenario does: a run over the launcher is the run over the
channel that gives the answers as they are, but for the header in the texts.

- `Header` is a line that no marker can stand in; `check_behind`, `locate_behind` and `ofText_behind` say that a text
  is judged behind a header as it is judged without.
- `Steady`: with a course, everything in it may stand behind a header. `steady_runCourse` says so of runs.
- `happens_bound`: what happens with a channel of answers happens behind the header with the launcher, one launch for
  each command.
- `run_bound`: so the runs end alike.
-/
import DebugFind.Proofs.Classification
import DebugFind.Proofs.Jcmd
import DebugFind.Proofs.Scenario.Course

namespace DebugFind

open DebugFind.Text DebugFind.Numeral DebugFind.Scenario

variable {σ α β : Type}

/-! ## Headers -/

/-- a line that can stand before an answer without being taken for a part of it -/
structure Header where
  line : List Char
  unbroken : ∀ c ∈ line, isLineBreak c = false
  spaceless : ' ' ∉ line

namespace Header

variable (h : Header)

/-- a text behind the header -/
def behind (text : String) : String := String.ofList (h.line ++ '\n' :: text.toList)

/-- a failure with its text behind the header -/
def failure : Failure → Failure
  | .extraction f => .extraction { f with text := h.behind f.text }
  | .mismatch m => .mismatch { m with text := h.behind m.text }
  | e => e

/-- an output with its text behind the header -/
def output (o : CommandOutput) : CommandOutput := { o with text := h.behind o.text }

/-- a deed with every text behind the header -/
def deed : Deed → Deed
  | .asked command answer => .asked command ((answer.map h.output).mapError h.failure)
  | .told address response reply =>
    .told address { response with text := h.behind response.text } (reply.mapError h.failure)
  | .announced t reply => .announced t (reply.mapError h.failure)
  | .noted record => .noted record

variable {h}

theorem toList_behind (text : String) : (h.behind text).toList = h.line ++ '\n' :: text.toList := String.toList_ofList

theorem contains_behind {marker : String} (hline : '\n' ∉ marker.toList) (hspace : ' ' ∈ marker.toList)
    (text : String) : contains (h.behind text) marker = contains text marker := by
  rw [contains, toList_behind]
  exact occurs_behind hline ⟨' ', hspace, h.spaceless⟩ text.toList

theorem fields_behind (text : String) : ObjectField.ofText (h.behind text) = ObjectField.ofText text := by
  have hheader : occurs ObjectField.headerMarker.toList h.line = false :=
    occurs_eq_false ⟨' ', by decide, h.spaceless⟩
  rw [ObjectField.ofText, toList_behind, lines_behind h.unbroken, ObjectField.ofLines, if_neg (by simp [hheader]),
    if_neg (by simp)]
  rfl

/-! ## Judgements behind a header -/

/-- the markers of all classes -/
def markers : List String :=
  [Classification.threadMarker, Classification.waitingMarker, Classification.objectMarker, Classification.fieldsMarker,
    Classification.notSafeMarker]

theorem required_subset (expected : Classification) (verbose : Bool) : expected.required verbose ⊆ markers := by
  cases expected <;> cases verbose <;> decide

theorem forbidden_subset (expected : Classification) : expected.forbidden ⊆ markers := by
  cases expected <;> decide

/-- no marker stands in a header or reaches over its end -/
theorem marker_behind {marker : String} (hmarker : marker ∈ markers) (text : String) :
    contains (h.behind text) marker = contains text marker := by
  have hshape : ∀ marker ∈ markers, '\n' ∉ marker.toList ∧ ' ' ∈ marker.toList := by decide
  exact contains_behind (hshape marker hmarker).1 (hshape marker hmarker).2 text

theorem ofText_behind (text : String) : Classification.ofText (h.behind text) = Classification.ofText text := by
  rw [Classification.ofText, marker_behind (by decide), marker_behind (by decide), marker_behind (by decide)]
  rfl

/-- what an assertion finds wrong is the same behind a header -/
theorem differences_behind (text : String) (expected : Classification) (verbose : Bool)
    (field : Option FieldExpectation) :
    Classification.differences (h.behind text) expected verbose field =
      (Classification.differences text expected verbose field).map fun m => { m with text := h.behind m.text } := by
  have hmissing : Classification.absentField (h.behind text) expected field =
      Classification.absentField text expected field := by
    cases field <;> simp only [Classification.absentField, Classification.missingField, fields_behind]
  have hrequired : (expected.required verbose).filter (!contains (h.behind text) ·) =
      (expected.required verbose).filter (!contains text ·) :=
    List.filter_congr fun marker hm => by rw [marker_behind (required_subset expected verbose hm)]
  have hforbidden : expected.forbidden.filter (contains (h.behind text) ·) =
      expected.forbidden.filter (contains text ·) :=
    List.filter_congr fun marker hm => by rw [marker_behind (forbidden_subset expected hm)]
  rw [Classification.differences_eq, Classification.differences_eq, hmissing, hrequired, hforbidden]
  cases Classification.absentField text expected field <;> rfl

theorem check_behind (text : String) (expected : Classification) (verbose : Bool) (field : Option FieldExpectation) :
    expected.check (h.behind text) verbose field = (expected.check text verbose field).mapError h.failure := by
  rw [Classification.check, Classification.check, differences_behind]
  split_ifs
  · rfl
  · cases Classification.differences text expected verbose field with
    | error e => rfl
    | ok m =>
      simp only [Except.map]
      split_ifs <;> rfl

/-- a pattern that does not match the header finds the same address behind it -/
theorem locate_behind {pattern : ExtractionPattern} (hpattern : pattern.captureIn? h.line = none) (text : String) :
    pattern.locate (h.behind text) = (pattern.locate text).mapError fun f => { f with text := h.behind f.text } := by
  rw [ExtractionPattern.locate, ExtractionPattern.locate, toList_behind, lines_behind h.unbroken,
    ExtractionPattern.firstMatch?, hpattern]
  simp only
  split
  · rfl
  · split
    · split_ifs <;> rfl
    · rfl

end Header

/-! ## Courses behind a header -/

/-- with every journal of the course, the same behind a header -/
def Course.Steady (h : Header) (T : Course α) : Prop := ∀ j r, T j r → T (j.map h.deed) (r.mapError h.failure)

section Steady

variable {h : Header} {T : Course α}

theorem Course.steady_still {x : Except Failure α} (hx : x.mapError h.failure = x) : (Course.still x).Steady h := by
  rintro j r ⟨rfl, rfl⟩
  exact ⟨rfl, hx⟩

theorem Course.Steady.andThen {U : α → Course β} (hT : T.Steady h) (hU : ∀ a, (U a).Steady h) :
    (T.andThen U).Steady h := by
  rintro j r (⟨e, rfl, hj⟩ | ⟨a, j₁, j₂, rfl, h₁, h₂⟩)
  · exact Or.inl ⟨h.failure e, rfl, hT j _ hj⟩
  · exact Or.inr ⟨a, _, _, List.map_append, hT j₁ _ h₁, hU a j₂ _ h₂⟩

theorem steady_findCourse {pattern : ExtractionPattern} (hpattern : pattern.captureIn? h.line = none) :
    (FindCourse pattern).Steady h := by
  intro j r hj
  cases hj with
  | unanswered e => exact .unanswered (h.failure e)
  | absent output f hf =>
    refine .absent (h.output output) { f with text := h.behind f.text } ?_
    rw [Header.output, Header.locate_behind hpattern, hf]
    rfl
  | found output address line hf =>
    refine .found (h.output output) address line ?_
    rw [Header.output, Header.locate_behind hpattern, hf]
    rfl

theorem steady_checkCourse (address : Int) (expected : Classification) (verbose : Bool)
    (field : Option FieldExpectation) : (CheckCourse address expected verbose field).Steady h := by
  intro j r hj
  cases hj with
  | unwritten hw => exact .unwritten hw
  | unanswered hw e => exact .unanswered hw (h.failure e)
  | judged hw output r hr =>
    refine .judged hw (h.output output) _ ?_
    rw [Header.output, Header.check_behind, hr]

theorem steady_sentinelsCourse (sentinels : List Int) : (SentinelsCourse sentinels).Steady h := by
  induction sentinels with
  | nil => exact Course.steady_still rfl
  | cons a rest ih => exact (steady_checkCourse a .notSafe false none).andThen fun _ => ih

/-- an answer counts in the same way behind a header -/
theorem add_behind (report : Sweep.Report) (address : Int) (output : CommandOutput) :
    report.add (.ofOutput address false (h.output output)) = report.add (.ofOutput address false output) := by
  simp only [Sweep.Report.add, ProbeResponse.ofOutput, Header.output, Header.ofText_behind]
  rfl

theorem map_answered (logger : Logger) (address : Int) (output : CommandOutput) (reply : Except Failure Unit) :
    (Sweep.answered logger address output reply).map h.deed =
      Sweep.answered logger address (h.output output) (reply.mapError h.failure) := by
  have hrecord : Sweep.answerRecord logger address (h.output output) = Sweep.answerRecord logger address output := by
    simp only [Sweep.answerRecord, Header.output, Header.ofText_behind]
  rw [Sweep.answered, Sweep.answered, hrecord]
  rfl

theorem steady_stepCourse (logger : Logger) (address : Nat) (report : Sweep.Report) :
    (Sweep.StepCourse logger address report).Steady h := by
  intro j r hj
  cases hj with
  | unanswered e => exact .unanswered (h.failure e)
  | rejected output e =>
    rw [map_answered]
    exact .rejected (h.output output) (h.failure e)
  | counted output =>
    rw [map_answered, ← add_behind]
    exact .counted (h.output output)

theorem steady_probesCourse (logger : Logger) (address count : Nat) (report : Sweep.Report) :
    (Sweep.ProbesCourse logger address count report).Steady h := by
  induction count generalizing address report with
  | zero => exact Course.steady_still rfl
  | succ count ih => exact (steady_stepCourse logger address report).andThen (ih (address + 1))

theorem layOut_behind (knownGood lookback count : Int) :
    (Sweep.layOut knownGood lookback count).mapError h.failure = Sweep.layOut knownGood lookback count := by
  rw [Sweep.layOut]
  split_ifs
  · rfl
  · cases Numeral.write lookback <;> rfl
  · rfl
  · rfl

theorem steady_sweepCourse (settings : SweepSettings) (address : Nat) : (SweepCourse settings address).Steady h := by
  intro j r hj
  cases hj with
  | refused e hlayout =>
    have hsame := layOut_behind (h := h) address settings.lookback settings.count
    rw [hlayout] at hsame
    have he : h.failure e = e := Except.error.inj hsame
    rw [Except.mapError, he]
    exact .refused e hlayout
  | laidOut range hlayout j r hj => exact .laidOut range hlayout _ _ (steady_probesCourse _ _ _ _ j r hj)

theorem steady_threadCourse (profile : Profile) (thread : Nat) : (ThreadCourse profile thread).Steady h := by
  refine (steady_checkCourse _ _ _ _).andThen fun _ => (steady_checkCourse _ _ _ _).andThen fun _ => ?_
  split_ifs
  · exact (steady_sweepCourse _ _).andThen fun _ => Course.steady_still rfl
  · exact Course.steady_still rfl

theorem steady_phaseCourse {stage : Stage} {detail : α → Except Failure String} (hT : T.Steady h)
    (hdetail : ∀ a, (detail a).mapError h.failure = detail a) : (PhaseCourse stage T detail).Steady h := by
  intro j r hj
  cases hj with
  | stopped _ e hj => exact .stopped _ _ (hT j _ hj)
  | unwritten _ a e hj hd =>
    refine .unwritten _ a _ (hT j _ hj) ?_
    rw [← hdetail, hd]
    rfl
  | vetoed j a text e hj hd =>
    rw [List.map_append]
    exact .vetoed _ a text (h.failure e) (hT j _ hj) hd
  | reached j a text hj hd =>
    rw [List.map_append]
    exact .reached _ a text (hT j _ hj) hd

theorem ofNumeral_behind (x : Except Numeral.Error α) :
    (Failure.ofNumeral x).mapError h.failure = Failure.ofNumeral x := by
  cases x <;> rfl

theorem steady_stepsCourse {profile : Profile} (hthread : profile.threadPattern.captureIn? h.line = none)
    (hobject : profile.objectPattern.captureIn? h.line = none) : (StepsCourse profile).Steady h := by
  refine (steady_phaseCourse (steady_findCourse hthread) fun _ => rfl).andThen fun thread => ?_
  refine (steady_phaseCourse (steady_threadCourse profile thread) fun _ => rfl).andThen fun _ => ?_
  refine (steady_phaseCourse (steady_sentinelsCourse _) fun _ => ofNumeral_behind _).andThen fun _ => ?_
  refine (steady_phaseCourse (steady_findCourse hobject) fun _ => rfl).andThen fun object => ?_
  refine (steady_phaseCourse (steady_checkCourse _ _ _ _) fun _ => ofNumeral_behind _).andThen fun _ => ?_
  refine (steady_phaseCourse (steady_sweepCourse _ _) fun _ => rfl).andThen fun _ => ?_
  exact (steady_phaseCourse (Course.steady_still rfl) fun _ => rfl).andThen fun _ => Course.steady_still rfl

theorem transitions_behind (j : Journal) : Journal.transitions (j.map h.deed) = Journal.transitions j := by
  have hdeed : Deed.transition? ∘ h.deed = Deed.transition? := by
    funext d
    cases d <;> rfl
  rw [Journal.transitions, List.filterMap_map, hdeed]
  rfl

/-- **A run behind a header is a run.** -/
theorem steady_runCourse {profile : Profile} (hthread : profile.threadPattern.captureIn? h.line = none)
    (hobject : profile.objectPattern.captureIn? h.line = none) : (RunCourse profile).Steady h := by
  rintro j _ ⟨x, hj, rfl⟩
  refine ⟨x.mapError h.failure, steady_stepsCourse hthread hobject j x hj, ?_⟩
  rw [transitions_behind]
  cases x <;> rfl

end Steady

/-! ## Commands as words -/

/-- whether a command is read as words that make it up again -/
def isSpoken (command : String) : Bool :=
  match ShellWords.split command with
  | .ok words => " ".intercalate words == command
  | .error _ => false

theorem exists_words_of_isSpoken {command : String} (h : isSpoken command) :
    ∃ words, ShellWords.split command = .ok words ∧ " ".intercalate words = command := by
  rw [isSpoken] at h
  split at h
  · exact ⟨_, by assumption, beq_iff_eq.1 h⟩
  · cases h

theorem isSpoken_findText (a : Int) (verbose : Bool) : isSpoken (Command.findText a verbose) := by
  rw [isSpoken, Command.split_findText]
  exact beq_iff_eq.2 (Command.intercalate_findWords a verbose)

theorem isSpoken_threadListing : isSpoken Command.threadListing := by
  have hplain : ∀ word ∈ [Command.threadListing], ShellWords.IsPlainWord word.toList := by decide
  have hsplit := ShellWords.split_intercalate hplain
  rw [String.intercalate_singleton] at hsplit
  rw [isSpoken, hsplit]
  exact beq_iff_eq.2 (String.intercalate_singleton)

/-- a command that was sent and is not its words -/
def Deed.unspoken? : Deed → Option String
  | .asked command _ => if isSpoken command then none else some command
  | _ => none

theorem offProbes_unspoken : Deed.OffProbes Deed.unspoken? where
  asked address verbose _ := if_pos (isSpoken_findText address verbose)
  told _ _ _ := rfl
  noted _ := rfl

/-- all commands of a run are their words -/
theorem spoken_of_runCourse (profile : Profile) : (RunCourse profile).Without Deed.unspoken? :=
  without_runCourse offProbes_unspoken (fun _ => by rw [Deed.unspoken?, if_pos isSpoken_threadListing])
    (fun _ _ => rfl) profile

/-! ## The launcher -/

/-- a channel that answers every command with a text and succeeds -/
def answering (respond : String → σ → String × σ) : Channel σ :=
  ⟨fun command s => ⟨.ok ⟨(respond command s).1, 0⟩, (respond command s).2, []⟩⟩

/-- the commands that were sent, in order -/
def questions (events : List Event) : List String :=
  events.filterMap fun
    | .asked command => some command
    | _ => none

/-- the line that the launcher prints first: the process id and a colon -/
def Jcmd.header (jcmd : Jcmd) : Header where
  line := decimal jcmd.pid ++ [':']
  unbroken c hc := by
    rcases List.mem_append.1 hc with hc | hc
    · exact isLineBreak_of_isDigit (isDigit_of_mem_decimal hc)
    · rw [List.mem_singleton.1 hc]
      rfl
  spaceless hc := by
    rcases List.mem_append.1 hc with hc | hc
    · exact absurd (isDigit_of_mem_decimal hc) (by decide)
    · exact absurd (List.mem_singleton.1 hc) (by decide)

section Launcher

variable {jcmd : Jcmd} {pid : String} {launcher : Launcher σ} {respond : String → σ → String × σ}

/-- a launcher that prints the process id and a colon, and then what is answered to the words, joined by single
spaces -/
def Prints (jcmd : Jcmd) (pid : String) (respond : String → σ → String × σ) (launcher : Launcher σ) : Prop :=
  ∀ words s, launcher.launch (jcmd.executable :: pid :: words) jcmd.timeout s =
    ⟨.ok (.completed (pid ++ ":\n" ++ (respond (" ".intercalate words) s).1) "" 0),
      (respond (" ".intercalate words) s).2, []⟩

theorem header_of_write (hpid : Numeral.write jcmd.pid = .ok pid) : jcmd.header.line = (pid ++ ":").toList := by
  rw [Numeral.write] at hpid
  split_ifs at hpid
  cases hpid
  simp [Jcmd.header]

/-- a command is launched once, and answered behind the header -/
theorem execute_bound (hpid : Numeral.write jcmd.pid = .ok pid) (hlauncher : Prints jcmd pid respond launcher)
    {command : String} (hcommand : isSpoken command) (s : σ) :
    ∃ argv, jcmd.argv command = .ok argv ∧ (jcmd.channel launcher.traced).execute command s =
      ⟨.ok (jcmd.header.output ⟨(respond command s).1, 0⟩), (respond command s).2,
        [.logged ⟨.debug, .launcher, jcmd.note command⟩, .launched argv jcmd.timeout]⟩ := by
  obtain ⟨words, hsplit, hwords⟩ := exists_words_of_isSpoken hcommand
  have hargv : jcmd.argv command = .ok (jcmd.executable :: pid :: words) := Jcmd.argv_of_split hpid hsplit
  have htext : pid ++ ":\n" ++ (respond command s).1 ++ "" = jcmd.header.behind (respond command s).1 := by
    rw [Header.behind, header_of_write hpid]
    refine String.toList_inj.1 ?_
    simp [String.toList_append]
  have hanswer : jcmd.answer command (.completed (pid ++ ":\n" ++ (respond command s).1) "" 0) =
      .ok (jcmd.header.output ⟨(respond command s).1, 0⟩) := by
    rw [Jcmd.answer, Jcmd.reached, hpid, htext]
    rfl
  have hlaunch := hlauncher words s
  rw [hwords] at hlaunch
  refine ⟨_, hargv, ?_⟩
  show jcmd.execute launcher.traced command s = _
  rw [Jcmd.execute_of_launch hargv hlaunch, hanswer]
  rfl

/-- **What happens with answers happens behind the header with the launcher**, one launch for each command. -/
theorem happens_bound (hpid : Numeral.write jcmd.pid = .ok pid) (hlauncher : Prints jcmd pid respond launcher)
    {j : Journal} (hj : j.filterMap Deed.unspoken? = []) {s t : σ} {es : List Event}
    (h : Happens ⟨(answering respond).traced, {}⟩ j s t es) :
    ∃ es', Happens ⟨jcmd.channel launcher.traced, {}⟩ (j.map jcmd.header.deed) s t es' ∧
      (launches es').map .ok = (questions es).map jcmd.argv := by
  induction j generalizing s es with
  | nil =>
    obtain ⟨rfl, rfl⟩ := h
    exact ⟨[], ⟨rfl, rfl⟩, rfl⟩
  | cons d j ih =>
    obtain ⟨m, es₁, es₂, hd, hrest, rfl⟩ := h
    have hdeed : ∃ es₁', (jcmd.header.deed d).Happens ⟨jcmd.channel launcher.traced, {}⟩ s m es₁' ∧
        (launches es₁').map .ok = (questions es₁).map jcmd.argv := by
      cases d with
      | asked command answer =>
        have hcommand : isSpoken command := by
          by_contra hcommand
          simp [Deed.unspoken?, hcommand] at hj
        obtain ⟨argv, hargv, hexecute⟩ := execute_bound hpid hlauncher hcommand s
        cases hd
        refine ⟨_, hexecute, ?_⟩
        show [.ok argv] = [jcmd.argv command]
        rw [hargv]
      | told address response reply =>
        cases hd
        exact ⟨[], rfl, rfl⟩
      | announced transition reply =>
        cases hd
        exact ⟨[], rfl, rfl⟩
      | noted record =>
        obtain ⟨rfl, rfl⟩ := hd
        exact ⟨_, ⟨rfl, rfl⟩, rfl⟩
    have hj' : j.filterMap Deed.unspoken? = [] := by
      rw [List.filterMap_cons] at hj
      split at hj
      · exact hj
      · cases hj
    obtain ⟨es₁', hd', hlaunches₁⟩ := hdeed
    obtain ⟨es₂', hrest', hlaunches₂⟩ := ih hj' hrest
    refine ⟨es₁' ++ es₂', ⟨m, es₁', es₂', hd', hrest', rfl⟩, ?_⟩
    simp only [launches, questions, List.filterMap_append, List.map_append] at hlaunches₁ hlaunches₂ ⊢
    rw [hlaunches₁, hlaunches₂]

/-- **Binding to a machine changes nothing but the header.** Over a launcher that prints the process id and a colon
before what is answered to the words of a command, a run ends in the same stage with the same transitions and the same
result as over a channel that gives the answers as they are; a failure is the same but for the header in its text. The
launcher is run once for each command, in the same order. -/
theorem run_bound (hpid : Numeral.write jcmd.pid = .ok pid) (hlauncher : Prints jcmd pid respond launcher)
    {profile : Profile} (hthread : profile.threadPattern.captureIn? (pid ++ ":").toList = none)
    (hobject : profile.objectPattern.captureIn? (pid ++ ":").toList = none) (s : σ) :
    let direct := run (answering respond).traced profile {} ({}, s)
    let bound := run (jcmd.channel launcher.traced) profile {} ({}, s)
    bound.result = direct.result.mapError jcmd.header.failure ∧ bound.world = direct.world ∧
      (launches bound.events).map .ok = (questions direct.events).map jcmd.argv := by
  intro direct bound
  rw [← header_of_write hpid] at hthread hobject
  obtain ⟨j, hj, hprogress, hh⟩ :=
    (follows_run (u := ⟨(answering respond).traced, {}⟩) profile s direct.result direct.world.1 direct.world.2
      direct.events).1 rfl
  obtain ⟨es', hh', hlaunches⟩ := happens_bound hpid hlauncher (spoken_of_runCourse profile j _ hj) hh
  have hbound := (follows_run (u := ⟨jcmd.channel launcher.traced, {}⟩) profile s _ _ _ _).2
    ⟨_, steady_runCourse hthread hobject j _ hj, rfl, hh'⟩
  have hrun : bound = ⟨direct.result.mapError jcmd.header.failure, direct.world, es'⟩ := by
    have hsame : Progress.after {} (j.map jcmd.header.deed) = direct.world.1 := by
      rw [hprogress, Progress.after, Progress.after, transitions_behind]
    rw [hsame] at hbound
    exact hbound
  rw [hrun]
  exact ⟨rfl, rfl, hlaunches⟩

/-- a process with one thread, of which it only says that it knows the address; it counts what it was asked -/
def aloof (command : String) (n : Nat) : String × Nat :=
  (if command = Command.threadListing then "\"T\" tid=0x10 nid=1" else "0x10 is a thread", n + 1)

/-- the launcher of a program that reaches that process -/
def aloofLauncher : Launcher Nat where
  launch argv _ n :=
    match argv with
    | _ :: pid :: words =>
      ⟨.ok (.completed (pid ++ ":\n" ++ (aloof (" ".intercalate words) n).1) "" 0),
        (aloof (" ".intercalate words) n).2, []⟩
    | _ => ⟨.ok (.unavailable "no process"), n, []⟩

def aloofJcmd : Jcmd where
  pid := 7
  executable := Jcmd.defaultExecutable
  timeout := Jcmd.defaultTimeout
  pid_pos := by decide
  timeout_ok := Jcmd.nonPositive_defaultTimeout

/-- a run that finds the thread and stops as it is not said to wait -/
theorem run_bound_of_aloof :
    Numeral.write aloofJcmd.pid = .ok "7" ∧ Prints aloofJcmd "7" aloof aloofLauncher ∧
      ({} : Profile).threadPattern.captureIn? ("7" ++ ":").toList = none ∧
      ({} : Profile).objectPattern.captureIn? ("7" ++ ":").toList = none ∧
      let direct := run (answering aloof).traced {} {} ({}, 0)
      let bound := run (aloofJcmd.channel aloofLauncher.traced) {} {} ({}, 0)
      bound.result = direct.result.mapError aloofJcmd.header.failure ∧
        bound.world = (⟨.threadFound, [⟨.threadFound, "0x10"⟩]⟩, 3) ∧
        (launches bound.events).map .ok =
          ["Thread.print", "VM.debug find 0x10", "VM.debug find -verbose 0x10"].map aloofJcmd.argv := by
  have hpid : Numeral.write aloofJcmd.pid = .ok "7" := rfl
  have hlauncher : Prints aloofJcmd "7" aloof aloofLauncher := by
    intro words n
    rw [aloofLauncher]
  have hthread : ({} : Profile).threadPattern.captureIn? ("7" ++ ":").toList = none := by decide +kernel
  have hobject : ({} : Profile).objectPattern.captureIn? ("7" ++ ":").toList = none := by decide +kernel
  have hdirect : (run (answering aloof).traced {} {} ({}, 0)).world =
      (⟨.threadFound, [⟨.threadFound, "0x10"⟩]⟩, 3) := by decide +kernel
  have hquestions : questions (run (answering aloof).traced {} {} ({}, 0)).events =
      ["Thread.print", "VM.debug find 0x10", "VM.debug find -verbose 0x10"] := by decide +kernel
  obtain ⟨hresult, hworld, hlaunches⟩ := run_bound hpid hlauncher hthread hobject 0
  rw [hquestions] at hlaunches
  exact ⟨hpid, hlauncher, hthread, hobject, hresult, hworld.trans hdirect, hlaunches⟩

end Launcher

end DebugFind
