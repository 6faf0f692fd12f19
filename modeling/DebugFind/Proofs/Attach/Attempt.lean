/-
One attempt to find a machine. It is one launch (`locate_of_launch`), and the end of that launch decides what becomes of
it (`Directory.verdict`):

- it finds the machine (`Finds`),
- it lapses, which is a failure to attach and is tried again (`Lapses`), or
- it is at fault: a number of it cannot be written or read, of which no failure to attach tells (`Faults`).

It is always one of these (`attempt_cases`).
-/
import DebugFind.Attach.Run
import DebugFind.Proofs.Attach.Lookup
import DebugFind.Proofs.Jcmd

namespace DebugFind

/-! ## Actions whose outcome is known -/

namespace Action

variable {σ α β : Type} {act : Action σ α} {f : α → Action σ β} {s t : σ} {es : List Event}

theorem bind_of_outcome_ok {a : α} (h : act s = ⟨.ok a, t, es⟩) :
    (act >>= f) s = ⟨(f a t).result, (f a t).world, es ++ (f a t).events⟩ := by
  rw [bind_ok (by rw [h]), h]

theorem bind_of_outcome_error {e : Failure} (h : act s = ⟨.error e, t, es⟩) : (act >>= f) s = ⟨.error e, t, es⟩ := by
  rw [bind_error (by rw [h]), h]

end Action

namespace Attach

open DebugFind.Text DebugFind.Numeral

variable {σ : Type}

/-! ## What is looked for -/

/-- exactly one of a process id and a main class -/
inductive Wanted where
  | byPid (pid : Int)
  | byClass (mainClass : String)
deriving DecidableEq, Repr

namespace Wanted

def target : Wanted → Target
  | .byPid pid => ⟨some pid, none⟩
  | .byClass mainClass => ⟨none, some mainClass⟩

/-- the machine in a listing; what is wanted of it is kept as it was given -/
def find? (entries : List Entry) : Wanted → Option Attached
  | .byPid pid => (classOf? entries pid).map fun mainClass => ⟨pid, mainClass⟩
  | .byClass mainClass => (pidOf? entries mainClass).map fun (pid : Nat) => ⟨pid, mainClass⟩

/-- the failure to attach if there is none -/
def absence : Wanted → Attach.Error
  | .byPid pid => .notRunning (String.ofList (decimal pid))
  | .byClass mainClass => .classNotFound mainClass

/-- that failure can be told -/
def Tellable : Wanted → Prop
  | .byPid pid => Writable pid
  | .byClass _ => True

instance (w : Wanted) : Decidable w.Tellable := by
  cases w <;> unfold Tellable <;> infer_instance

theorem find?_byPid_eq_some_iff {entries : List Entry} {pid : Int} {found : Attached} :
    (byPid pid).find? entries = some found ↔
      ∃ e, FirstOf (fun e => (e.pid : Int) = pid) entries e ∧ found = ⟨pid, e.mainClass⟩ := by
  simp only [find?, Option.map_eq_some_iff, classOf?_eq_some_iff]
  constructor
  · rintro ⟨_, ⟨e, hfirst, rfl⟩, rfl⟩
    exact ⟨e, hfirst, rfl⟩
  · rintro ⟨e, hfirst, rfl⟩
    exact ⟨_, ⟨e, hfirst, rfl⟩, rfl⟩

theorem find?_byClass_eq_some_iff {entries : List Entry} {mainClass : String} {found : Attached} :
    (byClass mainClass).find? entries = some found ↔
      ∃ e, FirstOf (fun e => e.runs mainClass = true) entries e ∧ found = ⟨e.pid, mainClass⟩ := by
  simp only [find?, Option.map_eq_some_iff, pidOf?_eq_some_iff]
  constructor
  · rintro ⟨_, ⟨e, hfirst, rfl⟩, rfl⟩
    exact ⟨e, hfirst, rfl⟩
  · rintro ⟨e, hfirst, rfl⟩
    exact ⟨_, ⟨e, hfirst, rfl⟩, rfl⟩

end Wanted

/-! ## What the end of a launch means -/

/-- the arguments of a launch that lists the machines -/
def listingArgv (executable : String) : List String := [executable, "-l"]

/-- what becomes of an attempt that has a listing -/
def Wanted.resolve (w : Wanted) (entries : List Entry) : Except Failure Attached :=
  match w.find? entries with
  | some found => .ok found
  | none => .error (if w.Tellable then .attach w.absence else .numeral .tooLongToWrite)

/-- what becomes of an attempt whose launch ended so -/
def Directory.verdict (d : Directory σ) (w : Wanted) (launch : Launch) : Except Failure Attached :=
  d.entries (listingArgv d.executable) launch >>= w.resolve

section Launched

variable {d : Directory σ} {launcher : Launcher σ} {launch : Launch} {s t : σ}

/-- what is looked up in a listing is one launch -/
theorem lookup_of_launch (hd : d.launcher = launcher.traced)
    (hlaunch : launcher.launch (listingArgv d.executable) d.timeout s = ⟨.ok launch, t, []⟩) {β : Type}
    (g : List Entry → β) :
    (do return g (← d.list)) s =
      ⟨(d.entries (listingArgv d.executable) launch).map g, t, [.launched (listingArgv d.executable) d.timeout]⟩ := by
  have hlist : d.list s = ⟨d.entries (listingArgv d.executable) launch, t,
      [.launched (listingArgv d.executable) d.timeout]⟩ := by
    rw [listingArgv] at hlaunch ⊢
    simp [Directory.list, hd, Launcher.traced, hlaunch, bind, Action.andThen, Action.next, Action.emit, Action.ofExcept]
  rcases hentries : d.entries (listingArgv d.executable) launch with e | entries
  · simp [hlist, hentries, bind, Action.andThen, Action.next, Except.map]
  · simp [hlist, hentries, bind, Action.andThen, Action.next, Except.map, pure, Action.done]

/-- an attempt is one launch -/
theorem locate_of_launch (hd : d.launcher = launcher.traced)
    (hlaunch : launcher.launch (listingArgv d.executable) d.timeout s = ⟨.ok launch, t, []⟩) (w : Wanted) :
    locate d w.target s = ⟨d.verdict w launch, t, [.launched (listingArgv d.executable) d.timeout]⟩ := by
  have hlookup {β : Type} (g : List Entry → β) := lookup_of_launch hd hlaunch g
  unfold Directory.verdict
  generalize d.entries (listingArgv d.executable) launch = listing at hlookup ⊢
  rcases listing with e | entries
  · cases w with
    | byPid pid => exact Action.bind_of_outcome_error (hlookup (classOf? · pid))
    | byClass mainClass => exact Action.bind_of_outcome_error (hlookup (pidOf? · mainClass))
  · rw [bind_of_eq_ok rfl, Wanted.resolve]
    cases w with
    | byPid pid =>
      have hfound : d.findClass pid s = ⟨.ok (classOf? entries pid), t, _⟩ := hlookup (classOf? · pid)
      refine (Action.bind_of_outcome_ok hfound).trans ?_
      rw [Wanted.find?]
      rcases classOf? entries pid with _ | mainClass
      · by_cases hwritable : Writable pid
        · have htellable : (Wanted.byPid pid).Tellable := hwritable
          simp only [Option.map_none, if_pos htellable, write_of_writable hwritable]
          rfl
        · have htellable : ¬ (Wanted.byPid pid).Tellable := hwritable
          simp only [Option.map_none, if_neg htellable, write_of_not_writable hwritable]
          rfl
      · rfl
    | byClass mainClass =>
      have hfound : d.findPid mainClass s = ⟨.ok (pidOf? entries mainClass), t, _⟩ := hlookup (pidOf? · mainClass)
      refine (Action.bind_of_outcome_ok hfound).trans ?_
      rw [Wanted.find?]
      rcases pidOf? entries mainClass with _ | pid
      · have htellable : (Wanted.byClass mainClass).Tellable := trivial
        simp only [Option.map_none, if_pos htellable]
        rfl
      · rfl

end Launched

/-- the attempt finds a machine -/
inductive Finds (w : Wanted) : Launch → Attached → Prop
  | listed {stdout stderr : String} {entries : List Entry} {found : Attached} (listing : readListing stdout = .ok entries)
      (resolved : w.find? entries = some found) : Finds w (.completed stdout stderr 0) found

/-- the attempt fails in a way that is tried again -/
inductive Lapses (executable : String) (timeout : Seconds) (w : Wanted) : Launch → Attach.Error → Prop
  | timedOut : Lapses executable timeout w .timedOut
      (.listingUnavailable executable (Launcher.timeoutText (listingArgv executable) timeout))
  | unavailable (text : String) : Lapses executable timeout w (.unavailable text) (.listingUnavailable executable text)
  | failed {stdout stderr : String} {exitStatus : Int} (status : exitStatus ≠ 0) (writable : Writable exitStatus) :
    Lapses executable timeout w (.completed stdout stderr exitStatus)
      (.listingFailed executable (String.ofList (decimal exitStatus)))
  | absent {stdout stderr : String} {entries : List Entry} (listing : readListing stdout = .ok entries)
      (unresolved : w.find? entries = none) (tellable : w.Tellable) :
    Lapses executable timeout w (.completed stdout stderr 0) w.absence

/-- an attempt that lapses says why -/
theorem Lapses.ne_unknown {executable : String} {timeout : Seconds} {w : Wanted} {launch : Launch} {e : Attach.Error}
    (h : Lapses executable timeout w launch e) : e ≠ .unknown := by
  cases h with
  | absent => cases w <;> exact fun h => by cases h
  | _ => exact fun h => by cases h

/-- the attempt meets a number that cannot be written or read -/
inductive Faults (w : Wanted) : Launch → Numeral.Error → Prop
  | status {stdout stderr : String} {exitStatus : Int} (unwritable : ¬ Writable exitStatus) :
    Faults w (.completed stdout stderr exitStatus) .tooLongToWrite
  | listing {stdout stderr : String} {e : Numeral.Error} (unread : readListing stdout = .error e) :
    Faults w (.completed stdout stderr 0) e
  | wanted {stdout stderr : String} {entries : List Entry} (listing : readListing stdout = .ok entries)
      (unresolved : w.find? entries = none) (untellable : ¬ w.Tellable) :
    Faults w (.completed stdout stderr 0) .tooLongToWrite

section Verdicts

variable {d : Directory σ} {w : Wanted} {launch : Launch}

theorem entries_of_listing (argv : List String) (stdout stderr : String) :
    d.entries argv (.completed stdout stderr 0) = Failure.ofNumeral (readListing stdout) := by
  rw [Directory.entries, if_pos rfl]

/-- an attempt that has a listing looks the machine up in it -/
theorem verdict_of_listing {stdout : String} {entries : List Entry} (h : readListing stdout = .ok entries)
    (stderr : String) : d.verdict w (.completed stdout stderr 0) = w.resolve entries := by
  rw [Directory.verdict, entries_of_listing, h]
  rfl

theorem entries_of_status (argv : List String) (stdout stderr : String) {exitStatus : Int} (h : exitStatus ≠ 0) :
    d.entries argv (.completed stdout stderr exitStatus) =
      .error (if Writable exitStatus then .attach (.listingFailed d.executable (String.ofList (decimal exitStatus)))
        else .numeral .tooLongToWrite) := by
  rw [Directory.entries, if_neg h]
  split_ifs with hwritable
  · rw [write_of_writable hwritable]
    rfl
  · rw [write_of_not_writable hwritable]
    rfl

theorem verdict_of_finds {found : Attached} (h : Finds w launch found) : d.verdict w launch = .ok found := by
  cases h with
  | listed listing resolved =>
    rw [verdict_of_listing listing, Wanted.resolve, resolved]

theorem verdict_of_lapses {e : Attach.Error} (h : Lapses d.executable d.timeout w launch e) :
    d.verdict w launch = .error (.attach e) := by
  cases h with
  | timedOut => rfl
  | unavailable text => rfl
  | failed status writable =>
    rw [Directory.verdict, entries_of_status _ _ _ status, if_pos writable]
    rfl
  | absent listing unresolved tellable =>
    rw [verdict_of_listing listing, Wanted.resolve, unresolved, if_pos tellable]

theorem verdict_of_faults {e : Numeral.Error} (h : Faults w launch e) : d.verdict w launch = .error (.numeral e) := by
  cases h with
  | @status stdout stderr exitStatus unwritable =>
    have hstatus : exitStatus ≠ 0 := by
      rintro rfl
      exact unwritable (by decide)
    rw [Directory.verdict, entries_of_status _ _ _ hstatus, if_neg unwritable]
    rfl
  | listing unread =>
    rw [Directory.verdict, entries_of_listing, unread]
    rfl
  | wanted listing unresolved untellable =>
    rw [verdict_of_listing listing, Wanted.resolve, unresolved, if_neg untellable]

theorem not_finds_of_lapses (d : Directory σ) {e : Attach.Error} (h : Lapses d.executable d.timeout w launch e)
    (found : Attached) : ¬ Finds w launch found := by
  intro hfinds
  have hverdict : d.verdict w launch = .ok found := verdict_of_finds hfinds
  rw [verdict_of_lapses h] at hverdict
  cases hverdict

theorem not_faults_of_lapses (d : Directory σ) {e : Attach.Error} (h : Lapses d.executable d.timeout w launch e)
    (e' : Numeral.Error) : ¬ Faults w launch e' := by
  intro hfaults
  have hverdict : d.verdict w launch = .error (.numeral e') := verdict_of_faults hfaults
  rw [verdict_of_lapses h] at hverdict
  cases hverdict

theorem not_faults_of_finds (d : Directory σ) {found : Attached} (h : Finds w launch found) (e : Numeral.Error) :
    ¬ Faults w launch e := by
  intro hfaults
  have hverdict : d.verdict w launch = .error (.numeral e) := verdict_of_faults hfaults
  rw [verdict_of_finds h] at hverdict
  cases hverdict

theorem eq_of_finds (d : Directory σ) {found found' : Attached} (h : Finds w launch found)
    (h' : Finds w launch found') : found = found' := by
  have hverdict : d.verdict w launch = .ok found := verdict_of_finds h
  rw [verdict_of_finds h'] at hverdict
  exact (Except.ok.inj hverdict).symm

end Verdicts

/-- **An attempt finds a machine, lapses or is at fault**, however its launch ends. -/
theorem attempt_cases (executable : String) (timeout : Seconds) (w : Wanted) (launch : Launch) :
    (∃ found, Finds w launch found) ∨ (∃ e, Lapses executable timeout w launch e) ∨ ∃ e, Faults w launch e := by
  cases launch with
  | timedOut => exact Or.inr (Or.inl ⟨_, .timedOut⟩)
  | unavailable text => exact Or.inr (Or.inl ⟨_, .unavailable text⟩)
  | completed stdout stderr exitStatus =>
    by_cases hstatus : exitStatus = 0
    · subst hstatus
      rcases hlisting : readListing stdout with e | entries
      · exact Or.inr (Or.inr ⟨e, .listing hlisting⟩)
      · rcases hfind : w.find? entries with _ | found
        · by_cases htellable : w.Tellable
          · exact Or.inr (Or.inl ⟨_, .absent hlisting hfind htellable⟩)
          · exact Or.inr (Or.inr ⟨_, .wanted hlisting hfind htellable⟩)
        · exact Or.inl ⟨found, .listed hlisting hfind⟩
    · by_cases hwritable : Writable exitStatus
      · exact Or.inr (Or.inl ⟨_, .failed hstatus hwritable⟩)
      · exact Or.inr (Or.inr ⟨_, .status hwritable⟩)

end Attach

end DebugFind
