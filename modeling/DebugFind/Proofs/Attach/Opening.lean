/-
A machine that was found, and the channel to it. A run should end with a failure to attach, or with a machine that a
channel can be opened to (`IsDocumented`). It does unless the attempt that decides is at fault, or finds a machine whose
process id is not positive (`documented_iff`).

`misled_by_listing` is about two listings that end a run otherwise.
-/
import DebugFind.Proofs.Attach.Retry

namespace DebugFind.Attach

open DebugFind.Text DebugFind.Numeral

/-- a channel can be opened to the machine, with whatever positive timeout -/
def Attached.Opens (found : Attached) : Prop :=
  ∀ (executable : String) (timeout : Seconds), timeout.nonPositive = false →
    ∃ jcmd, Jcmd.ofPid found.pid executable timeout = .ok jcmd

theorem Attached.ofPid_of_nonpos {found : Attached} (h : found.pid ≤ 0) (executable : String) (timeout : Seconds) :
    Jcmd.ofPid found.pid executable timeout = .error .pidNotPositive := by
  have hzero : ¬ 0 < found.pid.toNat := by omega
  rw [Jcmd.ofPid, dif_neg hzero]

theorem Attached.opens_iff {found : Attached} : found.Opens ↔ 0 < found.pid := by
  constructor
  · intro hopens
    by_contra hpid
    obtain ⟨jcmd, hjcmd⟩ := hopens Jcmd.defaultExecutable Jcmd.defaultTimeout Jcmd.nonPositive_defaultTimeout
    rw [ofPid_of_nonpos (Int.not_lt.1 hpid)] at hjcmd
    cases hjcmd
  · intro hpid executable timeout htimeout
    have hpos : 0 < found.pid.toNat := by omega
    rw [Jcmd.ofPid, dif_pos hpos, dif_pos htimeout]
    exact ⟨_, rfl⟩

/-- a run ends with a failure to attach, or with a machine that a channel can be opened to -/
def IsDocumented : Except Failure Attached → Prop
  | .ok found => found.Opens
  | .error f => ∃ e, f = .attach e

section Launches

variable {executable : String} {timeout : Seconds} {outcomes : Nat → Launch} {w : Wanted} {retries : Nat}

theorem not_isDocumented_numeral (e : Numeral.Error) : ¬ IsDocumented (.error (.numeral e)) := by
  rintro ⟨e', he'⟩
  cases he'

/-- **How attaching ends.** A run ends as documented exactly if the first attempt that does not lapse, if there is one, is
not at fault, and the machine that it finds has a positive process id. Otherwise a number could not be written or read, or
no channel is opened to the machine, whatever the timeout. A listing cannot be read exactly if one of its lines misleads. -/
theorem documented_iff (hretries : 1 ≤ retries) (executable : String) (timeout : Seconds) (outcomes : Nat → Launch)
    (w : Wanted) (delay : Seconds) :
    let o := run (directoryInTurn executable timeout outcomes) w.target retries delay 0
    (IsDocumented o.result ↔ ∀ j < retries, (∀ i < j, ∃ e, Lapses executable timeout w (outcomes i) e) →
        (∀ e, ¬ Faults w (outcomes j) e) ∧ ∀ found, Finds w (outcomes j) found → 0 < found.pid) ∧
      (¬ IsDocumented o.result → (∃ e, o.result = .error (.numeral e)) ∨
        ∃ found, o.result = .ok found ∧
          ∀ executable timeout, Jcmd.ofPid found.pid executable timeout = .error .pidNotPositive) ∧
      ∀ stdout e, readListing stdout = .error e ↔
        ∃ line, FirstOf (fun line => ∃ e', Misleads line e') (lines stdout.toList) line ∧ Misleads line e := by
  intro o
  obtain ⟨last, rfl⟩ : ∃ last, retries = last + 1 := ⟨retries - 1, by omega⟩
  let d := directoryInTurn executable timeout outcomes
  have hharmless {i : Nat} {e : Attach.Error} (h : Lapses executable timeout w (outcomes i) e) :
      (∀ e, ¬ Faults w (outcomes i) e) ∧ ∀ found, Finds w (outcomes i) found → 0 < found.pid :=
    ⟨not_faults_of_lapses d h, fun found hfinds => absurd hfinds (not_finds_of_lapses d h found)⟩
  rw [← and_assoc]
  refine ⟨?_, fun _ _ => readListing_eq_error_iff⟩
  rcases lapses_or_exists_first executable timeout outcomes w (last + 1) with
    ⟨errors, hlapses⟩ | ⟨j, hj, ⟨errors, hlapses⟩, ⟨found, hfinds⟩ | ⟨e, hfaults⟩⟩
  · have hresult : o.result = .error (.attach (errors last)) := congrArg Outcome.result (run_of_lapses delay hlapses)
    have hdocumented : IsDocumented o.result := by
      rw [hresult]
      exact ⟨_, rfl⟩
    exact ⟨iff_of_true hdocumented fun j hj _ => hharmless (hlapses j hj), fun hnot => absurd hdocumented hnot⟩
  · have hresult : o.result = .ok found := congrArg Outcome.result (run_of_found delay hj hlapses hfinds)
    have hopens : IsDocumented o.result ↔ 0 < found.pid := by
      rw [hresult]
      exact Attached.opens_iff
    rw [hopens]
    refine ⟨⟨?_, ?_⟩, ?_⟩
    · intro hpid i hi hbefore
      rcases Nat.lt_trichotomy i j with hlt | rfl | hgt
      · exact hharmless (hlapses i hlt)
      · exact ⟨not_faults_of_finds d hfinds, fun found' hfinds' => eq_of_finds d hfinds hfinds' ▸ hpid⟩
      · -- the attempt that decides is no later than the first that does not lapse
        obtain ⟨e, hlapse⟩ := hbefore j hgt
        exact absurd hfinds (not_finds_of_lapses d hlapse found)
    · intro hall
      exact (hall j hj fun i hi => ⟨_, hlapses i hi⟩).2 found hfinds
    · intro hpid
      exact Or.inr ⟨found, hresult, Attached.ofPid_of_nonpos (Int.not_lt.1 hpid)⟩
  · have hresult : o.result = .error (.numeral e) := congrArg Outcome.result (run_of_fault delay hj hlapses hfaults)
    have hnot : ¬ IsDocumented o.result := by
      rw [hresult]
      exact not_isDocumented_numeral e
    refine ⟨iff_of_false hnot fun hall => ?_, fun _ => Or.inl ⟨e, hresult⟩⟩
    exact (hall j hj fun i hi => ⟨_, hlapses i hi⟩).1 e hfaults

end Launches

/-- a listing whose words look like numbers where none is read -/
def digitsElsewhere : Launch := .completed "²x 7\n 12 com.acme.Main ²\n² sun.tools.jcmd.JCmd -l" "" 0

/-- the machine is found in spite of them, and a channel is opened to it -/
theorem documented_iff_of_digitsElsewhere :
    1 ≤ 1 ∧
      let o := run (directoryInTurn "jcmd" Jcmd.defaultTimeout fun _ => digitsElsewhere) (Wanted.byPid 12).target
        (1 : Nat) defaultDelay 0
      Finds (.byPid 12) digitsElsewhere ⟨12, "com.acme.Main"⟩ ∧ IsDocumented o.result := by
  refine ⟨le_rfl, ?_⟩
  intro o
  have hread : readListing "²x 7\n 12 com.acme.Main ²\n² sun.tools.jcmd.JCmd -l" = .ok [⟨12, "com.acme.Main"⟩] := by
    decide +kernel
  have hfinds : Finds (.byPid 12) digitsElsewhere ⟨12, "com.acme.Main"⟩ := .listed hread (by decide +kernel)
  obtain ⟨hdocumented, -⟩ := documented_iff le_rfl "jcmd" Jcmd.defaultTimeout (fun _ => digitsElsewhere) (.byPid 12)
    defaultDelay
  let d := directoryInTurn "jcmd" Jcmd.defaultTimeout fun _ => digitsElsewhere
  refine ⟨hfinds, hdocumented.2 fun j _ _ => ⟨not_faults_of_finds d hfinds, fun found hfound => ?_⟩⟩
  rw [← eq_of_finds d hfinds hfound]
  decide

/-- **Attaching does not always end as documented**: a word that only looks like a number is read as one, and no channel
is opened to a machine with the process id zero, which is found. -/
theorem misled_by_listing :
    let misleading : Launch := .completed "² Main\n" "" 0
    let zero : Launch := .completed "0 Main\n" "" 0
    let ending (launch : Launch) (mainClass : String) := (run (directoryInTurn "jcmd" Jcmd.defaultTimeout fun _ => launch)
      (Wanted.byClass mainClass).target (1 : Nat) defaultDelay 0).result
    ending misleading "Other" = .error (.numeral (.malformed "²")) ∧ ¬ IsDocumented (ending misleading "Other") ∧
      ending zero "Main" = .ok ⟨0, "Main"⟩ ∧ ¬ IsDocumented (ending zero "Main") := by
  intro misleading zero ending
  have hread : readListing "0 Main\n" = .ok [⟨0, "Main"⟩] := by decide +kernel
  have hfault : Faults (.byClass "Other") misleading (.malformed "²") := .listing (by decide +kernel)
  have hfinds : Finds (.byClass "Main") zero ⟨0, "Main"⟩ := .listed hread (by decide +kernel)
  have hnone (w : Wanted) (launch : Launch) : ∀ i < 0, Lapses "jcmd" Jcmd.defaultTimeout w launch .noTarget :=
    fun i hi => absurd hi (Nat.not_lt_zero i)
  have hmisleading : ending misleading "Other" = .error (.numeral (.malformed "²")) :=
    congrArg Outcome.result (run_of_fault defaultDelay Nat.one_pos (hnone _ misleading) hfault)
  have hzero : ending zero "Main" = .ok ⟨0, "Main"⟩ :=
    congrArg Outcome.result (run_of_found defaultDelay Nat.one_pos (hnone _ zero) hfinds)
  rw [hmisleading, hzero]
  exact ⟨rfl, not_isDocumented_numeral _, rfl, fun hopens => absurd (Attached.opens_iff.1 hopens) (by decide)⟩

end DebugFind.Attach
