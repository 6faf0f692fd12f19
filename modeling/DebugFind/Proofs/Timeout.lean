/-
Timeouts. A profile and a channel both refuse a timeout that compares as zero or less. A value that is not a number does
not compare so, nor as greater than zero: it passes, and is the only one that should not (`positive_iff_not_isNan`).

- `ofRatio_whole_positive`: a positive whole number stays positive as a floating-point number.
- `isNan_iff_statesNan`: a profile has such a timeout exactly if its file states one.
- `timeouts_positive_unless_nan`: otherwise the timeout of a profile, of a channel and of each of its launches is positive.
-/
import DebugFind.Jcmd
import DebugFind.Proofs.Profile.Sections
import DebugFind.Proofs.Scenario.Verdict

namespace DebugFind

open DebugFind.Text DebugFind.Numeral

namespace Binary64

theorem positive_iff_not_isNan {x : Binary64} (h : x.nonPositive = false) : x.positive = true ↔ x.isNan = false := by
  unfold nonPositive at h
  unfold positive
  cases hnan : x.isNan with
  | true => simp
  | false =>
    rw [hnan] at h
    simpa using h

/-- what is rounded is a number -/
theorem isNan_ofRatio (negative : Bool) (num den : Nat) : (ofRatio negative num den).isNan = false := by
  have hle : roundRatio num den ≤ infinityMagnitude := by
    unfold roundRatio
    split
    · exact Nat.zero_le _
    · exact Nat.min_le_right _ _
  exact decide_eq_false (Nat.not_lt.2 hle)

/-- a whole number is far above the magnitudes that are rounded to zero -/
theorem roundRatio_whole_pos {n : Nat} (h : n ≠ 0) : 0 < roundRatio n 1 := by
  have hlarge (e : Int) (he : -1 ≤ e) : 0 < (max (e - 52) (-1074) + 1074).toNat := by omega
  have hexponent (reaches : Prop) [Decidable reaches] :
      (-1 : Int) ≤ if reaches then (n.log2 : Int) - (Nat.log2 1 : Nat) else n.log2 - (Nat.log2 1 : Nat) - 1 := by
    rw [show Nat.log2 1 = 0 from rfl]
    split_ifs <;> omega
  unfold roundRatio
  rw [if_neg h]
  exact Nat.lt_min.2 ⟨Nat.add_pos_left (Nat.mul_pos (hlarge _ (hexponent _)) (by decide)) _, by decide⟩

theorem ofRatio_whole_positive {n : Nat} (h : n ≠ 0) : (ofRatio false n 1).positive = true := by
  have hpos : roundRatio n 1 ≠ 0 := Nat.pos_iff_ne_zero.1 (roundRatio_whole_pos h)
  have hnan := isNan_ofRatio false n 1
  simp only [positive, hnan]
  simpa [ofRatio] using hpos

end Binary64

namespace Seconds

/-- the time is not a number -/
def isNan : Seconds → Bool
  | .whole _ => false
  | .real x => x.isNan

theorem positive_iff_not_isNan {t : Seconds} (h : t.nonPositive = false) : t.positive = true ↔ t.isNan = false := by
  cases t with
  | whole n =>
    have hpos : ¬ n ≤ 0 := by simpa [nonPositive] using h
    simp [positive, isNan]
    omega
  | real x => exact Binary64.positive_iff_not_isNan h

/-- as a floating-point number the time is as positive as before -/
theorem of_toBinary64? {t : Seconds} {x : Binary64} (h : t.nonPositive = false) (hx : t.toBinary64? = some x) :
    x.nonPositive = false ∧ x.isNan = t.isNan := by
  cases t with
  | whole n =>
    have hpos : ¬ n ≤ 0 := by simpa [nonPositive] using h
    have hsign : decide (n < 0) = false := by simpa using by omega
    simp only [toBinary64?, Binary64.ofInt?, hsign] at hx
    split_ifs at hx
    cases hx
    have hpositive := Binary64.ofRatio_whole_positive (n := n.natAbs) (by omega)
    have hnan := Binary64.isNan_ofRatio false n.natAbs 1
    refine ⟨?_, hnan⟩
    simp only [Binary64.positive, hnan] at hpositive
    simpa [Binary64.nonPositive, hnan] using hpositive
  | real y =>
    cases hx
    exact ⟨h, rfl⟩

end Seconds

namespace Profile

variable {runtime : Runtime}

/-- a file states a timeout that is not a number -/
def StatesNan (runtime : Runtime) (file : Except FileError (List UInt8)) : Prop :=
  ∃ bytes text members inner x, file = .ok bytes ∧ ofAscii bytes = .ok text ∧
    Json.read runtime.json.overflow? (String.ofList (unifyLineEnds text)) = .ok (.object members) ∧
    Holds members "jcmd" (.object inner) ∧ Holds inner "timeout_seconds" (.float x) ∧ x.isNan = true

/-- the timeout of a profile stands in its file, and compares there as the profile says -/
theorem exists_timeout_of_ofFile {path : String} {file : Except FileError (List UInt8)} {p : Profile}
    (h : ofFile runtime path file = .ok p) :
    ∃ bytes text members inner t, file = .ok bytes ∧ ofAscii bytes = .ok text ∧
      Json.read runtime.json.overflow? (String.ofList (unifyLineEnds text)) = .ok (.object members) ∧
      Holds members "jcmd" (.object inner) ∧ Holds inner "timeout_seconds" (secondsValue t) ∧ t.nonPositive = false ∧
      t.toBinary64? = some p.launcher.timeout := by
  obtain ⟨bytes, text, members, hbytes, htext, hjson, hread⟩ := exists_of_ofFile h
  obtain ⟨form, ⟨inner, hinner, hform⟩, hvalid, hgives⟩ := (Section.part_eq_ok_iff reads_readLauncher).1 hread.launcher
  exact ⟨bytes, text, members, inner, form.timeout, hbytes, htext, hjson, hinner, hform.timeout, hvalid.timeout,
    hgives.timeout⟩

theorem nonPositive_of_ofFile {path : String} {file : Except FileError (List UInt8)} {p : Profile}
    (h : ofFile runtime path file = .ok p) : p.launcher.timeout.nonPositive = false := by
  obtain ⟨_, _, _, _, t, -, -, -, -, -, ht, hx⟩ := exists_timeout_of_ofFile h
  exact (Seconds.of_toBinary64? ht hx).1

/-- a timeout is not a number exactly if none stands in the file -/
theorem isNan_iff_statesNan {path : String} {file : Except FileError (List UInt8)} {p : Profile}
    (h : ofFile runtime path file = .ok p) : p.launcher.timeout.isNan = true ↔ StatesNan runtime file := by
  obtain ⟨bytes, text, members, inner, t, rfl, htext, hjson, hinner, hstands, ht, hx⟩ := exists_timeout_of_ofFile h
  rw [(Seconds.of_toBinary64? ht hx).2]
  constructor
  · intro hnan
    cases t with
    | whole n => cases hnan
    | real x => exact ⟨bytes, text, members, inner, x, rfl, htext, hjson, hinner, hstands, hnan⟩
  · rintro ⟨_, _, _, _, x, hbytes, htext', hjson', hinner', hstands', hnan⟩
    cases hbytes
    cases htext.symm.trans htext'
    cases hjson.symm.trans hjson'
    cases hinner.symm.trans hinner'
    have hvalue : secondsValue t = .float x := Option.some.inj (hstands.symm.trans hstands')
    cases t with
    | whole n => cases hvalue
    | real y =>
      cases hvalue
      exact hnan

end Profile

namespace Jcmd

/-- a channel has the timeout that it was given -/
theorem timeout_of_ofPid {pid : Int} {executable : String} {timeout : Seconds} {j : Jcmd}
    (h : ofPid pid executable timeout = .ok j) : j.timeout = timeout := by
  unfold ofPid at h
  split_ifs at h
  cases h
  rfl

/-- a command depends on how launches end that may take as long as its channel says, and on no others -/
theorem execute_congr {σ : Type} {j : Jcmd} {launcher launcher' : Launcher σ}
    (h : ∀ argv, launcher.launch argv j.timeout = launcher'.launch argv j.timeout) (command : String) :
    j.execute launcher command = j.execute launcher' command := by
  unfold execute
  simp only [h]

end Jcmd

/-- **A timeout is positive unless it is not a number.** The timeout of a profile is positive exactly if its file states
no timeout that is not a number, and so is that of each channel that is opened with it. A channel has the timeout that it
was given, and launches no command with another one. -/
theorem timeouts_positive_unless_nan (runtime : Runtime) (path : String) (file : Except Profile.FileError (List UInt8))
    (pid : Int) (executable : String) (timeout : Seconds) :
    (∀ p, Profile.ofFile runtime path file = .ok p →
      (p.launcher.timeout.positive = true ↔ ¬ Profile.StatesNan runtime file) ∧
        (p.launcher.timeout.isNan = true ↔ Profile.StatesNan runtime file) ∧
        ∀ j, Jcmd.ofPid pid executable (.real p.launcher.timeout) = .ok j →
          (j.timeout.positive = true ↔ ¬ Profile.StatesNan runtime file)) ∧
      ∀ j, Jcmd.ofPid pid executable timeout = .ok j → j.timeout = timeout ∧
        (j.timeout.positive = true ↔ timeout.isNan = false) ∧
        ∀ (σ : Type) (launcher launcher' : Launcher σ),
          (∀ argv, launcher.launch argv timeout = launcher'.launch argv timeout) →
            ∀ command, j.execute launcher command = j.execute launcher' command := by
  constructor
  · intro p h
    have hnan := Profile.isNan_iff_statesNan h
    have hpositive : p.launcher.timeout.positive = true ↔ ¬ Profile.StatesNan runtime file := by
      rw [Binary64.positive_iff_not_isNan (Profile.nonPositive_of_ofFile h), ← hnan, Bool.not_eq_true]
    refine ⟨hpositive, hnan, ?_⟩
    intro j hj
    rw [Jcmd.timeout_of_ofPid hj]
    exact hpositive
  · intro j hj
    obtain rfl := Jcmd.timeout_of_ofPid hj
    exact ⟨rfl, Seconds.positive_iff_not_isNan j.timeout_ok, fun σ launcher launcher' h => Jcmd.execute_congr h⟩

/-- thirty seconds, in a file and on a channel -/
theorem timeouts_positive_of_sample :
    let seconds := Scenario.sampleProfile.launcher.timeout
    Profile.ofFile .usual "profile.json" (.ok Scenario.sampleFile) = .ok Scenario.sampleProfile ∧
      ¬ Profile.StatesNan .usual (.ok Scenario.sampleFile) ∧
      ∃ j, Jcmd.ofPid 12 "jcmd" (.real seconds) = .ok j ∧ j.timeout = .real seconds ∧ j.timeout.positive = true := by
  intro seconds
  have hpositive : seconds.positive = true := by decide +kernel
  have hnan : (Seconds.real seconds).isNan = false := by decide +kernel
  have hj : Jcmd.ofPid 12 "jcmd" (.real seconds) = .ok ⟨12, "jcmd", .real seconds, by decide, by decide +kernel⟩ := rfl
  obtain ⟨hfile, hchannel⟩ :=
    timeouts_positive_unless_nan .usual "profile.json" (.ok Scenario.sampleFile) 12 "jcmd" (.real seconds)
  obtain ⟨htimeout, hpositive', -⟩ := hchannel _ hj
  exact ⟨Scenario.ofFile_sample, (hfile _ Scenario.ofFile_sample).1.1 hpositive, _, hj, htimeout, hpositive'.2 hnan⟩

/-- a file whose timeout is not a number -/
def nanFile : List UInt8 := Profile.asBytes (Profile.textWith " tid=0x([0-9a-fA-F]+) " "myInt" "NaN")

def nanProfile : Profile := { Scenario.sampleProfile with launcher := { timeout := Binary64.nan } }

/-- **Not every timeout is positive**: the file is read, and a channel is opened with what it states. -/
theorem nan_accepted :
    Profile.ofFile .usual "profile.json" (.ok nanFile) = .ok nanProfile ∧ nanProfile.launcher.timeout.positive = false ∧
      ∃ j, Jcmd.ofPid 12 "jcmd" (.real nanProfile.launcher.timeout) = .ok j ∧ j.timeout.positive = false := by
  have hascii : Profile.isAscii (Profile.textWith " tid=0x([0-9a-fA-F]+) " "myInt" "NaN") = true :=
    Profile.isAscii_textWith (by decide) (by decide) (by decide)
  have hfile : Profile.ofFile .usual "profile.json" (.ok nanFile) = .ok nanProfile :=
    Profile.ofFile_asBytes hascii (by decide +kernel) (by decide +kernel)
  exact ⟨hfile, rfl, ⟨12, "jcmd", .real Binary64.nan, by decide, rfl⟩, rfl, rfl⟩

end DebugFind
