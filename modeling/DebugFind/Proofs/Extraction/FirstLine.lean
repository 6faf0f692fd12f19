/-
The line that decides. A pattern finds an address on the first line that it matches, or nowhere: what its group captures
there is the address, or the reason why there is none.

- `firstMatch?_eq_some_iff`, `firstMatch?_eq_none_iff`: which line that is.
- `locate_eq_ok_iff`: an address is found exactly if hexadecimal digits are captured on this line.
- `locate_behind_unmatched`, `locate_ahead_of`: so it does not matter what other lines stand before and behind it.
- `extract_first_line`: the outcome of an extraction, with its records, for every pattern and every text.
-/
import DebugFind.Extraction.Address
import DebugFind.Proofs.Text

namespace DebugFind

open DebugFind.Text DebugFind.Numeral DebugFind.Pattern

/-- what a group of the pattern has taken in a match, or that it took no part; there is no answer about a group that the
pattern does not have -/
def Pattern.group? (pattern : Pattern) (d : Cursor) (group : Nat) : Option (Option (List Char)) :=
  if 1 ≤ group ∧ group ≤ pattern.groups then some (d.capture? group) else none

namespace ExtractionPattern

variable {p : ExtractionPattern}

/-! ## The first line -/

theorem captureIn?_eq_none_iff_search {line : List Char} :
    p.captureIn? line = none ↔ p.pattern.root.search line = none := Option.map_eq_none_iff

theorem firstMatch?_eq_findSome? (p : ExtractionPattern) (ls : List (List Char)) :
    p.firstMatch? ls = ls.findSome? fun line => (p.captureIn? line).map (line, ·) := by
  induction ls with
  | nil => rfl
  | cons line ls ih =>
    rw [firstMatch?, List.findSome?_cons]
    rcases p.captureIn? line with _ | captured
    · exact ih
    · rfl

theorem firstMatch?_eq_some_iff {ls : List (List Char)} {line : List Char} {captured : Option (List Char)} :
    p.firstMatch? ls = some (line, captured) ↔
      ∃ earlier later, ls = earlier ++ line :: later ∧ (∀ l ∈ earlier, p.captureIn? l = none) ∧
        p.captureIn? line = some captured := by
  rw [firstMatch?_eq_findSome?, List.findSome?_eq_some_iff]
  constructor
  · rintro ⟨earlier, line', later, hls, hline, hnone⟩
    obtain ⟨captured', hcaptured, heq⟩ := Option.map_eq_some_iff.1 hline
    cases heq
    exact ⟨earlier, later, hls, fun l hl => Option.map_eq_none_iff.1 (hnone l hl), hcaptured⟩
  · rintro ⟨earlier, later, hls, hnone, hcaptured⟩
    exact ⟨earlier, line, later, hls, by rw [hcaptured]; rfl, fun l hl => Option.map_eq_none_iff.2 (hnone l hl)⟩

theorem firstMatch?_eq_none_iff {ls : List (List Char)} :
    p.firstMatch? ls = none ↔ ∀ line ∈ ls, p.captureIn? line = none := by
  rw [firstMatch?_eq_findSome?, List.findSome?_eq_none_iff]
  simp only [Option.map_eq_none_iff]

theorem firstMatch?_append_of_none {front ls : List (List Char)} (h : ∀ line ∈ front, p.captureIn? line = none) :
    p.firstMatch? (front ++ ls) = p.firstMatch? ls := by
  rw [← firstMatch?_eq_none_iff, firstMatch?_eq_findSome?] at h
  rw [firstMatch?_eq_findSome?, firstMatch?_eq_findSome?, List.findSome?_append, h, Option.none_or]

theorem firstMatch?_of_prefix {start ls : List (List Char)} (hstart : start <+: ls) {found : List Char × Option (List Char)}
    (h : p.firstMatch? start = some found) : p.firstMatch? ls = some found := by
  obtain ⟨later, rfl⟩ := hstart
  rw [firstMatch?_eq_findSome?] at h
  rw [firstMatch?_eq_findSome?, List.findSome?_append, h, Option.some_or]

/-! ## The address on it -/

section Locate

variable {text : String} {line : List Char}

theorem locate_of_unmatched (h : p.firstMatch? (lines text.toList) = none) : p.locate text = .error ⟨p, text, none⟩ := by
  rw [locate, h]

theorem locate_of_digits {digits : List Char} (h : p.firstMatch? (lines text.toList) = some (line, some digits))
    (hdigits : isHexNumeral digits) : p.locate text = .ok (ofHex digits, String.ofList line) := by
  rw [locate, h]
  exact if_pos hdigits

theorem locate_of_other {captured : Option (List Char)}
    (h : p.firstMatch? (lines text.toList) = some (line, captured))
    (hother : ∀ digits, captured = some digits → ¬ isHexNumeral digits) :
    p.locate text = .error ⟨p, text, some (ExtractionFailure.notHexReason p.name captured line)⟩ := by
  rw [locate, h]
  rcases captured with _ | digits
  · rfl
  · exact if_neg (hother digits rfl)

/-- there is a failure, about the whole text, or digits on the first line that matches -/
theorem locate_cases (p : ExtractionPattern) (text : String) :
    (∃ reason, p.locate text = .error ⟨p, text, reason⟩) ∨
      ∃ line digits, p.firstMatch? (lines text.toList) = some (line, some digits) ∧ isHexNumeral digits := by
  rcases h : p.firstMatch? (lines text.toList) with _ | ⟨line, captured⟩
  · exact Or.inl ⟨_, locate_of_unmatched h⟩
  · by_cases hdigits : ∃ digits, captured = some digits ∧ isHexNumeral digits
    · obtain ⟨digits, rfl, hnumeral⟩ := hdigits
      exact Or.inr ⟨line, digits, rfl, hnumeral⟩
    · exact Or.inl ⟨_, locate_of_other h fun digits hd hnumeral => hdigits ⟨digits, hd, hnumeral⟩⟩

theorem locate_eq_ok_iff {found : Nat × String} :
    p.locate text = .ok found ↔ ∃ line digits, p.firstMatch? (lines text.toList) = some (line, some digits) ∧
      isHexNumeral digits ∧ found = (ofHex digits, String.ofList line) := by
  constructor
  · intro h
    rcases locate_cases p text with ⟨reason, hfailed⟩ | ⟨line, digits, hfirst, hnumeral⟩
    · rw [hfailed] at h
      cases h
    · rw [locate_of_digits hfirst hnumeral] at h
      exact ⟨line, digits, hfirst, hnumeral, (Except.ok.inj h).symm⟩
  · rintro ⟨line, digits, hfirst, hnumeral, rfl⟩
    exact locate_of_digits hfirst hnumeral

theorem eq_of_locate_error {f : ExtractionFailure} (h : p.locate text = .error f) : ∃ reason, f = ⟨p, text, reason⟩ := by
  rcases locate_cases p text with ⟨reason, hfailed⟩ | ⟨line, digits, hfirst, hnumeral⟩
  · rw [hfailed] at h
    exact ⟨reason, (Except.error.inj h).symm⟩
  · rw [locate_of_digits hfirst hnumeral] at h
    cases h

end Locate

/-- lines that do not match may stand in front -/
theorem locate_behind_unmatched {front : String} (hwhole : IsWhole front.toList)
    (hfront : ∀ line ∈ lines front.toList, p.captureIn? line = none) (text : String) (found : Nat × String) :
    p.locate (front ++ text) = .ok found ↔ p.locate text = .ok found := by
  rw [locate_eq_ok_iff, locate_eq_ok_iff, String.toList_append, lines_append hwhole, firstMatch?_append_of_none hfront]

/-- anything may stand behind a line that matches -/
theorem locate_ahead_of {start rest rest' : String} (hmatch : ∃ line ∈ lines start.toList, p.captureIn? line ≠ none)
    (hrest : AtLineEnd start.toList rest.toList) (hrest' : AtLineEnd start.toList rest'.toList)
    (found : Nat × String) : p.locate (start ++ rest) = .ok found ↔ p.locate (start ++ rest') = .ok found := by
  obtain ⟨first, hfirst⟩ : ∃ first, p.firstMatch? (lines start.toList) = some first := by
    rw [← Option.ne_none_iff_exists', Ne, firstMatch?_eq_none_iff]
    simpa using hmatch
  rw [locate_eq_ok_iff, locate_eq_ok_iff, String.toList_append, String.toList_append,
    firstMatch?_of_prefix (lines_prefix_append hrest) hfirst, firstMatch?_of_prefix (lines_prefix_append hrest') hfirst]

/-! ## Extraction -/

/-- the records of an address that was found on a line -/
def findings (p : ExtractionPattern) (logger : Logger) (line : String) (address : Nat) : List Event :=
  [.logged ⟨.info, logger, "Matched line: " ++ line⟩,
    .logged ⟨.info, logger, "Found '" ++ p.name ++ "', using pointer: " ++ hexText address⟩]

theorem extract_of_found {σ : Type} {text line : String} {address : Nat} (h : p.locate text = .ok (address, line))
    (logger : Logger) (s : σ) : p.extract text logger s = ⟨.ok address, s, p.findings logger line address⟩ := by
  rw [extract, h]
  rfl

theorem extract_of_failed {σ : Type} {text : String} {f : ExtractionFailure} (h : p.locate text = .error f)
    (logger : Logger) (s : σ) : p.extract text logger s = ⟨.error (.extraction f), s, []⟩ := by
  rw [extract, h]
  rfl

theorem result_extract_eq_ok_iff {σ : Type} {text : String} {logger : Logger} {s : σ} {address : Nat} :
    (p.extract text logger s).result = .ok address ↔ ∃ line, p.locate text = .ok (address, line) := by
  rcases h : p.locate text with f | ⟨found, line⟩
  · rw [extract_of_failed h]
    simp
  · rw [extract_of_found h]
    simp

/-- a failure is about the pattern and the whole text, and leaves no record -/
theorem extract_of_error {σ : Type} {text : String} {logger : Logger} {s : σ} {e : Failure}
    (h : (p.extract text logger s).result = .error e) :
    (∃ reason, e = .extraction ⟨p, text, reason⟩) ∧ (p.extract text logger s).events = [] := by
  rcases hlocate : p.locate text with f | ⟨address, line⟩
  · obtain ⟨reason, rfl⟩ := eq_of_locate_error hlocate
    rw [extract_of_failed hlocate] at h ⊢
    exact ⟨⟨reason, (Except.error.inj h).symm⟩, rfl⟩
  · rw [extract_of_found hlocate] at h
    cases h

/-- **The first line that matches decides.** Without such a line there is a failure without a reason. Otherwise the pattern
has the group that it is asked for, and what this group took on the line is all that counts: if it is hexadecimal digits,
their value is found, which is a natural number, with two records; if it is anything else, or the group took no part,
there is a failure with a reason. No failure leaves a record, and each carries the pattern and the whole text. So neither
lines in front that do not match, nor anything behind the line, make a difference to the address. -/
theorem extract_first_line {σ : Type} (p : ExtractionPattern) (text : String) (logger : Logger) (s : σ) :
    let search := p.pattern.root.search
    let outcome (text : String) := p.extract text logger s
    ((∀ line ∈ lines text.toList, search line = none) →
        outcome text = ⟨.error (.extraction ⟨p, text, none⟩), s, []⟩) ∧
      (∀ earlier line later d, lines text.toList = earlier ++ line :: later → (∀ l ∈ earlier, search l = none) →
        search line = some d →
        ∃ captured, p.pattern.group? d p.group = some captured ∧
          (∀ digits, captured = some digits → isHexNumeral digits → outcome text =
            ⟨.ok (ofHex digits), s, [.logged ⟨.info, logger, "Matched line: " ++ String.ofList line⟩,
              .logged ⟨.info, logger, "Found '" ++ p.name ++ "', using pointer: " ++ hexText (ofHex digits)⟩]⟩) ∧
          ((∀ digits, captured = some digits → ¬ isHexNumeral digits) →
            ∃ reason, outcome text = ⟨.error (.extraction ⟨p, text, some reason⟩), s, []⟩)) ∧
      (∀ e, (outcome text).result = .error e →
        (∃ reason, e = .extraction ⟨p, text, reason⟩) ∧ (outcome text).events = []) ∧
      (∀ front : String, IsWhole front.toList → (∀ line ∈ lines front.toList, search line = none) →
        ∀ address, (outcome (front ++ text)).result = .ok address ↔ (outcome text).result = .ok address) ∧
      ∀ start rest rest' : String, (∃ line ∈ lines start.toList, search line ≠ none) →
        AtLineEnd start.toList rest.toList → AtLineEnd start.toList rest'.toList →
        ∀ address, (outcome (start ++ rest)).result = .ok address ↔ (outcome (start ++ rest')).result = .ok address := by
  intro search outcome
  have hunmatched {line : List Char} : p.captureIn? line = none ↔ search line = none := captureIn?_eq_none_iff_search
  refine ⟨?_, ?_, fun e he => extract_of_error he, ?_, ?_⟩
  · intro hnone
    have hfirst := firstMatch?_eq_none_iff.2 fun line hline => hunmatched.2 (hnone line hline)
    exact extract_of_failed (locate_of_unmatched hfirst) logger s
  · intro earlier line later d hlines hearlier hline
    have hfirst : p.firstMatch? (lines text.toList) = some (line, d.capture? p.group) := by
      refine firstMatch?_eq_some_iff.2 ⟨earlier, later, hlines, fun l hl => hunmatched.2 (hearlier l hl), ?_⟩
      exact Option.map_eq_some_iff.2 ⟨d, hline, rfl⟩
    refine ⟨d.capture? p.group, if_pos ⟨p.one_le_group, p.group_le⟩, ?_, ?_⟩
    · intro digits hdigits hnumeral
      rw [hdigits] at hfirst
      exact extract_of_found (locate_eq_ok_iff.2 ⟨line, digits, hfirst, hnumeral, rfl⟩) logger s
    · intro hother
      exact ⟨_, extract_of_failed (locate_of_other hfirst hother) logger s⟩
  · intro front hwhole hfront address
    rw [result_extract_eq_ok_iff, result_extract_eq_ok_iff]
    simp only [locate_behind_unmatched hwhole fun line hline => hunmatched.2 (hfront line hline)]
  · intro start rest rest' hmatch hrest hrest' address
    rw [result_extract_eq_ok_iff, result_extract_eq_ok_iff]
    have hmatch' : ∃ line ∈ lines start.toList, p.captureIn? line ≠ none := by
      obtain ⟨line, hmem, hline⟩ := hmatch
      exact ⟨line, hmem, fun h => hline (hunmatched.1 h)⟩
    simp only [locate_ahead_of hmatch' hrest hrest']

/-- digits behind a mark are no address, though there are digits alone on the next line -/
example : ((compile .usual "place" "at (\\S*)").toOption.map fun p =>
    (p.locate "nothing\u2028at 0x1\nat 1").mapError (·.reason)) =
      some (.error (some "Pattern 'place' captured non-hex address '0x1' on line 'at 0x1'")) := by
  decide +kernel

end ExtractionPattern

end DebugFind
