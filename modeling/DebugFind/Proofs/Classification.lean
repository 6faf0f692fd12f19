/-
What an assertion about a response means. `check_eq_ok_iff` says when one passes: the required markers occur, the
forbidden ones do not, and a response about an object shows the field that is expected. A response shows a field on a
line that describes it, somewhere after a header line (`StandsAmong`); the reader of fields finds exactly those
(`mem_ofLines_iff`).

A response is `Legible` if no field in it has an offset that is too long to be read. An assertion about a legible
response either passes or is a mismatch (`check_eq_error`).
-/
import DebugFind.Classification.Assertion
import DebugFind.Proofs.Numeral

namespace DebugFind

open DebugFind.Text DebugFind.Numeral

/-! ## Fields -/

namespace ObjectField

/-- the field stands among lines: on a line that describes it, after a header line unless one has been met before; a
header line describes no field -/
def StandsAmong (f : ObjectField) (afterHeader : Bool) (ls : List (List Char)) : Prop :=
  ∃ before line after, ls = before ++ line :: after ∧
    (afterHeader = true ∨ ∃ header ∈ before, occurs headerMarker.toList header = true) ∧
    occurs headerMarker.toList line = false ∧ ofLine line = .ok (some f)

theorem standsAmong_cons {f : ObjectField} {afterHeader : Bool} {line : List Char} {rest : List (List Char)} :
    f.StandsAmong afterHeader (line :: rest) ↔
      (afterHeader = true ∧ occurs headerMarker.toList line = false ∧ ofLine line = .ok (some f)) ∨
        f.StandsAmong (afterHeader || occurs headerMarker.toList line) rest := by
  constructor
  · rintro ⟨before, line', after, hsplit, hheader, hline, hf⟩
    cases before with
    | nil =>
      cases hsplit
      exact Or.inl ⟨hheader.resolve_right (by simp), hline, hf⟩
    | cons first before =>
      cases hsplit
      refine Or.inr ⟨before, line', after, rfl, ?_, hline, hf⟩
      rcases hheader with h | ⟨header, hmem, h⟩
      · exact Or.inl (by rw [h, Bool.true_or])
      · rcases List.mem_cons.1 hmem with rfl | hmem
        · exact Or.inl (by rw [h, Bool.or_true])
        · exact Or.inr ⟨header, hmem, h⟩
  · rintro (⟨hheader, hline, hf⟩ | ⟨before, line', after, rfl, hheader, hline, hf⟩)
    · exact ⟨[], line, rest, rfl, Or.inl hheader, hline, hf⟩
    · refine ⟨line :: before, line', after, rfl, ?_, hline, hf⟩
      rcases hheader with h | ⟨header, hmem, h⟩
      · rcases Bool.or_eq_true_iff.1 h with h | h
        · exact Or.inl h
        · exact Or.inr ⟨line, List.mem_cons_self, h⟩
      · exact Or.inr ⟨header, List.mem_cons_of_mem line hmem, h⟩

/-- the reader finds exactly the fields that stand among the lines -/
theorem mem_ofLines_iff {f : ObjectField} {afterHeader : Bool} {ls : List (List Char)} {fields : List ObjectField}
    (h : ofLines afterHeader ls = .ok fields) : f ∈ fields ↔ f.StandsAmong afterHeader ls := by
  induction ls generalizing afterHeader fields with
  | nil =>
    cases h
    simp [StandsAmong]
  | cons line rest ih =>
    rw [ofLines] at h
    rw [standsAmong_cons]
    split_ifs at h with hheader hafter
    · rw [ih h, hheader]
      simp
    · cases hline : ofLine line with
      | error e =>
        rw [hline] at h
        cases h
      | ok field =>
        cases hrest : ofLines true rest with
        | error e =>
          rw [hline, hrest] at h
          cases h
        | ok others =>
          rw [hline, hrest] at h
          cases h
          simp [ih hrest, hafter, hheader]
    · simp only [Bool.not_eq_true] at hheader hafter
      rw [ih h, hheader, hafter]
      simp

/-- the offset of no field line is too long to be read -/
def Legible (ls : List (List Char)) : Prop :=
  ∀ line ∈ ls, ∀ modifiers name typeTag digits value,
    split? line = some (modifiers, name, typeTag, digits, value) → digits.length ≤ digitLimit

instance (ls : List (List Char)) : Decidable (Legible ls) :=
  decidable_of_iff (∀ line ∈ ls, ∀ parts ∈ split? line, parts.2.2.2.1.length ≤ digitLimit)
    ⟨fun h line hline _ _ _ _ _ hparts => h line hline _ hparts,
      fun h line hline _ hparts => h line hline _ _ _ _ _ hparts⟩

theorem ofLine_of_legible {line : List Char} {ls : List (List Char)} (h : Legible ls) (hline : line ∈ ls) :
    ∃ field, ofLine line = .ok field := by
  unfold ofLine
  cases hsplit : split? line with
  | none => exact ⟨none, rfl⟩
  | some parts =>
    obtain ⟨modifiers, name, typeTag, digits, value⟩ := parts
    have hdigits : (digits.filterMap digitValue?).length ≤ digitLimit :=
      (List.length_filterMap_le _ _).trans (h line hline modifiers name typeTag digits value hsplit)
    simp only [ofDecimal, ofDecimalDigits, if_pos hdigits]
    exact ⟨_, rfl⟩

theorem ofLines_of_legible (afterHeader : Bool) {ls : List (List Char)} (h : Legible ls) :
    ∃ fields, ofLines afterHeader ls = .ok fields := by
  induction ls generalizing afterHeader with
  | nil => exact ⟨[], rfl⟩
  | cons line rest ih =>
    have hrest : Legible rest := fun l hl => h l (List.mem_cons_of_mem line hl)
    rw [ofLines]
    split_ifs
    · exact ih true hrest
    · obtain ⟨field, hfield⟩ := ofLine_of_legible h List.mem_cons_self
      obtain ⟨fields, hfields⟩ := ih true hrest
      rw [hfield, hfields]
      exact ⟨_, rfl⟩
    · exact ih false hrest

end ObjectField

/-! ## Expectations -/

namespace FieldExpectation

variable {e : FieldExpectation}

/-- the value can be written if it decided about a field -/
theorem writable_of_accepts {f : ObjectField} (h : e.accepts f = .ok true) : Numeral.Writable e.value := by
  by_contra hvalue
  rw [accepts] at h
  split_ifs at h
  · rw [acceptsValue, write_of_not_writable hvalue] at h
    cases h
  · cases h

/-- the expectation in words, whatever the length of its value -/
def description (e : FieldExpectation) : String :=
  "field '" ++ e.name ++ "' '" ++ e.typeTag ++ "' = " ++ String.ofList (decimal e.value) ++
    (if e.isSingleDigit then "" else " (" ++ e.hint ++ ")")

theorem describe_eq (h : Numeral.Writable e.value) : e.describe = .ok e.description := by
  rw [describe, write_of_writable h]
  rfl

theorem describe_of_writable (h : Numeral.Writable e.value) : ∃ text, e.describe = .ok text := ⟨_, describe_eq h⟩

theorem accepts_of_writable (h : Numeral.Writable e.value) (f : ObjectField) : ∃ b, e.accepts f = .ok b := by
  unfold accepts acceptsValue
  rw [write_of_writable h]
  split_ifs
  · exact ⟨_, rfl⟩
  · simp only [bind, Except.bind]
    split <;> exact ⟨_, rfl⟩
  · exact ⟨_, rfl⟩

theorem isAmong_of_writable (h : Numeral.Writable e.value) (fields : List ObjectField) :
    ∃ b, e.isAmong fields = .ok b ∧ (b = true ↔ ∃ f ∈ fields, e.accepts f = .ok true) := by
  induction fields with
  | nil => exact ⟨false, rfl, by simp⟩
  | cons f rest ih =>
    obtain ⟨b, hb, hiff⟩ := ih
    obtain ⟨found, hfound⟩ := accepts_of_writable h f
    rw [isAmong, hfound]
    cases found with
    | true => exact ⟨true, rfl, by simp [hfound]⟩
    | false => exact ⟨b, hb, by simp [hfound, hiff]⟩

/-- a field that is found has a value that can be written -/
theorem exists_of_isAmong {fields : List ObjectField} (h : e.isAmong fields = .ok true) :
    ∃ f ∈ fields, e.accepts f = .ok true := by
  induction fields with
  | nil => cases h
  | cons f rest ih =>
    rw [isAmong] at h
    cases hfound : e.accepts f with
    | error err =>
      rw [hfound] at h
      cases h
    | ok found =>
      cases found with
      | true => exact ⟨f, List.mem_cons_self, hfound⟩
      | false =>
        rw [hfound] at h
        obtain ⟨g, hg, hg'⟩ := ih h
        exact ⟨g, List.mem_cons_of_mem f hg, hg'⟩

/-- a text shows the expected field -/
def ShownIn (e : FieldExpectation) (text : String) : Prop :=
  ∃ f : ObjectField, f.StandsAmong false (lines text.toList) ∧ e.accepts f = .ok true

end FieldExpectation

/-! ## Assertions -/

namespace Classification

variable {text : String} {expected : Classification} {verbose : Bool} {field : Option FieldExpectation}

/-- the text carries all markers that a class requires, and none that it forbids -/
def Marked (text : String) (expected : Classification) (verbose : Bool) : Prop :=
  (∀ marker ∈ expected.required verbose, contains text marker = true) ∧
    ∀ marker ∈ expected.forbidden, contains text marker = false

theorem shownIn_of_missingField {e : FieldExpectation} (h : missingField text (some e) = .ok []) : e.ShownIn text := by
  simp only [missingField, bind, Except.bind, pure, Except.pure] at h
  cases hfields : ObjectField.ofText text with
  | error err =>
    rw [hfields] at h
    cases h
  | ok fields =>
    simp only [hfields] at h
    cases hfound : e.isAmong fields with
    | error err =>
      rw [hfound] at h
      cases h
    | ok found =>
      cases found with
      | true =>
        obtain ⟨f, hf, haccepts⟩ := FieldExpectation.exists_of_isAmong hfound
        exact ⟨f, (ObjectField.mem_ofLines_iff hfields).1 hf, haccepts⟩
      | false =>
        simp only [hfound, Bool.false_eq_true, if_false] at h
        cases hdescribe : e.describe <;> simp [hdescribe] at h

/-- the description of an expected field that is none of the fields of a response -/
def missingWords (field : Option FieldExpectation) (fields : List ObjectField) : List String :=
  match field with
  | none => []
  | some e => if ∃ f ∈ fields, e.accepts f = .ok true then [] else [e.description]

theorem missingWords_eq_nil_iff {fields : List ObjectField} :
    missingWords field fields = [] ↔ ∀ e ∈ field, ∃ f ∈ fields, e.accepts f = .ok true := by
  cases field with
  | none => simp [missingWords]
  | some e => simp [missingWords]

/-- what is missing of an expected field can be told if the value can be written -/
theorem missingField_eq {fields : List ObjectField} (hfields : ObjectField.ofText text = .ok fields)
    (hfield : ∀ e ∈ field, Numeral.Writable e.value) :
    missingField text field = .ok (missingWords field fields) := by
  cases field with
  | none => rfl
  | some e =>
    have hvalue : Numeral.Writable e.value := hfield e rfl
    obtain ⟨found, hfound, hiff⟩ := FieldExpectation.isAmong_of_writable hvalue fields
    simp only [missingField, missingWords, hfields, hfound, FieldExpectation.describe_eq hvalue, ← hiff, bind,
      Except.bind, pure, Except.pure]
    split_ifs <;> rfl

/-- what is missing of an expected field can be told if the value can be written and the text is legible -/
theorem missingField_of_legible (hlegible : ObjectField.Legible (lines text.toList))
    (hfield : ∀ e ∈ field, Numeral.Writable e.value) :
    ∃ missing, missingField text field = .ok missing ∧ (missing = [] ↔ ∀ e ∈ field, e.ShownIn text) := by
  obtain ⟨fields, hfields⟩ := ObjectField.ofLines_of_legible false hlegible
  refine ⟨_, missingField_eq hfields hfield, ?_⟩
  rw [missingWords_eq_nil_iff]
  simp only [FieldExpectation.ShownIn, ObjectField.mem_ofLines_iff hfields]

theorem marked_iff : Marked text expected verbose ↔
    (expected.required verbose).filter (!contains text ·) = [] ∧ expected.forbidden.filter (contains text ·) = [] := by
  simp [Marked, List.filter_eq_nil_iff]

/-- the field that an assertion about an object asks for; others ask for none -/
def absentField (text : String) (expected : Classification) (field : Option FieldExpectation) :
    Except Numeral.Error (List String) :=
  if expected = .managedObject then missingField text field else .ok []

theorem differences_eq : differences text expected verbose field =
    (absentField text expected field).map fun fieldAbsent =>
      ⟨expected, text, (expected.required verbose).filter (!contains text ·) ++ fieldAbsent,
        expected.forbidden.filter (contains text ·)⟩ := by
  rw [differences, absentField]
  split_ifs
  · cases missingField text field <;> rfl
  · rfl

/-- how a text differs from a class, if so much is missing of an expected field -/
def mismatchOf (text : String) (expected : Classification) (verbose : Bool) (fieldAbsent : List String) : Mismatch :=
  ⟨expected, text, (expected.required verbose).filter (!contains text ·) ++ fieldAbsent,
    expected.forbidden.filter (contains text ·)⟩

/-- an assertion is a mismatch as soon as something is missing or not expected -/
theorem check_eq (hexpected : expected ≠ .unknown) {fieldAbsent : List String}
    (h : absentField text expected field = .ok fieldAbsent) :
    check text expected verbose field =
      if (mismatchOf text expected verbose fieldAbsent).missing = [] ∧
          (mismatchOf text expected verbose fieldAbsent).unexpected = [] then .ok ()
      else .error (.mismatch (mismatchOf text expected verbose fieldAbsent)) := by
  rw [check, if_neg hexpected, differences_eq, h]
  refine if_congr ?_ rfl rfl
  simp only [mismatchOf, Bool.and_eq_true, List.isEmpty_iff]

/-- an assertion passes if the markers are right and nothing of the field is missing -/
theorem check_eq_ok_iff_marked (hexpected : expected ≠ .unknown) :
    check text expected verbose field = .ok () ↔
      Marked text expected verbose ∧ (expected = .managedObject → missingField text field = .ok []) := by
  have hasked : absentField text expected field = .ok [] ↔
      (expected = .managedObject → missingField text field = .ok []) := by
    rw [absentField]
    split_ifs with h <;> simp [h]
  rw [check, if_neg hexpected, differences_eq, marked_iff, ← hasked]
  cases absentField text expected field with
  | error err => simp [Except.map]
  | ok missing =>
    simp only [Except.map, Bool.and_eq_true, List.isEmpty_iff, List.append_eq_nil_iff, ite_eq_left_iff, reduceCtorEq,
      imp_false, not_not, Except.ok.injEq]
    tauto

/-- a response about an object that passes shows the field that is expected -/
theorem shownIn_of_check {e : FieldExpectation} (h : check text .managedObject verbose (some e) = .ok ()) :
    e.ShownIn text :=
  shownIn_of_missingField (((check_eq_ok_iff_marked (by decide)).1 h).2 rfl)

/-- **What an assertion means**, for a legible response and an expected value that can be written. -/
theorem check_eq_ok_iff (hlegible : ObjectField.Legible (lines text.toList))
    (hfield : ∀ e ∈ field, Numeral.Writable e.value) (hexpected : expected ≠ .unknown) :
    check text expected verbose field = .ok () ↔
      Marked text expected verbose ∧ (expected = .managedObject → ∀ e ∈ field, e.ShownIn text) := by
  obtain ⟨missing, hmissing, hiff⟩ := missingField_of_legible hlegible hfield
  rw [check_eq_ok_iff_marked hexpected, hmissing, Except.ok.injEq, hiff]

/-- an assertion about a legible response that does not pass is a mismatch -/
theorem check_eq_error (hlegible : ObjectField.Legible (lines text.toList))
    (hfield : ∀ e ∈ field, Numeral.Writable e.value) (hexpected : expected ≠ .unknown) {err : Failure}
    (h : check text expected verbose field = .error err) : ∃ m, err = .mismatch m := by
  obtain ⟨missing, hmissing, -⟩ := missingField_of_legible hlegible hfield
  have habsent : ∃ fieldAbsent, absentField text expected field = .ok fieldAbsent := by
    rw [absentField, hmissing]
    split_ifs <;> exact ⟨_, rfl⟩
  obtain ⟨fieldAbsent, habsent⟩ := habsent
  rw [check_eq hexpected habsent] at h
  split_ifs at h
  cases h
  exact ⟨_, rfl⟩

end Classification

end DebugFind
