/-
Responses that are not legible. The fields of a response stand on the lines behind its first header line (`fieldLines`). A
field whose offset has too many digits cannot be read (`HasLongOffset`), and then no field of the response is: reading
fails as it does for the first such line (`ofText_eq_error_iff`).

An assertion with an expected field then fails, but not as a mismatch, and that is the only other way in which it can
(`check_by_mismatch_iff`). `field_hidden_by_offset` is a response that shows the field that is expected, and fails so.
-/
import DebugFind.Proofs.Fallible
import DebugFind.Proofs.FieldSection
import DebugFind.Proofs.Scenario.Verdict

namespace DebugFind

open DebugFind.Text DebugFind.Numeral

namespace ObjectField

/-! ## Lines of fields -/

/-- the lines behind the first header line, further header lines apart -/
def fieldLines (ls : List (List Char)) : List (List Char) :=
  (ls.dropWhile (!occurs headerMarker.toList ·)).filter (!occurs headerMarker.toList ·)

theorem ofLines_true_eq (ls : List (List Char)) :
    ofLines true ls = (ls.filter (!occurs headerMarker.toList ·)).filterMapM ofLine := by
  induction ls with
  | nil => rfl
  | cons line rest ih =>
    rw [ofLines]
    by_cases hheader : occurs headerMarker.toList line = true
    · rw [if_pos hheader, List.filter_cons_of_neg (by simp [hheader]), ih]
    · rw [if_neg hheader, if_pos rfl, List.filter_cons_of_pos (by simp [hheader])]
      rcases hline : ofLine line with e | field
      · rw [filterMapM_cons_of_error hline]
        rfl
      · rw [filterMapM_cons_of_ok hline, ← ih]
        rfl

theorem mem_of_mem_fieldLines {ls : List (List Char)} {line : List Char} (h : line ∈ fieldLines ls) : line ∈ ls :=
  (List.dropWhile_sublist _).subset (List.mem_of_mem_filter h)

theorem fieldLines_append {before after : List (List Char)} {header : List Char}
    (hbefore : ∀ line ∈ before, occurs headerMarker.toList line = false)
    (hheader : occurs headerMarker.toList header = true) (hafter : ∀ line ∈ after, occurs headerMarker.toList line = false) :
    fieldLines (before ++ header :: after) = after := by
  rw [fieldLines, List.dropWhile_append_of_pos (by simpa using hbefore), List.dropWhile_cons_of_neg (by simp [hheader]),
    List.filter_cons_of_neg (by simp [hheader]), List.filter_eq_self]
  simpa using hafter

theorem ofLines_false_eq (ls : List (List Char)) : ofLines false ls = (fieldLines ls).filterMapM ofLine := by
  induction ls with
  | nil => rfl
  | cons line rest ih =>
    rw [ofLines, fieldLines]
    by_cases hheader : occurs headerMarker.toList line = true
    · rw [if_pos hheader, List.dropWhile_cons_of_neg (by simp [hheader]), List.filter_cons_of_neg (by simp [hheader]),
        ofLines_true_eq]
    · rw [if_neg hheader, if_neg (by decide), List.dropWhile_cons_of_pos (by simp [hheader]), ih, fieldLines]

/-! ## Long offsets -/

/-- a line describes a field whose offset has so many digits, which are too many -/
def HasLongOffset (line : List Char) (digits : Nat) : Prop :=
  digitLimit < digits ∧ ∃ modifiers name typeTag offset value,
    split? line = some (modifiers, name, typeTag, offset, value) ∧ offset.length = digits

theorem ofLine_eq_error_iff {line : List Char} {e : Numeral.Error} :
    ofLine line = .error e ↔ ∃ digits, HasLongOffset line digits ∧ e = .tooLongToRead digits := by
  unfold ofLine HasLongOffset
  rcases hsplit : split? line with _ | ⟨modifiers, name, typeTag, offset, value⟩
  · simp
  · have hlength : (offset.filterMap digitValue?).length = offset.length :=
      length_filterMap_digitValue? (split?_eq_some_iff.1 hsplit).numeral.2
    simp only [ofDecimal, ofDecimalDigits, hlength, Option.some.injEq, Prod.mk.injEq]
    by_cases hfits : offset.length ≤ digitLimit
    · rw [if_pos hfits]
      refine iff_of_false (fun h => by cases h) ?_
      rintro ⟨_, ⟨hlong, _, _, _, _, _, ⟨-, -, -, rfl, -⟩, rfl⟩, -⟩
      omega
    · rw [if_neg hfits]
      constructor
      · intro h
        cases h
        exact ⟨_, ⟨Nat.lt_of_not_le hfits, _, _, _, _, _, ⟨rfl, rfl, rfl, rfl, rfl⟩, rfl⟩, rfl⟩
      · rintro ⟨_, ⟨-, _, _, _, _, _, ⟨-, -, -, rfl, -⟩, rfl⟩, rfl⟩
        rfl

theorem not_hasLongOffset_of_legible {ls : List (List Char)} (h : Legible ls) {line : List Char} (hline : line ∈ ls)
    (digits : Nat) : ¬ HasLongOffset line digits := by
  rintro ⟨hlong, modifiers, name, typeTag, offset, value, hsplit, rfl⟩
  have hfits := h line hline modifiers name typeTag offset value hsplit
  omega

/-- a field that is written has a long offset if this cannot be written -/
theorem hasLongOffset_line {f : ObjectField} (h : f.Separable) (hoffset : ¬ Numeral.Writable f.offset) :
    HasLongOffset f.line.toList (decimalDigits f.offset).length :=
  ⟨Nat.lt_of_not_le hoffset, _, _, _, _, _, split?_line h, rfl⟩

/-- **The fields of a text cannot be read** because of its first field line with a long offset. -/
theorem ofText_eq_error_iff {text : String} {e : Numeral.Error} :
    ofText text = .error e ↔ ∃ line digits,
      FirstOf (fun line => ∃ n, HasLongOffset line n) (fieldLines (lines text.toList)) line ∧
        HasLongOffset line digits ∧ e = .tooLongToRead digits := by
  have hfails : (fun line => ∃ e', ofLine line = .error e') = fun line => ∃ n, HasLongOffset line n := by
    funext line
    simp [ofLine_eq_error_iff]
  rw [ofText, ofLines_false_eq, filterMapM_eq_error_iff, hfails]
  refine exists_congr fun line => ?_
  rw [ofLine_eq_error_iff, exists_and_left]

end ObjectField

/-! ## Assertions about texts that cannot be read -/

/-- the expectation is one that a profile has -/
def FieldExpectation.IsLoaded (e : FieldExpectation) : Prop :=
  ∃ runtime path file p, Profile.ofFile runtime path file = .ok p ∧ p.expectedField = e

theorem FieldExpectation.IsLoaded.writable {e : FieldExpectation} (h : e.IsLoaded) : Numeral.Writable e.value := by
  obtain ⟨runtime, path, file, p, hfile, rfl⟩ := h
  exact (Profile.proper_of_ofFile hfile).value

namespace Classification

variable {text : String} {expected : Classification} {field : Option FieldExpectation}

/-- what an assertion looks for in the fields is not known if these are asked for and cannot be read, and else it is -/
theorem absentField_eq_error_iff (hfield : ∀ e ∈ field, Numeral.Writable e.value) {err : Numeral.Error} :
    absentField text expected field = .error err ↔
      (expected = .managedObject ∧ field ≠ none) ∧ ObjectField.ofText text = .error err := by
  rw [absentField]
  by_cases hobject : expected = .managedObject
  · rw [if_pos hobject]
    rcases hfields : ObjectField.ofText text with err' | fields
    · cases field with
      | none => simp [missingField]
      | some e => simp [missingField, hfields, hobject, bind, Except.bind]
    · rw [missingField_eq hfields hfield]
      simp
  · rw [if_neg hobject]
    simp [hobject]

/-- an assertion fails as its field does, or is a matter of markers and fields -/
theorem check_of_absentField_error (hexpected : expected ≠ .unknown) (verbose : Bool) {err : Numeral.Error}
    (h : absentField text expected field = .error err) : check text expected verbose field = .error (.numeral err) := by
  rw [check, if_neg hexpected, differences_eq, h]
  rfl

/-- **An assertion fails by a mismatch**, whatever the response, unless it is about an object with an expected field and
the response describes a field whose offset has too many digits. Then it fails because of the first such field. -/
theorem check_by_mismatch_iff (hexpected : expected ≠ .unknown) (hfield : ∀ e ∈ field, e.IsLoaded) (text : String)
    (verbose : Bool) :
    let result := check text expected verbose field
    let long (line : List Char) := ∃ digits, ObjectField.HasLongOffset line digits
    let fieldLines := ObjectField.fieldLines (lines text.toList)
    ((result = .ok () ∨ ∃ m, result = .error (.mismatch m)) ↔
        ¬ ((expected = .managedObject ∧ field ≠ none) ∧ ∃ line ∈ fieldLines, long line)) ∧
      ∀ err, result = .error err → (∃ m, err = .mismatch m) ∨
        ∃ line digits, FirstOf long fieldLines line ∧ ObjectField.HasLongOffset line digits ∧
          err = .numeral (.tooLongToRead digits) := by
  intro result long fieldLines
  have hwritable : ∀ e ∈ field, Numeral.Writable e.value := fun e he => (hfield e he).writable
  rcases habsent : absentField text expected field with err | fieldAbsent
  · have hresult : result = .error (.numeral err) := check_of_absentField_error hexpected verbose habsent
    obtain ⟨hasked, hunread⟩ := (absentField_eq_error_iff hwritable).1 habsent
    obtain ⟨line, digits, hfirst, hlong, rfl⟩ := ObjectField.ofText_eq_error_iff.1 hunread
    rw [hresult]
    constructor
    · refine iff_of_false (by simp) fun hnot => hnot ⟨hasked, line, hfirst.mem, digits, hlong⟩
    · intro err' herr
      cases herr
      exact Or.inr ⟨line, digits, hfirst, hlong, rfl⟩
  · have hresult : result = .ok () ∨ ∃ m, result = .error (.mismatch m) := by
      have hcheck : check text expected verbose field = _ := check_eq hexpected habsent
      split_ifs at hcheck
      · exact Or.inl hcheck
      · exact Or.inr ⟨_, hcheck⟩
    constructor
    · refine iff_of_true hresult ?_
      rintro ⟨hasked, line, hline, hlong⟩
      obtain ⟨first, hfirst⟩ : ∃ first, FirstOf long fieldLines first := exists_firstOf hline hlong
      obtain ⟨digits, hdigits⟩ := hfirst.holds
      have hunread := ObjectField.ofText_eq_error_iff.2 ⟨first, digits, hfirst, hdigits, rfl⟩
      have hfails := (absentField_eq_error_iff hwritable).2 ⟨hasked, hunread⟩
      rw [habsent] at hfails
      cases hfails
    · intro err herr
      rcases hresult with hok | ⟨m, hm⟩
      · rw [hok] at herr
        cases herr
      · rw [hm] at herr
        exact Or.inl ⟨m, (Except.error.inj herr).symm⟩

/-- an answer whose first field is not behind the header line -/
theorem check_by_mismatch_iff_of_early_field :
    let text := "0x20 is an oop: MyLock\n - 'early' 'I' @8  1\n - ---- fields (total size 2 words):\n - 'x' 'I' @12  1\n"
    let field := some Scenario.sampleProfile.expectedField
    Classification.managedObject ≠ .unknown ∧ (∀ e ∈ field, e.IsLoaded) ∧
      let result := check text .managedObject false field
      (result = .ok () ∨ ∃ m, result = .error (.mismatch m)) := by
  intro text field
  have hloaded : ∀ e ∈ field, e.IsLoaded := fun e he => ⟨_, _, _, _, Scenario.ofFile_sample, Option.some.inj he⟩
  have hlegible : ObjectField.Legible (lines text.toList) := by decide +kernel
  refine ⟨by decide, hloaded, (check_by_mismatch_iff (by decide) hloaded text false).1.2 ?_⟩
  rintro ⟨-, line, hline, digits, hlong⟩
  exact ObjectField.not_hasLongOffset_of_legible hlegible (ObjectField.mem_of_mem_fieldLines hline) digits hlong

/-- the field that is expected unless another one is -/
def nearField : ObjectField := ⟨[], "myInt", "I", 12, "12345 (0x00003039)"⟩

/-- a field with a given offset -/
def farField (offset : Nat) : ObjectField := ⟨[], "far", "I", offset, "0"⟩

/-- an answer that shows both -/
def farText (offset : Nat) : String :=
  "0x20 is an oop: MyLock\n" ++ ("\n".intercalate (ObjectField.sectionLines 2 [nearField, farField offset]) ++ "\n")

theorem separable_nearField : nearField.Separable where
  modifiers := fun _ hm => absurd hm List.not_mem_nil
  name := by decide
  typeTag := by decide
  unbroken := by decide
  stripped := by decide
  noHeader := by decide +kernel

theorem separable_farField (offset : Nat) : (farField offset).Separable where
  modifiers := fun _ hm => absurd hm List.not_mem_nil
  name := (by decide : ObjectField.IsLabel "far")
  typeTag := (by decide : ObjectField.IsLabel "I")
  unbroken := (by decide : Unbroken "0".toList)
  stripped := (by decide : ObjectField.IsStripped "0".toList)
  noHeader := by
    refine occurs_eq_false ⟨'(', by decide, ?_⟩
    have hdigits : '(' ∉ decimalDigits offset := fun h => absurd (mem_decimalDigits h) (by decide)
    rw [ObjectField.toList_line]
    simp [farField, ObjectField.modifierText, hdigits]

theorem lines_farText (offset : Nat) :
    lines (farText offset).toList = ["0x20 is an oop: MyLock".toList] ++ (ObjectField.headerLine 2).toList ::
      [nearField.line.toList, (farField offset).line.toList] := by
  have hwhole : IsWhole "0x20 is an oop: MyLock\n".toList := Or.inr ⟨"0x20 is an oop: MyLock".toList, by decide⟩
  have hfirst : lines "0x20 is an oop: MyLock\n".toList = ["0x20 is an oop: MyLock".toList] := by decide +kernel
  have hseparable : ∀ f ∈ [nearField, farField offset], f.Separable :=
    List.forall_mem_cons.2 ⟨separable_nearField, List.forall_mem_singleton.2 (separable_farField offset)⟩
  have htext : (farText offset).toList = "0x20 is an oop: MyLock\n".toList ++
      ("\n".intercalate (ObjectField.sectionLines 2 [nearField, farField offset]) ++ "\n").toList := String.toList_append
  have hsection := ObjectField.lines_sectionLines 2 hseparable (Or.inr rfl)
  rw [htext, lines_append hwhole, hfirst, hsection, List.map_cons, List.map_singleton]

/-- **An assertion does not always fail by a mismatch**, nor pass where it should: an offset that is too long hides the
field that is expected. -/
theorem field_hidden_by_offset :
    let text := farText (10 ^ digitLimit)
    let expectation : FieldExpectation := {}
    expectation.IsLoaded ∧ expectation.ShownIn text ∧
      ∃ digits, check text .managedObject false (some expectation) = .error (.numeral (.tooLongToRead digits)) := by
  generalize hoffset : 10 ^ digitLimit = offset
  have hlong : ¬ Numeral.Writable offset := by
    rw [← hoffset, Nat.cast_pow, Nat.cast_ofNat]
    exact not_writable_pow
  intro text expectation
  have hlines := lines_farText offset
  have hpreamble : occurs ObjectField.headerMarker.toList "0x20 is an oop: MyLock".toList = false := by decide +kernel
  have hnear := separable_nearField
  have hfar := separable_farField offset
  refine ⟨⟨_, _, _, _, Scenario.ofFile_sample, rfl⟩, ?_, ?_⟩
  · have hread : ObjectField.ofLine nearField.line.toList = .ok (some nearField) := by decide +kernel
    refine ⟨nearField, ?_, by decide +kernel⟩
    refine ⟨["0x20 is an oop: MyLock".toList, (ObjectField.headerLine 2).toList], _, _, hlines, Or.inr ?_,
      hnear.noHeader, hread⟩
    exact ⟨_, by simp, ObjectField.occurs_headerLine 2⟩
  · have hfields : ObjectField.fieldLines (lines text.toList) =
        [nearField.line.toList, (farField offset).line.toList] := by
      rw [hlines]
      exact ObjectField.fieldLines_append (by simpa using hpreamble) (ObjectField.occurs_headerLine 2)
        (by simp [hnear.noHeader, hfar.noHeader])
    have hnearFits : ¬ ∃ n, ObjectField.HasLongOffset nearField.line.toList n := by
      have hlegible : ObjectField.Legible [nearField.line.toList] := by decide +kernel
      rintro ⟨n, hn⟩
      exact ObjectField.not_hasLongOffset_of_legible hlegible List.mem_cons_self n hn
    have hfarLong := ObjectField.hasLongOffset_line hfar hlong
    have hfirst : FirstOf (fun line => ∃ n, ObjectField.HasLongOffset line n) (ObjectField.fieldLines (lines text.toList))
        (farField offset).line.toList := by
      rw [hfields]
      exact ⟨[_], [], rfl, ⟨_, hfarLong⟩, List.forall_mem_singleton.2 hnearFits⟩
    have hunread := ObjectField.ofText_eq_error_iff.2 ⟨_, _, hfirst, hfarLong, rfl⟩
    have habsent := (absentField_eq_error_iff (by decide +kernel)).2 ⟨⟨rfl, Option.some_ne_none expectation⟩, hunread⟩
    exact ⟨_, check_of_absentField_error (by decide) false habsent⟩

end Classification

end DebugFind
