/-
Expectations that can be met. A profile may ask for a field of any name that is not blank, but a response cannot show
them all: the name stands between apostrophes, on one line, and not on a header line (`IsShowable`). Nothing else stands
in the way, since the type tag and the value are checked when the profile is read (`met_iff`).

- `isShowable_of_shownIn`: what a response shows is showable, whatever the response.
- `check_shownText`: what is showable is shown by the response that the inspected process would write (`shownText`).
-/
import DebugFind.Proofs.FieldSection
import DebugFind.Proofs.Profile.Sections
import DebugFind.Proofs.Scenario.Verdict

namespace DebugFind

open DebugFind.Text DebugFind.Numeral

/-- a field of that name can stand on a line behind a header line -/
def IsShowable (name : String) : Prop :=
  '\'' ∉ name.toList ∧ Unbroken name.toList ∧ occurs ObjectField.headerMarker.toList name.toList = false

instance (name : String) : Decidable (IsShowable name) := inferInstanceAs (Decidable (_ ∧ _ ∧ _))

namespace ObjectField

/-- the name of a field stands on its line -/
theorem Spells.name_infix {line digits value : List Char} {modifiers : List String} {name typeTag : String}
    (h : Spells line modifiers name typeTag digits value) : name.toList <:+: line := by
  obtain ⟨before, gap, after, -, -, -, rfl⟩ := h.layout
  refine ⟨before ++ '-' :: ' ' :: ((modifierText modifiers).toList ++ ['\'']),
    '\'' :: ' ' :: '\'' :: (typeTag.toList ++ '\'' :: ' ' :: '@' :: digits) ++ gap ++ value ++ after, ?_⟩
  simp [toList_front]

/-- a field that stands among lines has a name that can be shown -/
theorem isShowable_of_standsAmong {f : ObjectField} {afterHeader : Bool} {text : List Char}
    (h : f.StandsAmong afterHeader (lines text)) : IsShowable f.name := by
  obtain ⟨before, line, after, hlines, -, hheader, hline⟩ := h
  obtain ⟨digits, hspells, -⟩ := ofLine_eq_some_iff.1 hline
  have hmem : line ∈ lines text := by
    rw [hlines]
    simp
  have hunbroken : Unbroken line := unbroken_of_mem_lines hmem
  refine ⟨hspells.labels.1.2, fun c hc => hunbroken c (hspells.name_infix.subset hc), ?_⟩
  rw [← Bool.not_eq_true, occurs_iff]
  intro hmarker
  have hoccurs := occurs_iff.2 (hmarker.trans hspells.name_infix)
  rw [hheader] at hoccurs
  cases hoccurs

end ObjectField

namespace FieldExpectation

variable {e : FieldExpectation}

theorem isShowable_of_shownIn (hvalue : IsWord e.value) {text : String} (h : e.ShownIn text) : IsShowable e.name := by
  obtain ⟨f, hstands, haccepts⟩ := h
  obtain ⟨accepted, haccepted, hiff⟩ := (accepts_exact hvalue f).1
  rw [haccepts] at haccepted
  cases haccepted
  obtain ⟨hname, -, -⟩ := hiff.1 rfl
  exact hname ▸ ObjectField.isShowable_of_standsAmong hstands

/-! ## Printed values -/

/-- the characters of printed values -/
def printedLetters : List Char := "0123456789abcdef-x() ".toList

theorem mem_hexField {width n : Nat} {c : Char} (h : c ∈ hexField width n) : ∃ d < 16, c = Nat.digitChar d := by
  induction width generalizing n with
  | zero => cases h
  | succ width ih =>
    rw [hexField] at h
    rcases List.mem_append.1 h with h | h
    · exact ih h
    · exact ⟨n % 16, Nat.mod_lt _ (by decide), List.mem_singleton.1 h⟩

theorem digitChar_mem_printedLetters {d : Nat} (h : d < 16) : Nat.digitChar d ∈ printedLetters := by
  interval_cases d <;> decide

theorem mem_decimal {v : Int} {c : Char} (h : c ∈ decimal v) : c = '-' ∨ ∃ d < 10, c = Nat.digitChar d := by
  unfold decimal at h
  split_ifs at h
  · rcases List.mem_cons.1 h with rfl | h
    · exact Or.inl rfl
    · exact Or.inr (mem_toDigits (by decide) h)
  · exact Or.inr (mem_toDigits (by decide) h)

theorem mem_printed {v : Int} {c : Char} (h : c ∈ (printed v).toList) : c ∈ printedLetters := by
  have hdecimal (hc : c ∈ decimal v) : c ∈ printedLetters := by
    rcases mem_decimal hc with rfl | ⟨d, hd, rfl⟩
    · decide
    · exact digitChar_mem_printedLetters (by omega)
  rw [printed, String.toList_ofList] at h
  split_ifs at h
  · exact hdecimal h
  · simp only [List.mem_append, List.mem_singleton] at h
    rcases h with ((h | h) | h) | rfl
    · exact hdecimal h
    · have hmark : " (0x".toList ⊆ printedLetters := by decide
      exact hmark h
    · obtain ⟨d, hd, rfl⟩ := mem_hexField h
      exact digitChar_mem_printedLetters hd
    · decide

theorem unbroken_printed (v : Int) : Unbroken (printed v).toList := by
  have hletters : Unbroken printedLetters := by decide
  exact fun c hc => hletters c (mem_printed hc)

/-- a numeral begins and ends with a character that is not blank -/
theorem isStripped_decimal (v : Int) : ObjectField.IsStripped (decimal v) := by
  have hdecimal : ∀ c ∈ decimal v, isBlank c = false := by
    intro c hc
    rcases mem_decimal hc with rfl | ⟨d, hd, rfl⟩
    · decide
    · interval_cases d <;> decide
  exact ⟨fun c hc => hdecimal c (List.mem_of_mem_head? hc), fun c hc => hdecimal c (List.mem_of_mem_getLast? hc)⟩

theorem isStripped_printed (v : Int) : ObjectField.IsStripped (printed v).toList := by
  have hne : decimal v ≠ [] := by
    unfold decimal
    split_ifs
    · exact List.cons_ne_nil _ _
    · exact Nat.toDigits_ne_nil
  rw [printed, String.toList_ofList]
  split_ifs
  · exact isStripped_decimal v
  · refine ⟨?_, ?_⟩
    · intro c hc
      refine (isStripped_decimal v).1 c ?_
      rwa [List.append_assoc, List.append_assoc, List.head?_append_of_ne_nil _ hne] at hc
    · intro c hc
      rw [List.getLast?_append_of_ne_nil _ (List.cons_ne_nil _ _)] at hc
      cases hc
      decide

/-! ## The field as it is written -/

/-- the expected field, as an object has it -/
def shownField (e : FieldExpectation) : ObjectField := ⟨[], e.name, e.typeTag, 12, printed e.value⟩

/-- the response about an object that has the expected field and no other -/
def shownText (e : FieldExpectation) : String :=
  "0x20 is an oop: MyLock\n" ++ "\n".intercalate (ObjectField.sectionLines 2 [e.shownField]) ++ "\n"

/-- the marker has no apostrophe, so it stands in the name or on one side of it if it stands on the line -/
theorem noHeader_shownField (hname : IsShowable e.name) (htag : e.typeTag = "I") :
    occurs ObjectField.headerMarker.toList e.shownField.line.toList = false := by
  have hquote : '\'' ∉ ObjectField.headerMarker.toList := by decide
  have hline : e.shownField.line.toList = [' ', '-', ' '] ++ '\'' :: (e.name.toList ++ '\'' :: ([' '] ++ '\'' ::
      (['I'] ++ '\'' :: (" @12  ".toList ++ (printed e.value).toList)))) := by
    rw [ObjectField.toList_line]
    simp [shownField, ObjectField.modifierText, htag, show decimalDigits 12 = ['1', '2'] by decide]
  have hvalue : ¬ ObjectField.headerMarker.toList <:+: " @12  ".toList ++ (printed e.value).toList := by
    intro h
    have ht : 't' ∈ " @12  ".toList ++ (printed e.value).toList := h.subset (by decide)
    rcases List.mem_append.1 ht with ht | ht
    · revert ht
      decide
    · exact absurd (mem_printed ht) (by decide)
  have hname' : ¬ ObjectField.headerMarker.toList <:+: e.name.toList := by
    rw [← occurs_iff, hname.2.2]
    decide
  rw [← Bool.not_eq_true, occurs_iff, hline]
  simp only [infix_append_mark_iff hquote]
  rintro (h | h | h | h | h)
  · exact absurd (occurs_iff.2 h) (by decide)
  · exact hname' h
  · exact absurd (occurs_iff.2 h) (by decide)
  · exact absurd (occurs_iff.2 h) (by decide)
  · exact hvalue h

theorem regular_shownField (hne : e.name ≠ "") (hname : IsShowable e.name) (htag : e.typeTag = "I") :
    e.shownField.Regular where
  modifiers := fun _ hm => absurd hm List.not_mem_nil
  name := ⟨hne, hname.1, hname.2.1⟩
  typeTag := by
    show ObjectField.IsLabel e.typeTag
    rw [htag]
    decide
  offset := (by decide : Numeral.Writable 12)
  unbroken := unbroken_printed e.value
  stripped := isStripped_printed e.value
  noHeader := noHeader_shownField hname htag

theorem ofText_shownText (hregular : e.shownField.Regular) : ObjectField.ofText e.shownText = .ok [e.shownField] := by
  have hwhole : IsWhole "0x20 is an oop: MyLock\n".toList := Or.inr ⟨"0x20 is an oop: MyLock".toList, by decide⟩
  have hpreamble : ∀ l ∈ lines "0x20 is an oop: MyLock\n".toList, occurs ObjectField.headerMarker.toList l = false := by
    decide +kernel
  exact ObjectField.ofText_section hwhole hpreamble 2 (List.forall_mem_singleton.2 hregular) (Or.inr rfl)

theorem marked_shownText (e : FieldExpectation) : Classification.Marked e.shownText .managedObject false := by
  have hobject : Classification.objectMarker.toList <:+: "0x20 is an oop: MyLock\n".toList :=
    occurs_iff.1 (by decide +kernel)
  have hheader : ObjectField.headerMarker.toList <:+: (ObjectField.headerLine 2).toList :=
    occurs_iff.1 (ObjectField.occurs_headerLine 2)
  have hlines (header line : String) :
      ("\n".intercalate [header, line]).toList = header.toList ++ '\n' :: line.toList := by
    simp
  have htext : e.shownText.toList = "0x20 is an oop: MyLock\n".toList ++ (ObjectField.headerLine 2).toList ++
      ('\n' :: e.shownField.line.toList ++ "\n".toList) := by
    show ("0x20 is an oop: MyLock\n" ++ "\n".intercalate [ObjectField.headerLine 2, e.shownField.line] ++ "\n").toList = _
    rw [String.toList_append, String.toList_append, hlines]
    simp only [List.append_assoc, List.cons_append]
  refine ⟨?_, fun marker hmarker => absurd hmarker List.not_mem_nil⟩
  intro marker hmarker
  simp only [Classification.required, Classification.fieldsMarker, List.mem_cons, List.not_mem_nil, or_false] at hmarker
  rw [contains, occurs_iff, htext]
  rcases hmarker with rfl | rfl
  · rw [List.append_assoc]
    exact hobject.trans (List.prefix_append _ _).isInfix
  · exact hheader.trans (List.infix_append _ _ _)

/-- what can be shown is met by the response that shows it -/
theorem check_shownText (hne : e.name ≠ "") (hname : IsShowable e.name) (htag : e.typeTag = "I")
    (hvalue : IsWord e.value) : Classification.check e.shownText .managedObject false (some e) = .ok () := by
  have hfields := ofText_shownText (regular_shownField hne hname htag)
  have hwritable : ∀ e' ∈ some e, Numeral.Writable e'.value := fun e' he => by
    cases he
    exact writable_of_isWord hvalue
  obtain ⟨accepted, haccepts, hiff⟩ := (accepts_exact hvalue e.shownField).1
  have haccepted : accepted = true := hiff.2 ⟨rfl, rfl, shows_printed hvalue⟩
  refine (Classification.check_eq_ok_iff_marked (by decide)).2 ⟨marked_shownText e, fun _ => ?_⟩
  rw [Classification.missingField_eq hfields hwritable, Except.ok.injEq, Classification.missingWords_eq_nil_iff]
  rintro e' ⟨⟩
  exact ⟨e.shownField, List.mem_singleton_self _, haccepted ▸ haccepts⟩

end FieldExpectation

namespace Profile

/-- what a profile expects is a field that is well formed but for its name -/
theorem expectedField_of_ofFile {runtime : Runtime} {path : String} {file : Except FileError (List UInt8)} {p : Profile}
    (h : ofFile runtime path file = .ok p) :
    p.expectedField.name ≠ "" ∧ p.expectedField.typeTag = "I" ∧ IsWord p.expectedField.value := by
  obtain ⟨_, _, _, -, -, -, hread⟩ := exists_of_ofFile h
  obtain ⟨form, -, hvalid, hgives⟩ := (Section.part_eq_ok_iff reads_readExpectedField).1 hread.expectedField
  exact ⟨hgives.name ▸ hvalid.name, hgives.typeTag, hgives.value ▸ hvalid.value⟩

/-- **An expectation that a profile has can be met exactly if its name can be shown.** No response meets one whose name
has an apostrophe in it, goes on behind the end of a line or holds the marker of a header line. Any other is met, whatever
the value. -/
theorem met_iff {runtime : Runtime} {path : String} {file : Except FileError (List UInt8)} {p : Profile}
    (h : ofFile runtime path file = .ok p) :
    (∃ text, Classification.check text .managedObject false (some p.expectedField) = .ok ()) ↔
      IsShowable p.expectedField.name := by
  obtain ⟨hne, htag, hvalue⟩ := expectedField_of_ofFile h
  constructor
  · rintro ⟨text, hcheck⟩
    exact FieldExpectation.isShowable_of_shownIn hvalue (Classification.shownIn_of_check hcheck)
  · intro hname
    exact ⟨_, FieldExpectation.check_shownText hne hname htag hvalue⟩

/-- the field that is expected unless another one is can be met -/
theorem met_iff_of_sample :
    ofFile .usual "profile.json" (.ok Scenario.sampleFile) = .ok Scenario.sampleProfile ∧
      ∃ text, Classification.check text .managedObject false (some Scenario.sampleProfile.expectedField) = .ok () :=
  ⟨Scenario.ofFile_sample, (met_iff Scenario.ofFile_sample).2 (by decide +kernel)⟩

/-- a file that asks for a field with an apostrophe in its name -/
def quotedFile : List UInt8 := asBytes (textWith " tid=0x([0-9a-fA-F]+) " "my'Int" "30")

def quotedProfile : Profile := { Scenario.sampleProfile with expectedField := { name := "my'Int" } }

/-- **Not every expectation that a profile has can be met**: the file is read, and no response passes. -/
theorem quoted_name_never_met :
    ofFile .usual "profile.json" (.ok quotedFile) = .ok quotedProfile ∧
      ∀ text, Classification.check text .managedObject false (some quotedProfile.expectedField) ≠ .ok () := by
  have hfile : ofFile .usual "profile.json" (.ok quotedFile) = .ok quotedProfile :=
    ofFile_asBytes (isAscii_textWith (by decide) (by decide) (by decide)) (by decide +kernel) (by decide +kernel)
  refine ⟨hfile, ?_⟩
  intro text hcheck
  have hshown := FieldExpectation.isShowable_of_shownIn (by decide) (Classification.shownIn_of_check hcheck)
  exact hshown.1 (by decide)

end Profile

end DebugFind
