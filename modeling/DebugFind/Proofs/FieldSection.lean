/-
Fields sections, written and read back. A field is written on a line of its own (`line`), a section as its header line
and a line for each field (`sectionLines`). What is written comes back unchanged if the fields are `Regular`: their
parts have no character that would end them, and no line of theirs looks like a header line.

- `split?_line`: a line of a field is taken apart into what it was put together from.
- `ofLine_line`: it is read as that field.
- `ofText_section`: a section is read as its fields, whatever whole lines stand in front of it, unless they hold a header
  line of their own.
-/
import DebugFind.Proofs.Classification
import DebugFind.Proofs.FieldLine

namespace DebugFind.ObjectField

open DebugFind.Text DebugFind.Numeral

/-! ## Writing -/

/-- the line that describes a field -/
def line (f : ObjectField) : String :=
  " - " ++ modifierText f.modifiers ++ "'" ++ f.name ++ "' '" ++ f.typeTag ++ "' @" ++
    String.ofList (decimalDigits f.offset) ++ "  " ++ f.value

/-- the header line of a section; the object has so many words -/
def headerLine (words : Nat) : String := headerMarker ++ " " ++ String.ofList (decimalDigits words) ++ " words):"

/-- the lines of a section -/
def sectionLines (words : Nat) (fields : List ObjectField) : List String := headerLine words :: fields.map line

/-! ## Fields that come back -/

/-- a text that can stand between apostrophes on one line -/
def IsLabel (text : String) : Prop := text ≠ "" ∧ '\'' ∉ text.toList ∧ Unbroken text.toList

instance (text : String) : Decidable (IsLabel text) := inferInstanceAs (Decidable (_ ∧ _ ∧ _))

theorem IsLabel.isQuotable {text : String} (h : IsLabel text) : IsQuotable text := ⟨h.1, h.2.1⟩

/-- the parts of a field can be told apart on its line, and the line is not taken for a header -/
structure Regular (f : ObjectField) : Prop where
  modifiers : ∀ m ∈ f.modifiers, IsModifier m
  name : IsLabel f.name
  typeTag : IsLabel f.typeTag
  offset : Numeral.Writable f.offset
  unbroken : Unbroken f.value.toList
  stripped : IsStripped f.value.toList
  noHeader : occurs headerMarker.toList f.line.toList = false

instance (f : ObjectField) : Decidable f.Regular :=
  decidable_of_iff ((∀ m ∈ f.modifiers, IsModifier m) ∧ IsLabel f.name ∧ IsLabel f.typeTag ∧ Numeral.Writable f.offset ∧
      Unbroken f.value.toList ∧ IsStripped f.value.toList ∧ occurs headerMarker.toList f.line.toList = false)
    ⟨fun ⟨h₁, h₂, h₃, h₄, h₅, h₆, h₇⟩ => ⟨h₁, h₂, h₃, h₄, h₅, h₆, h₇⟩,
      fun h => ⟨h.modifiers, h.name, h.typeTag, h.offset, h.unbroken, h.stripped, h.noHeader⟩⟩

/-- the same of a field whose offset may be too long to be read -/
structure Separable (f : ObjectField) : Prop where
  modifiers : ∀ m ∈ f.modifiers, IsModifier m
  name : IsLabel f.name
  typeTag : IsLabel f.typeTag
  unbroken : Unbroken f.value.toList
  stripped : IsStripped f.value.toList
  noHeader : occurs headerMarker.toList f.line.toList = false

theorem Regular.separable {f : ObjectField} (h : f.Regular) : f.Separable :=
  ⟨h.modifiers, h.name, h.typeTag, h.unbroken, h.stripped, h.noHeader⟩

/-! ## Lines -/

theorem toList_line (f : ObjectField) :
    f.line.toList = " - ".toList ++ (modifierText f.modifiers).toList ++ "'".toList ++ f.name.toList ++ "' '".toList ++
      f.typeTag.toList ++ "' @".toList ++ decimalDigits f.offset ++ "  ".toList ++ f.value.toList := by
  unfold line
  simp only [String.toList_append, String.toList_ofList]

theorem Separable.spells {f : ObjectField} (h : f.Separable) :
    Spells f.line.toList f.modifiers f.name f.typeTag (decimalDigits f.offset) f.value.toList where
  words := h.modifiers
  labels := ⟨h.name.isQuotable, h.typeTag.isQuotable⟩
  numeral := ⟨Nat.toDigits_ne_nil, fun _ hc => isDecimalDigit_of_mem_decimalDigits hc⟩
  stripped := h.stripped
  layout := by
    have hblank : ∀ c ∈ [' '], isBlank c = true := List.all_eq_true.1 (by decide)
    have hgap : ∀ c ∈ [' ', ' '], isBlank c = true := List.all_eq_true.1 (by decide)
    refine ⟨[' '], [' ', ' '], [], hblank, ⟨List.cons_ne_nil _ _, hgap⟩, fun c hc => absurd hc List.not_mem_nil, ?_⟩
    simp [toList_line, toList_front]

/-- a line is taken apart into what it was put together from -/
theorem split?_line {f : ObjectField} (h : f.Separable) :
    split? f.line.toList =
      some (f.modifiers, f.name, f.typeTag, decimalDigits f.offset, f.value.toList) :=
  split?_of_spells h.spells

/-- **A line of a regular field is read as that field.** -/
theorem ofLine_line {f : ObjectField} (h : f.Regular) : ofLine f.line.toList = .ok (some f) := by
  rw [ofLine, split?_line h.separable]
  simp [ofDecimal_decimalDigits h.offset, bind, Except.bind, pure, Except.pure]

theorem unbroken_modifierText {modifiers : List String} (h : ∀ m ∈ modifiers, IsModifier m) :
    Unbroken (modifierText modifiers).toList := by
  intro c hc
  simp only [modifierText, String.toList_join, List.mem_flatMap, List.mem_map] at hc
  obtain ⟨_, ⟨m, hm, rfl⟩, hc⟩ := hc
  rcases List.mem_append.1 (String.toList_append ▸ hc) with hc | hc
  · have hletter := (h m hm).2 c hc
    exact isLineBreak_of_visible ⟨Char.le_trans (by decide) hletter.1, Char.le_trans hletter.2 (by decide)⟩
  · rw [List.mem_singleton.1 hc]
    rfl

theorem unbroken_line {f : ObjectField} (h : f.Separable) : Unbroken f.line.toList := by
  have hfixed : ∀ text ∈ [" - ", "'", "' '", "' @", "  "], Unbroken text.toList := by decide
  simp only [List.forall_mem_cons] at hfixed
  obtain ⟨hstart, hopen, hbetween, hoffset, hvalue, -⟩ := hfixed
  rw [toList_line]
  exact ((((((((hstart.append (unbroken_modifierText h.modifiers)).append hopen).append h.name.2.2).append
    hbetween).append h.typeTag.2.2).append hoffset).append (unbroken_decimalDigits _)).append hvalue).append h.unbroken

theorem unbroken_headerLine (words : Nat) : Unbroken (headerLine words).toList := by
  have hfixed : ∀ text ∈ [headerMarker, " ", " words):"], Unbroken text.toList := by decide
  simp only [List.forall_mem_cons] at hfixed
  obtain ⟨hmarker, hblank, hend, -⟩ := hfixed
  simp only [headerLine, String.toList_append, String.toList_ofList]
  exact ((hmarker.append hblank).append (unbroken_decimalDigits words)).append hend

theorem occurs_headerLine (words : Nat) : occurs headerMarker.toList (headerLine words).toList = true := by
  refine occurs_iff.2 (List.IsPrefix.isInfix ?_)
  simp only [headerLine, String.toList_append, List.append_assoc]
  exact List.prefix_append _ _

/-! ## Sections -/

theorem ofLines_lines {fields : List ObjectField} (h : ∀ f ∈ fields, f.Regular) :
    ofLines true (fields.map fun f => f.line.toList) = .ok fields := by
  induction fields with
  | nil => rfl
  | cons f fields ih =>
    obtain ⟨hf, hfields⟩ := List.forall_mem_cons.1 h
    rw [List.map_cons, ofLines, if_neg (by simp [hf.noHeader]), if_pos rfl, ofLine_line hf, ih hfields]
    rfl

/-- lines before the header say nothing about fields -/
theorem ofLines_append {before : List (List Char)} (h : ∀ l ∈ before, occurs headerMarker.toList l = false)
    (rest : List (List Char)) : ofLines false (before ++ rest) = ofLines false rest := by
  induction before with
  | nil => rfl
  | cons l before ih =>
    obtain ⟨hl, hbefore⟩ := List.forall_mem_cons.1 h
    rw [List.cons_append, ofLines, if_neg (by simp [hl]), if_neg (by decide), ih hbefore]

theorem lines_sectionLines (words : Nat) {fields : List ObjectField} (h : ∀ f ∈ fields, f.Separable) {ending : String}
    (hending : ending = "" ∨ ending = "\n") :
    lines ("\n".intercalate (sectionLines words fields) ++ ending).toList =
      (headerLine words).toList :: fields.map fun f => f.line.toList := by
  have hlines : ∀ l ∈ (sectionLines words fields).map String.toList, Unbroken l ∧ l ≠ [] := by
    rw [sectionLines, List.map_cons, List.map_map]
    refine List.forall_mem_cons.2 ⟨⟨unbroken_headerLine words, ?_⟩, List.forall_mem_map.2 fun f hf => ?_⟩
    · simp [headerLine, headerMarker]
    · exact ⟨unbroken_line (h f hf), by simp [toList_line]⟩
  have hend : ending.toList = [] ∨ ending.toList = ['\n'] := by
    rcases hending with rfl | rfl
    · exact Or.inl rfl
    · exact Or.inr rfl
  rw [String.toList_append, String.toList_intercalate]
  show lines (['\n'].intercalate _ ++ _) = _
  rw [lines_intercalate hlines (by simp [sectionLines]) hend]
  simp [sectionLines]

/-- **A fields section is read as the fields it was written from**, in order and with every part unchanged: behind whole
lines without a header of their own, and whether or not its last line is ended. -/
theorem ofText_section {preamble : String} (hwhole : IsWhole preamble.toList)
    (hpreamble : ∀ l ∈ lines preamble.toList, occurs headerMarker.toList l = false) (words : Nat)
    {fields : List ObjectField} (hfields : ∀ f ∈ fields, f.Regular) {ending : String}
    (hending : ending = "" ∨ ending = "\n") :
    ofText (preamble ++ "\n".intercalate (sectionLines words fields) ++ ending) = .ok fields := by
  have hseparable : ∀ f ∈ fields, f.Separable := fun f hf => (hfields f hf).separable
  rw [ofText, String.append_assoc, String.toList_append, lines_append hwhole, lines_sectionLines words hseparable hending,
    ofLines_append hpreamble, ofLines, if_pos (occurs_headerLine words), ofLines_lines hfields]

/-- fields whose parts look like other parts of a line: a name with an offset in it, a value that is a field, none -/
def trickyFields : List ObjectField := [
  ⟨["private", "static"], "it @12 - x", "[LMyLock;", 0, "'x' 'I' @4  5"⟩,
  ⟨[], " ", "I", 12, ""⟩]

/-- those fields are read back behind a line that describes a field too soon -/
theorem ofText_section_of_trickyFields :
    let preamble := "0x20 is an oop: MyLock\n - 'early' 'I' @8  1" ++ "\n"
    IsWhole preamble.toList ∧ (∀ l ∈ lines preamble.toList, occurs headerMarker.toList l = false) ∧
      (∀ f ∈ trickyFields, f.Regular) ∧
      ofText (preamble ++ "\n".intercalate (sectionLines 2 trickyFields) ++ "") = .ok trickyFields := by
  intro preamble
  have hwhole : IsWhole preamble.toList := Or.inr ⟨_, String.toList_append⟩
  have hpreamble : ∀ l ∈ lines preamble.toList, occurs headerMarker.toList l = false := by decide +kernel
  have hregular : ∀ f ∈ trickyFields, f.Regular := by decide +kernel
  exact ⟨hwhole, hpreamble, hregular, ofText_section hwhole hpreamble 2 hregular (Or.inl rfl)⟩

end DebugFind.ObjectField
