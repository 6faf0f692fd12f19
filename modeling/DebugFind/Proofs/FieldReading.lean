/-
Fields of texts that are put together. What is read of a text depends on its lines alone, and on those behind the first
header line: lines in front of it say nothing about fields (`ofText_append_of_no_header`), and behind it every line
speaks for itself (`ofText_append_of_header`). So fields are read piece by piece, one field for each line that describes
one (`ofText_append`).
-/
import DebugFind.Proofs.Illegible

namespace DebugFind.ObjectField

open DebugFind.Text DebugFind.Numeral

/-- a header line with its end -/
def IsHeader (text : String) : Prop :=
  IsWhole text.toList ∧ ∃ line, lines text.toList = [line] ∧ occurs headerMarker.toList line = true

/-- whether a line can be taken apart into the parts of a field -/
def isFieldLine (line : List Char) : Bool := (split? line).isSome

section Lines

variable {before rest : List (List Char)}

/-! ## Lines put together -/

/-- behind a header line no further one is needed -/
theorem fieldLines_append_of_header (h : ∃ line ∈ before, occurs headerMarker.toList line = true) :
    fieldLines (before ++ rest) = fieldLines before ++ rest.filter (!occurs headerMarker.toList ·) := by
  have hkept : (before.dropWhile (!occurs headerMarker.toList ·)).isEmpty = false := by
    obtain ⟨line, hline, hheader⟩ := h
    rw [List.isEmpty_eq_false_iff, ne_eq, List.dropWhile_eq_nil_iff]
    intro hall
    simpa [hheader] using hall line hline
  rw [fieldLines, List.dropWhile_append, hkept, if_neg Bool.false_ne_true, List.filter_append, fieldLines]

/-- a line tells whether it can be taken apart, if what is read of it is known -/
theorem isFieldLine_of_ofLine {line : List Char} {field : Option ObjectField} (h : ofLine line = .ok field) :
    isFieldLine line = field.isSome := by
  unfold isFieldLine
  rw [ofLine] at h
  rcases hsplit : split? line with _ | ⟨modifiers, name, typeTag, digits, value⟩
  · rw [hsplit] at h
    cases h
    rfl
  · rw [hsplit] at h
    obtain ⟨offset, -, hfield⟩ := exists_of_bind_eq_ok h
    cases hfield
    rfl

end Lines

section Append

variable {before rest : String}

theorem ofText_append_of_no_header (hwhole : IsWhole before.toList)
    (h : ∀ line ∈ lines before.toList, occurs headerMarker.toList line = false) :
    ofText (before ++ rest) = ofText rest := by
  rw [ofText, String.toList_append, lines_append hwhole, ofLines_append h, ofText]

/-- behind a header line the rest of a text is read as if it stood alone there -/
theorem ofText_append_of_header (hwhole : IsWhole before.toList)
    (h : ∃ line ∈ lines before.toList, occurs headerMarker.toList line = true) {fields others : List ObjectField}
    (hfields : ofText before = .ok fields) (hothers : ofLines true (lines rest.toList) = .ok others) :
    ofText (before ++ rest) = .ok (fields ++ others) := by
  rw [ofText, ofLines_false_eq] at hfields
  rw [ofLines_true_eq] at hothers
  rw [ofText, String.toList_append, lines_append hwhole, ofLines_false_eq, fieldLines_append_of_header h,
    filterMapM_append_of_ok hfields hothers]

theorem ofText_append_of_isHeader {header : String} (h : IsHeader header) :
    ofText (header ++ rest) = ofLines true (lines rest.toList) := by
  obtain ⟨hwhole, line, hline, hheader⟩ := h
  rw [ofText, String.toList_append, lines_append hwhole, hline, List.singleton_append, ofLines, if_pos hheader]

/-! ## Fields that are read -/

/-- each field that is read has a line of its own, in order, and no line that describes a field is left out -/
theorem forall₂_of_ofText {text : String} {fields : List ObjectField} (h : ofText text = .ok fields) :
    List.Forall₂ Describes ((fieldLines (lines text.toList)).filter isFieldLine) fields := by
  rw [ofText, ofLines_false_eq] at h
  refine (forall₂_of_filterMapM (fun line field hline => isFieldLine_of_ofLine hline) h).imp ?_
  intro line f hline
  exact ofLine_eq_some_iff.1 hline

/-- **Fields are read piece by piece.** Whole lines without a header line among them change nothing in front of a text.
If there is one among them, the fields of the whole are theirs and behind these the ones that the rest has behind any
header line. Whatever the text, each line behind the first header line that can be taken apart gives one field, in order,
and the parts of a field are well formed. -/
theorem ofText_append (hwhole : IsWhole before.toList) (hbefore : Legible (lines before.toList))
    (hrest : Legible (lines rest.toList)) :
    ((∀ line ∈ lines before.toList, occurs headerMarker.toList line = false) →
        ∃ fields, ofText rest = .ok fields ∧ ofText (before ++ rest) = .ok fields) ∧
      ((∃ line ∈ lines before.toList, occurs headerMarker.toList line = true) →
        ∃ fields others, ofText before = .ok fields ∧ ofText (before ++ rest) = .ok (fields ++ others) ∧
          ∀ header, IsHeader header → ofText (header ++ rest) = .ok others) ∧
      ∀ text fields, ofText text = .ok fields →
        List.Forall₂ Describes ((fieldLines (lines text.toList)).filter isFieldLine) fields ∧
          ∀ f ∈ fields, (∀ m ∈ f.modifiers, IsModifier m) ∧ IsQuotable f.name ∧ IsQuotable f.typeTag ∧
            IsStripped f.value.toList := by
  refine ⟨?_, ?_, ?_⟩
  · intro hnone
    obtain ⟨fields, hfields⟩ := ofLines_of_legible false hrest
    exact ⟨fields, hfields, (ofText_append_of_no_header hwhole hnone).trans hfields⟩
  · intro hheader
    obtain ⟨fields, hfields⟩ := ofLines_of_legible false hbefore
    obtain ⟨others, hothers⟩ := ofLines_of_legible true hrest
    refine ⟨fields, others, hfields, ofText_append_of_header hwhole hheader hfields hothers, ?_⟩
    intro header h
    rw [ofText_append_of_isHeader h, hothers]
  · intro text fields h
    refine ⟨forall₂_of_ofText h, ?_⟩
    intro f hf
    obtain ⟨-, line, -, -, -, -, hline⟩ := (mem_ofLines_iff h).1 hf
    obtain ⟨digits, hspells, -⟩ := ofLine_eq_some_iff.1 hline
    exact ⟨hspells.words, hspells.labels.1, hspells.labels.2, hspells.stripped⟩

end Append

/-- a header line between two fields, with a second one behind it and with line ends of several kinds -/
def headedPiece : String :=
  " - 'early' 'I' @8  1\r\n - ---- fields (total size 2 words):\n - final 'x' 'I' @12  \x0b\n - ---- fields (total size\n"

/-- what follows it, with a field on a line that is not ended -/
def lastPiece : String := "no field\u2028 - 'y' '[I' @16  'z' 'I' @4  5"

/-- the fields on both sides of the piece between them are read one by one -/
theorem ofText_append_of_headedPiece :
    IsWhole headedPiece.toList ∧ Legible (lines headedPiece.toList) ∧ Legible (lines lastPiece.toList) ∧
      ofText (headedPiece ++ lastPiece) = .ok [⟨["final"], "x", "I", 12, ""⟩, ⟨[], "y", "[I", 16, "'z' 'I' @4  5"⟩] ∧
      ∀ header, IsHeader header → ofText (header ++ lastPiece) = .ok [⟨[], "y", "[I", 16, "'z' 'I' @4  5"⟩] := by
  have hwhole : IsWhole headedPiece.toList := Or.inr ⟨headedPiece.toList.dropLast, by decide +kernel⟩
  have hpiece : Legible (lines headedPiece.toList) := by decide +kernel
  have hlast : Legible (lines lastPiece.toList) := by decide +kernel
  have hheader : ∃ line ∈ lines headedPiece.toList, occurs headerMarker.toList line = true := by decide +kernel
  have hread : ofText headedPiece = .ok [⟨["final"], "x", "I", 12, ""⟩] := by decide +kernel
  obtain ⟨fields, others, hfields, hall, hbehind⟩ := (ofText_append hwhole hpiece hlast).2.1 hheader
  have hmarker : IsHeader (headerMarker ++ "\n") :=
    ⟨Or.inr ⟨headerMarker.toList, by decide +kernel⟩, headerMarker.toList, by decide +kernel, by decide +kernel⟩
  have hmarked : ofText (headerMarker ++ "\n" ++ lastPiece) = .ok [⟨[], "y", "[I", 16, "'z' 'I' @4  5"⟩] := by
    decide +kernel
  obtain rfl : fields = [⟨["final"], "x", "I", 12, ""⟩] := Except.ok.inj (hfields.symm.trans hread)
  obtain rfl : others = [⟨[], "y", "[I", 16, "'z' 'I' @4  5"⟩] :=
    Except.ok.inj ((hbehind _ hmarker).symm.trans hmarked)
  exact ⟨hwhole, hpiece, hlast, hall, hbehind⟩

end DebugFind.ObjectField
