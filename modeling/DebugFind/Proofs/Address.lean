/-
Addresses and their texts. A text denotes an address (`Denotes`) if it is a hexadecimal numeral, with a mark or without,
or a minus sign and a decimal numeral that is not too long. So an address has many texts, and one of them is the one it
is written in (`Canonical`): small digits behind a mark, nothing padded.

- `parse_eq_ok_iff`: what is read is what is denoted; `parse_of_not_denotes` says how other texts are refused.
- `format_eq_ok_iff`: an address is written in the canonical text that is read as it, and in no other.
- `codec_exact`: so each text that is read has one canonical text, which tells its address from all others.

`spelling` is the text of an address whatever its length, so that it can be told before it is known to be written.
-/
import DebugFind.Address
import DebugFind.Proofs.Numeral
import DebugFind.Proofs.Text

namespace DebugFind.Address

open DebugFind.Text DebugFind.Numeral

/-! ## Writing -/

/-- the address has a text -/
def Writable (a : Int) : Prop := 0 ≤ a ∨ Numeral.Writable a

theorem writable_natCast (n : Nat) : Writable n := Or.inl (Int.natCast_nonneg n)

/-- the text of an address, whatever its length -/
def spelling (a : Int) : String := if a < 0 then String.ofList (decimal a) else hexText a

theorem format_of_writable {a : Int} (h : Writable a) : format a = .ok (spelling a) := by
  unfold format spelling
  split_ifs with ha
  · exact write_of_writable (h.resolve_left (by omega))
  · rfl

theorem format_of_not_writable {a : Int} (h : ¬ Writable a) : format a = .error .tooLongToWrite := by
  simp only [Writable, not_or] at h
  rw [format, if_pos (by omega), write_of_not_writable h.2]

theorem format_eq_ok_iff_spelling {a : Int} {text : String} : format a = .ok text ↔ Writable a ∧ text = spelling a := by
  by_cases h : Writable a
  · rw [format_of_writable h]
    simp [h, eq_comm]
  · rw [format_of_not_writable h]
    simp [h]

theorem toList_spelling (a : Int) :
    (spelling a).toList = if a < 0 then '-' :: decimalDigits a.natAbs else '0' :: 'x' :: hexDigits a.natAbs := by
  unfold spelling
  by_cases ha : a < 0
  · rw [if_pos ha, if_pos ha, String.toList_ofList, decimal, if_pos ha]
  · rw [if_neg ha, if_neg ha]
    simp [hexText, ha]

/-- the text of an address, with what it denotes behind it if it is a sentinel -/
def description (a : Int) : String :=
  if a < 0 then spelling a ++ " (" ++ hexText (unsignedView a) ++ ")" else spelling a

theorem describe_of_writable {a : Int} (h : Writable a) : describe a = .ok (description a) := by
  rw [describe, format_of_writable h]
  rfl

/-! ## Reading -/

/-- a text without blanks around it denotes an address: hexadecimal digits with or without a mark in front, or a minus
sign and decimal digits, no more than can be read -/
inductive Denotes : List Char → Int → Prop
  | bare (digits : List Char) (numeral : isHexNumeral digits) : Denotes digits (ofHex digits)
  | marked (mark : Char) (digits : List Char) (isMark : mark = 'x' ∨ mark = 'X') (numeral : isHexNumeral digits) :
    Denotes ('0' :: mark :: digits) (ofHex digits)
  | sentinel (digits : List Char) (numeral : IsDecimalNumeral digits) (short : digits.length ≤ digitLimit) :
    Denotes ('-' :: digits) (-(ofDigits 10 (digits.filterMap digitValue?) : Nat))

theorem denotes_sentinel_iff {digits : List Char} {a : Int} :
    Denotes ('-' :: digits) a ↔ IsDecimalNumeral digits ∧ digits.length ≤ digitLimit ∧
      a = -(ofDigits 10 (digits.filterMap digitValue?) : Nat) := by
  constructor
  · intro h
    generalize hs : '-' :: digits = s at h
    rcases h with ⟨_, hnumeral⟩ | ⟨_, _, _, _⟩ | ⟨_, hnumeral, hshort⟩
    · rw [← hs] at hnumeral
      exact absurd ((isHexNumeral_iff.1 hnumeral).2 '-' List.mem_cons_self) (by decide)
    · exact absurd (List.cons.inj hs).1 (by decide)
    · obtain ⟨-, rfl⟩ := List.cons.inj hs
      exact ⟨hnumeral, hshort, rfl⟩
  · rintro ⟨hnumeral, hshort, rfl⟩
    exact .sentinel digits hnumeral hshort

theorem denotes_numeral_iff {s : List Char} (h : ∀ digits, s ≠ '-' :: digits) {a : Int} :
    Denotes s a ↔ isHexNumeral ((afterHexMark? s).getD s) ∧ a = ofHex ((afterHexMark? s).getD s) := by
  constructor
  · rintro (⟨_, hnumeral⟩ | ⟨mark, digits, hmark, hnumeral⟩ | ⟨digits, -, -⟩)
    · rw [afterHexMark?_of_isHexNumeral hnumeral]
      exact ⟨hnumeral, rfl⟩
    · rw [afterHexMark?_eq_some_iff.2 ⟨mark, hmark, rfl⟩]
      exact ⟨hnumeral, rfl⟩
    · exact absurd rfl (h digits)
  · rintro ⟨hnumeral, rfl⟩
    rcases hs : afterHexMark? s with _ | digits
    · rw [hs] at hnumeral
      exact .bare s hnumeral
    · rw [hs] at hnumeral
      obtain ⟨mark, hmark, rfl⟩ := afterHexMark?_eq_some_iff.1 hs
      exact .marked mark digits hmark hnumeral

section Parse

variable {text : String}

theorem parse_sentinel {digits : List Char} (h : strip text.toList = '-' :: digits) (hd : IsDecimalNumeral digits) :
    parse text = if digits.length ≤ digitLimit then .ok (-(ofDigits 10 (digits.filterMap digitValue?) : Nat))
      else .error (.numeral (.tooLongToRead digits.length)) := by
  have hgood : (digits.isEmpty || !digits.all isAsciiDigit) = false := by simpa [IsDecimalNumeral] using hd
  unfold parse
  rw [h]
  simp only [hgood, Bool.false_eq_true, if_false, ofDecimal_eq hd.2]
  by_cases hshort : digits.length ≤ digitLimit
  · rw [if_pos hshort, if_pos hshort]
  · rw [if_neg hshort, if_neg hshort]

theorem parse_of_not_decimal {digits : List Char} (h : strip text.toList = '-' :: digits)
    (hd : ¬ IsDecimalNumeral digits) : parse text = .error (.malformed text) := by
  have hbad : (digits.isEmpty || !digits.all isAsciiDigit) = true := by
    by_contra hgood
    exact hd (by simpa [IsDecimalNumeral] using hgood)
  unfold parse
  rw [h]
  simp only [hbad, if_true]

theorem parse_numeral (h : ∀ digits, strip text.toList ≠ '-' :: digits) :
    parse text = if isHexNumeral ((afterHexMark? (strip text.toList)).getD (strip text.toList)) then
        .ok (ofHex ((afterHexMark? (strip text.toList)).getD (strip text.toList)))
      else .error (.malformed text) := by
  unfold parse
  split
  · rename_i digits hs
    exact absurd hs (h digits)
  · rfl

theorem parse_of_denotes {a : Int} (h : Denotes (strip text.toList) a) : parse text = .ok a := by
  by_cases hminus : ∃ digits, strip text.toList = '-' :: digits
  · obtain ⟨digits, hs⟩ := hminus
    rw [hs] at h
    obtain ⟨hnumeral, hshort, rfl⟩ := denotes_sentinel_iff.1 h
    rw [parse_sentinel hs hnumeral, if_pos hshort]
  · have hs : ∀ digits, strip text.toList ≠ '-' :: digits := not_exists.1 hminus
    obtain ⟨hnumeral, rfl⟩ := (denotes_numeral_iff hs).1 h
    rw [parse_numeral hs, if_pos hnumeral]

/-- a text that denotes no address is malformed, or a sentinel of more digits than can be read -/
theorem parse_of_not_denotes (h : ∀ a, ¬ Denotes (strip text.toList) a) :
    parse text = .error (.malformed text) ∨
      ∃ digits, strip text.toList = '-' :: digits ∧ IsDecimalNumeral digits ∧ digitLimit < digits.length ∧
        parse text = .error (.numeral (.tooLongToRead digits.length)) := by
  by_cases hminus : ∃ digits, strip text.toList = '-' :: digits
  · obtain ⟨digits, hs⟩ := hminus
    by_cases hnumeral : IsDecimalNumeral digits
    · have hlong : ¬ digits.length ≤ digitLimit := by
        intro hshort
        rw [hs] at h
        exact h _ (.sentinel digits hnumeral hshort)
      right
      exact ⟨digits, hs, hnumeral, by omega, by rw [parse_sentinel hs hnumeral, if_neg hlong]⟩
    · left
      exact parse_of_not_decimal hs hnumeral
  · left
    have hs : ∀ digits, strip text.toList ≠ '-' :: digits := not_exists.1 hminus
    have hnone : ¬ isHexNumeral ((afterHexMark? (strip text.toList)).getD (strip text.toList)) := by
      intro hnumeral
      exact h _ ((denotes_numeral_iff hs).2 ⟨hnumeral, rfl⟩)
    rw [parse_numeral hs, if_neg hnone]

/-- **A text is read exactly if it denotes an address without the blanks around it**, and then as that address. -/
theorem parse_eq_ok_iff {a : Int} : parse text = .ok a ↔ Denotes (strip text.toList) a := by
  refine ⟨fun h => ?_, parse_of_denotes⟩
  by_contra hnot
  by_cases hother : ∃ b, Denotes (strip text.toList) b
  · obtain ⟨b, hb⟩ := hother
    rw [parse_of_denotes hb] at h
    cases h
    exact hnot hb
  · rcases parse_of_not_denotes (not_exists.1 hother) with hmalformed | ⟨_, -, -, -, hlong⟩
    · rw [hmalformed] at h
      cases h
    · rw [hlong] at h
      cases h

/-- an address that was read can be written -/
theorem writable_of_parse {a : Int} (h : parse text = .ok a) : Writable a := by
  have hdenotes := parse_eq_ok_iff.1 h
  generalize strip text.toList = s at hdenotes
  rcases hdenotes with ⟨digits, -⟩ | ⟨_, digits, -, -⟩ | ⟨digits, hnumeral, hshort⟩
  · exact writable_natCast _
  · exact writable_natCast _
  · have hread : ofDecimal digits = .ok (ofDigits 10 (digits.filterMap digitValue?)) := by
      rw [ofDecimal_eq hnumeral.2, if_pos hshort]
    right
    exact writable_neg.2 (writable_of_ofDecimal hread)

end Parse

/-! ## The canonical text -/

/-- the text that an address is written in: a mark and small hexadecimal digits, or for a sentinel a minus sign and
decimal digits; no zero stands in front, unless it is all there is -/
inductive Canonical : List Char → Prop
  | address (digits : List Char) (small : ∀ c ∈ digits, ('0' ≤ c ∧ c ≤ '9') ∨ ('a' ≤ c ∧ c ≤ 'f'))
    (unpadded : Unpadded digits) : Canonical ('0' :: 'x' :: digits)
  | sentinel (digits : List Char) (numeral : IsDecimalNumeral digits) (unpadded : digits.head? ≠ some '0') :
    Canonical ('-' :: digits)

theorem canonical_spelling (a : Int) : Canonical (spelling a).toList := by
  rw [toList_spelling]
  by_cases ha : a < 0
  · rw [if_pos ha]
    refine .sentinel _ (isDecimalNumeral_decimalDigits _) fun hzero => ?_
    have := eq_zero_of_head?_toDigits (by decide) hzero
    omega
  · rw [if_neg ha]
    exact .address _ (fun _ => small_of_mem_hexDigits) (unpadded_toDigits (by decide) _)

/-- no blank stands in a canonical text -/
theorem isBlank_of_canonical {s : List Char} (h : Canonical s) : ∀ c ∈ s, isBlank c = false := by
  have hdigit {c : Char} (hc : '0' ≤ c ∧ c ≤ '9') : isBlank c = false :=
    isBlank_of_visible ⟨Char.le_trans (by decide) hc.1, Char.le_trans hc.2 (by decide)⟩
  have hletter {c : Char} (hc : 'a' ≤ c ∧ c ≤ 'f') : isBlank c = false :=
    isBlank_of_visible ⟨Char.le_trans (by decide) hc.1, Char.le_trans hc.2 (by decide)⟩
  rcases h with ⟨digits, hsmall, -⟩ | ⟨digits, hnumeral, -⟩
  · refine List.forall_mem_cons.2 ⟨by decide, List.forall_mem_cons.2 ⟨by decide, fun c hc => ?_⟩⟩
    rcases hsmall c hc with h | h
    · exact hdigit h
    · exact hletter h
  · refine List.forall_mem_cons.2 ⟨by decide, fun c hc => hdigit ?_⟩
    simpa [isAsciiDigit] using hnumeral.2 c hc

theorem denotes_spelling {a : Int} (h : Writable a) : Denotes (spelling a).toList a := by
  rw [toList_spelling]
  by_cases ha : a < 0
  · rw [if_pos ha, denotes_sentinel_iff, ofDigits_decimalDigits]
    exact ⟨isDecimalNumeral_decimalDigits _, h.resolve_left (by omega), by omega⟩
  · have hvalue : a = ofHex (hexDigits a.natAbs) := by
      rw [ofHex_hexDigits]
      omega
    rw [if_neg ha]
    nth_rewrite 2 [hvalue]
    exact .marked 'x' _ (Or.inl rfl) (isHexNumeral_hexDigits _)

/-- there is one canonical text for an address -/
theorem eq_spelling_of_canonical {s : List Char} {a : Int} (h : Canonical s) (ha : Denotes s a) :
    s = (spelling a).toList := by
  rw [toList_spelling]
  rcases h with ⟨digits, hsmall, hunpadded⟩ | ⟨digits, hnumeral, hunpadded⟩
  · have hsign : ∀ rest, '0' :: 'x' :: digits ≠ '-' :: rest := by
      intro rest h
      exact absurd (List.cons.inj h).1 (by decide)
    have hmark : afterHexMark? ('0' :: 'x' :: digits) = some digits :=
      afterHexMark?_eq_some_iff.2 ⟨'x', Or.inl rfl, rfl⟩
    have hdigits : hexDigits (ofHex digits) = digits :=
      toDigits_ofDigits (by decide) (fun _ => hexValue?_digitChar) (fun c hc => exists_digitChar_of_small (hsmall c hc))
        hunpadded
    obtain ⟨-, rfl⟩ := (denotes_numeral_iff hsign).1 ha
    rw [hmark, Option.getD_some, if_neg (by omega), Int.natAbs_natCast, hdigits]
  · have hdigits : decimalDigits (ofDigits 10 (digits.filterMap digitValue?)) = digits :=
      toDigits_ofDigits (by decide) (fun _ => digitValue?_digitChar)
        (fun c hc => exists_digitChar_of_isAsciiDigit (hnumeral.2 c hc))
        ⟨hnumeral.1, fun hzero => absurd hzero hunpadded⟩
    have hpos : 0 < ofDigits 10 (digits.filterMap digitValue?) := by
      by_contra hzero
      rw [Nat.eq_zero_of_not_pos hzero] at hdigits
      rw [← hdigits] at hunpadded
      exact hunpadded rfl
    obtain ⟨-, -, rfl⟩ := denotes_sentinel_iff.1 ha
    rw [if_pos (by omega), Int.natAbs_neg, Int.natAbs_natCast, hdigits]

/-- two addresses have different texts, whatever their lengths -/
theorem spelling_injective : Function.Injective spelling := by
  intro a b h
  have htext := congrArg String.toList h
  rw [toList_spelling, toList_spelling] at htext
  by_cases ha : a < 0 <;> by_cases hb : b < 0 <;> simp only [ha, hb, if_true, if_false] at htext
  · have := decimalDigits_injective (List.cons.inj htext).2
    omega
  · exact absurd (List.cons.inj htext).1 (by decide)
  · exact absurd (List.cons.inj htext).1 (by decide)
  · have := hexDigits_injective (List.cons.inj (List.cons.inj htext).2).2
    omega

/-- what is written is read, whatever blanks stand around it -/
theorem parse_spelling {a : Int} (h : Writable a) {before after : List Char} (hbefore : ∀ c ∈ before, isBlank c)
    (hafter : ∀ c ∈ after, isBlank c) : parse (String.ofList (before ++ (spelling a).toList ++ after)) = .ok a := by
  rw [parse_eq_ok_iff, String.toList_ofList, strip_around hbefore hafter,
    strip_of_forall_not_blank (isBlank_of_canonical (canonical_spelling a))]
  exact denotes_spelling h

/-- **An address is written in the canonical text that is read as it**, and in no other. -/
theorem format_eq_ok_iff {a : Int} {text : String} :
    format a = .ok text ↔ Canonical text.toList ∧ parse text = .ok a := by
  rw [format_eq_ok_iff_spelling]
  constructor
  · rintro ⟨hwritable, rfl⟩
    have hnone : ∀ c ∈ ([] : List Char), isBlank c := fun _ h => absurd h List.not_mem_nil
    have hread := parse_spelling hwritable hnone hnone
    rw [List.nil_append, List.append_nil, String.ofList_toList] at hread
    exact ⟨canonical_spelling a, hread⟩
  · rintro ⟨hcanonical, hread⟩
    refine ⟨writable_of_parse hread, String.toList_inj.1 ?_⟩
    rw [parse_eq_ok_iff, strip_of_forall_not_blank (isBlank_of_canonical hcanonical)] at hread
    exact eq_spelling_of_canonical hcanonical hread

/-- **Addresses and their texts.** An address has a text exactly if it is one of the process, or a sentinel of no more
digits than can be written, and this text is read as it, with any blanks around. A text is read exactly if it denotes an
address without the blanks around it, and is otherwise refused, as malformed or as too long. What was read can be
written, in the one canonical text that is read in the same way; so two texts that are read denote one address exactly if
they have one canonical text. -/
theorem codec_exact (a : Int) (text : String) :
    ((∃ written, format a = .ok written) ↔ 0 ≤ a ∨ (decimalDigits a.natAbs).length ≤ digitLimit) ∧
      (∀ written before after, format a = .ok written → (∀ c ∈ before, isBlank c) → (∀ c ∈ after, isBlank c) →
        parse (String.ofList (before ++ written.toList ++ after)) = .ok a) ∧
      (parse text = .ok a ↔ Denotes (strip text.toList) a) ∧
      ((∀ b, ¬ Denotes (strip text.toList) b) →
        parse text = .error (.malformed text) ∨ ∃ digits, parse text = .error (.numeral (.tooLongToRead digits))) ∧
      (parse text = .ok a → ∃ written, format a = .ok written ∧
        ∀ other, other = written ↔ Canonical other.toList ∧ parse other = .ok a) ∧
      ∀ other b, parse text = .ok a → parse other = .ok b →
        ∃ written written', format a = .ok written ∧ format b = .ok written' ∧ (a = b ↔ written = written') := by
  refine ⟨?_, ?_, parse_eq_ok_iff, ?_, ?_, ?_⟩
  · constructor
    · rintro ⟨written, h⟩
      exact (format_eq_ok_iff_spelling.1 h).1
    · intro h
      exact ⟨spelling a, format_of_writable h⟩
  · intro written before after h hbefore hafter
    obtain ⟨hwritable, rfl⟩ := format_eq_ok_iff_spelling.1 h
    exact parse_spelling hwritable hbefore hafter
  · intro h
    rcases parse_of_not_denotes h with hmalformed | ⟨digits, -, -, -, hlong⟩
    · exact Or.inl hmalformed
    · exact Or.inr ⟨_, hlong⟩
  · intro h
    have hself := format_of_writable (writable_of_parse h)
    refine ⟨spelling a, hself, fun other => ?_⟩
    rw [← format_eq_ok_iff, hself]
    simp [eq_comm]
  · intro other b ha hb
    refine ⟨_, _, format_of_writable (writable_of_parse ha), format_of_writable (writable_of_parse hb), ?_⟩
    exact spelling_injective.eq_iff.symm

/-- the same digits under a mark, without one and behind a sign; a zero behind a sign; digits that look like a mark -/
example : ["0X00fF", " fF\t", "10", "-10", "-0", "0b1"].map parse = [.ok 255, .ok 255, .ok 16, .ok (-10), .ok 0, .ok 177] := by
  decide +kernel

end DebugFind.Address
