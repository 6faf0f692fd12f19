/-
The address that a sentinel stands for. In a word of `width` bits a negative number stands for the one number that the word
can hold and that differs from it by a multiple of `2 ^ width` (`eq_unsignedView_iff`); a number that is not negative stands
for itself, at any width. So every address denotes itself (`unsignedView_unsignedView`), and of the sentinels from
`-2 ^ width` on no two denote the same (`injOn_unsignedView`).

The hint behind an expected value is that number in a word of 32 bits (`hintValue_eq_unsignedView`), and what stands in
parentheses behind a sentinel that is described is that number in a word of 64 bits (`inParentheses_description`). Both
are written as addresses, so they are read back (`parse_hexText`).
-/
import DebugFind.Proofs.Address
import DebugFind.Proofs.Expectation

namespace DebugFind.Address

open DebugFind.Numeral

variable {a : Int} {width : Nat}

/-! ## Views -/

/-- no width of a word is too small, not even none at all -/
theorem unsignedViewAt_natCast (a : Int) (width : Nat) : unsignedViewAt a width = .ok (unsignedView a width) := by
  rw [unsignedViewAt, if_neg (by omega), Int.toNat_natCast]

theorem unsignedView_of_nonneg (h : 0 ≤ a) : unsignedView a width = a := if_pos h

theorem unsignedView_of_neg (h : a < 0) : unsignedView a width = a % 2 ^ width := by
  rw [unsignedView, if_neg (Int.not_le.2 h), Nat.one_shiftLeft, masked_ones]

/-- **A sentinel stands for the one number of the word that is congruent to it.** -/
theorem eq_unsignedView_iff (h : a < 0) {r : Int} :
    r = unsignedView a width ↔ 0 ≤ r ∧ r < 2 ^ width ∧ r ≡ a [ZMOD 2 ^ width] := by
  have hpos : (0 : Int) < 2 ^ width := by positivity
  rw [unsignedView_of_neg h]
  constructor
  · rintro rfl
    exact ⟨Int.emod_nonneg a hpos.ne', Int.emod_lt_of_pos a hpos, Int.mod_modEq a _⟩
  · rintro ⟨hnonneg, hlt, hcongruent⟩
    calc r = r % 2 ^ width := (Int.emod_eq_of_lt hnonneg hlt).symm
      _ = a % 2 ^ width := hcongruent

theorem unsignedView_nonneg (a : Int) (width : Nat) : 0 ≤ unsignedView a width := by
  by_cases h : 0 ≤ a
  · rwa [unsignedView_of_nonneg h]
  · exact ((eq_unsignedView_iff (Int.not_le.1 h)).1 rfl).1

/-- what a sentinel stands for is an address, which stands for itself -/
theorem unsignedView_unsignedView (a : Int) (width : Nat) :
    unsignedView (unsignedView a width) width = unsignedView a width :=
  unsignedView_of_nonneg (unsignedView_nonneg a width)

/-- a sentinel that is not too low stands for the address that is as far below the end of the word as it is below zero -/
theorem unsignedView_of_mem (h : a ∈ Set.Ico (-2 ^ width) 0) : unsignedView a width = a + 2 ^ width := by
  obtain ⟨hlow, hneg⟩ := h
  have hcongruent : a + 2 ^ width ≡ a [ZMOD 2 ^ width] := Int.add_emod_right a _
  exact ((eq_unsignedView_iff hneg).2 ⟨by omega, by omega, hcongruent⟩).symm

/-- no two of these sentinels stand for the same number -/
theorem injOn_unsignedView (width : Nat) : Set.InjOn (unsignedView · width) (Set.Ico (-2 ^ width) 0) := by
  intro a ha b hb h
  simp only [unsignedView_of_mem ha, unsignedView_of_mem hb] at h
  exact add_right_cancel h

/-! ## Texts of views -/

/-- a hexadecimal text is read as its number -/
theorem parse_hexText (h : 0 ≤ a) : parse (hexText a) = .ok a :=
  (format_eq_ok_iff.1 (if_neg (Int.not_lt.2 h))).2

/-- the hint of a value is the view of it in a word of 32 bits -/
theorem hintValue_eq_unsignedView (e : FieldExpectation) : e.hintValue = unsignedView e.value 32 := by
  by_cases h : e.value < 0
  · rw [FieldExpectation.hintValue_of_neg h, unsignedView_of_neg h]
  · rw [FieldExpectation.hintValue_of_nonneg (Int.not_lt.1 h), unsignedView_of_nonneg (Int.not_lt.1 h)]

/-- what stands in a text from the first opening parenthesis up to the first closing one -/
def inParentheses (text : String) : String :=
  String.ofList ((text.toList.dropWhile (· ≠ '(')).tail.takeWhile (· ≠ ')'))

theorem inParentheses_append {before inside : String} (hbefore : '(' ∉ before.toList) (hinside : ')' ∉ inside.toList) :
    inParentheses (before ++ "(" ++ inside ++ ")") = inside := by
  have hopening : ∀ c ∈ before.toList, decide (c ≠ '(') = true := by
    intro c hc
    exact decide_eq_true fun h => hbefore (h ▸ hc)
  have hclosing : ∀ c ∈ inside.toList, decide (c ≠ ')') = true := by
    intro c hc
    exact decide_eq_true fun h => hinside (h ▸ hc)
  have htext : (before ++ "(" ++ inside ++ ")").toList = before.toList ++ '(' :: (inside.toList ++ [')']) := by
    simp
  rw [inParentheses, htext, List.dropWhile_append_of_pos hopening, List.dropWhile_cons_of_neg (by decide), List.tail_cons,
    List.takeWhile_append_of_pos hclosing, List.takeWhile_cons_of_neg (by decide), List.append_nil, String.ofList_toList]

/-- no parenthesis stands in the text of an address -/
theorem ne_parenthesis_of_mem_spelling {c : Char} (h : c ∈ (spelling a).toList) : c ≠ '(' ∧ c ≠ ')' := by
  have hdigit : ∀ d < 16, Nat.digitChar d ≠ '(' ∧ Nat.digitChar d ≠ ')' := by decide
  rw [toList_spelling] at h
  split_ifs at h
  · rcases List.mem_cons.1 h with rfl | h
    · decide
    · obtain ⟨d, hd, rfl⟩ := mem_toDigits (by decide) h
      exact hdigit d (by omega)
  · rcases List.mem_cons.1 h with rfl | h
    · decide
    rcases List.mem_cons.1 h with rfl | h
    · decide
    · obtain ⟨d, hd, rfl⟩ := mem_hexDigits h
      exact hdigit d hd

/-- what stands in parentheses behind a sentinel is the text of the address that it stands for -/
theorem inParentheses_description (h : a < 0) : inParentheses (description a) = hexText (unsignedView a) := by
  have haddress : hexText (unsignedView a) = spelling (unsignedView a) :=
    (if_neg (Int.not_lt.2 (unsignedView_nonneg a 64))).symm
  have htext : description a = spelling a ++ " " ++ "(" ++ hexText (unsignedView a) ++ ")" := by
    have hgap : " (" = " " ++ "(" := rfl
    rw [description, if_pos h, hgap, ← String.append_assoc]
  rw [htext]
  refine inParentheses_append (fun hmem => ?_) fun hmem => ?_
  · rw [String.toList_append, List.mem_append] at hmem
    rcases hmem with hmem | hmem
    · exact (ne_parenthesis_of_mem_spelling hmem).1 rfl
    · exact absurd hmem (by decide)
  · rw [haddress] at hmem
    exact (ne_parenthesis_of_mem_spelling hmem).2 rfl

/-! ## Agreement -/

/-- **The views of a sentinel agree.** At every width a number that is not negative stands for itself, and a sentinel for the
one number of the word that is congruent to it; to ask again what this stands for changes nothing, and the sentinels from
`-2 ^ width` on all stand for different numbers. The hint of an expected value is read as the view of the value in a word
of 32 bits, and a sentinel of no more digits than can be written is described with what is read as its view in a word of
64 bits. -/
theorem views_agree (a : Int) (width : Nat) :
    unsignedViewAt a width = .ok (unsignedView a width) ∧ (0 ≤ a → unsignedView a width = a) ∧
      (a < 0 → ∀ r, r = unsignedView a width ↔ 0 ≤ r ∧ r < 2 ^ width ∧ r ≡ a [ZMOD 2 ^ width]) ∧
      unsignedView (unsignedView a width) width = unsignedView a width ∧
      Set.InjOn (unsignedView · width) {b | -2 ^ width ≤ b ∧ b < 0} ∧
      (∀ e : FieldExpectation, parse e.hint = .ok (unsignedView e.value 32)) ∧
      (a < 0 → (decimalDigits a.natAbs).length ≤ digitLimit →
        ∃ text, describe a = .ok text ∧ parse (inParentheses text) = .ok (unsignedView a 64)) := by
  refine ⟨unsignedViewAt_natCast a width, unsignedView_of_nonneg, fun h _ => eq_unsignedView_iff h,
    unsignedView_unsignedView a width, injOn_unsignedView width, fun e => ?_, fun h hshort => ?_⟩
  · rw [FieldExpectation.hint, hintValue_eq_unsignedView]
    exact parse_hexText (unsignedView_nonneg e.value 32)
  · refine ⟨description a, describe_of_writable (Or.inr hshort), ?_⟩
    rw [inParentheses_description h]
    exact parse_hexText (unsignedView_nonneg a 64)

/-- a word without bits, one below the lowest sentinel of a word, and the greatest address as it is described -/
example : [unsignedView (-7) 0, unsignedView (-257) 8, unsignedView (-1)] = [0, 255, maxUnsigned] ∧
    (describe (-1)).map inParentheses = .ok "0xffffffffffffffff" := by decide +kernel

end DebugFind.Address
