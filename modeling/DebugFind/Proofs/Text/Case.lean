/-
Lower case and dots. A dot has no case, and no other character becomes one (`lowerChar_eq_dot_iff`), so the dots of a
text stay where they are between its letters. A letter is lowered by itself, apart from the capital sigma, whose form
depends on the letters around it: a text without one is lowered letter by letter (`lowerFrom_eq_flatMap`).

What follows the last dot of a text in lower case is therefore what follows its last dot, in lower case, unless a capital
sigma stands there (`afterLast_lower`). A sigma there takes the letters before the dot into account, and comes out as
another letter than it does alone.
-/
import Mathlib.Data.List.TakeWhile
import Mathlib.Tactic
import DebugFind.Text.Case
import DebugFind.Text.Search

namespace DebugFind.Text

/-! ## The dot -/

/-- runs that start and end beyond a code point never lead to it -/
theorem shiftIn_ne {n : Nat} {runs : List CaseRun} (h : ∀ r ∈ runs, (n : Int) < r.first + r.shift) {c : Nat}
    (hc : c ≠ n) : shiftIn runs c ≠ n := by
  induction runs with
  | nil => exact hc
  | cons r rest ih =>
    obtain ⟨hr, hrest⟩ := List.forall_mem_cons.1 h
    rw [shiftIn]
    split_ifs
    · exact hc
    · omega
    · exact ih hrest

theorem lowerCode_ne_dot {c : Nat} (h : c ≠ 0x2e) : lowerCode c ≠ 0x2e := shiftIn_ne (by decide +kernel) h

/-- no other character has a dot for its lower case -/
theorem lowerChar_eq_dot_iff {c : Char} : lowerChar c = '.' ↔ c = '.' := by
  constructor
  · intro h
    by_contra hc
    have hcode : c.toNat ≠ 0x2e := fun hcode => hc (Char.toNat_inj.1 hcode)
    rw [lowerChar, Char.ofNat] at h
    -- a number that is no code point stands for the null character
    by_cases hvalid : (lowerCode c.toNat).isValidChar
    · rw [dif_pos hvalid] at h
      exact lowerCode_ne_dot hcode (congrArg Char.toNat h)
    · rw [dif_neg hvalid] at h
      cases h
  · rintro rfl
    decide

/-! ## Letter by letter -/

/-- the lower case of a character, other than a capital sigma -/
def lowerLetter (c : Char) : List Char := if c = 'İ' then ['i', '\u0307'] else [lowerChar c]

theorem dot_mem_lowerLetter_iff {c : Char} : '.' ∈ lowerLetter c ↔ c = '.' := by
  unfold lowerLetter
  split_ifs with hc
  · subst hc
    decide
  · rw [List.mem_singleton, eq_comm, lowerChar_eq_dot_iff]

theorem lowerFrom_cons {c : Char} (h : c ≠ 'Σ') (before rest : List Char) :
    lowerFrom before (c :: rest) = lowerLetter c ++ lowerFrom (c :: before) rest := by
  rw [lowerFrom, lowerLetter, if_neg h]

/-- a text without a capital sigma is lowered letter by letter, whatever stands before it -/
theorem lowerFrom_eq_flatMap {s : List Char} (h : 'Σ' ∉ s) (before : List Char) :
    lowerFrom before s = s.flatMap lowerLetter := by
  induction s generalizing before with
  | nil => rfl
  | cons c s ih =>
    obtain ⟨hc, hs⟩ := List.ne_and_not_mem_of_not_mem_cons h
    rw [lowerFrom_cons (Ne.symm hc), ih hs, List.flatMap_cons]

theorem lower_eq_flatMap {s : List Char} (h : 'Σ' ∉ s) : lower s = s.flatMap lowerLetter := lowerFrom_eq_flatMap h []

theorem dot_notMem_flatMap {s : List Char} (h : '.' ∉ s) : '.' ∉ s.flatMap lowerLetter := by
  intro hdot
  obtain ⟨c, hc, hdot⟩ := List.mem_flatMap.1 hdot
  rw [dot_mem_lowerLetter_iff] at hdot
  exact h (hdot ▸ hc)

/-- a text without a dot has none in lower case, wherever it stands -/
theorem dot_notMem_lowerFrom {s : List Char} (h : '.' ∉ s) (before : List Char) : '.' ∉ lowerFrom before s := by
  induction s generalizing before with
  | nil => exact List.not_mem_nil
  | cons c s ih =>
    obtain ⟨hc, hs⟩ := List.ne_and_not_mem_of_not_mem_cons h
    by_cases hsigma : c = 'Σ'
    · subst hsigma
      rw [lowerFrom, List.mem_append, not_or]
      refine ⟨?_, ih hs _⟩
      rw [if_pos rfl]
      split_ifs <;> decide
    · rw [lowerFrom_cons hsigma, List.mem_append, dot_mem_lowerLetter_iff]
      exact not_or.2 ⟨Ne.symm hc, ih hs _⟩

/-- what is lowered behind a text stands behind something -/
theorem exists_lowerFrom_append (before s rest : List Char) :
    ∃ front, lowerFrom before (s ++ rest) = front ++ lowerFrom (s.reverse ++ before) rest := by
  induction s generalizing before with
  | nil => exact ⟨[], rfl⟩
  | cons c s ih =>
    obtain ⟨front, hfront⟩ := ih (c :: before)
    have hlater : (c :: s).reverse ++ before = s.reverse ++ c :: before := by simp
    rw [List.cons_append, lowerFrom, hfront, hlater, ← List.append_assoc]
    exact ⟨_, rfl⟩

/-! ## What follows the last dot -/

theorem bne_of_mem_reverse {c d : Char} {s : List Char} (h : c ∉ s) (hd : d ∈ s.reverse) : (d != c) = true := by
  rw [bne_iff_ne]
  rintro rfl
  exact h (List.mem_reverse.1 hd)

theorem afterLast_append {c : Char} {s : List Char} (h : c ∉ s) (front : List Char) :
    afterLast c (front ++ c :: s) = s := by
  have hkept : ∀ d ∈ s.reverse, (d != c) = true := fun _ => bne_of_mem_reverse h
  rw [afterLast, List.reverse_append, List.reverse_cons, List.append_assoc, List.takeWhile_append_of_pos hkept]
  simp

theorem afterLast_of_notMem {c : Char} {s : List Char} (h : c ∉ s) : afterLast c s = s := by
  rw [afterLast, List.takeWhile_eq_self_iff.2 fun _ => bne_of_mem_reverse h, List.reverse_reverse]

/-- a text has no dot, or it is what stands before its last dot, that dot, and what follows it -/
theorem notMem_or_exists_afterLast (c : Char) (s : List Char) :
    c ∉ s ∨ ∃ front, s = front ++ c :: afterLast c s ∧ c ∉ afterLast c s := by
  induction s using List.reverseRecOn with
  | nil => exact Or.inl List.not_mem_nil
  | append_singleton s d ih =>
    by_cases hd : d = c
    · right
      subst hd
      have hnothing : afterLast d (s ++ [d]) = [] := afterLast_append List.not_mem_nil s
      rw [hnothing]
      exact ⟨s, rfl, List.not_mem_nil⟩
    · rcases ih with hnone | ⟨front, hs, hlast⟩
      · left
        simpa [hnone] using Ne.symm hd
      · right
        have hlast' : c ∉ afterLast c s ++ [d] := by simpa [hlast] using Ne.symm hd
        have hmore : afterLast c (s ++ [d]) = afterLast c s ++ [d] := by
          conv_lhs => rw [hs, List.append_assoc, List.cons_append, afterLast_append hlast']
        rw [hmore]
        exact ⟨front, by rw [← List.cons_append, ← List.append_assoc, ← hs], hlast'⟩

/-- **What follows the last dot is lowered by itself**, unless a capital sigma is in it. -/
theorem afterLast_lower {s : List Char} (h : 'Σ' ∉ afterLast '.' s) :
    afterLast '.' (lower s) = lower (afterLast '.' s) := by
  rcases notMem_or_exists_afterLast '.' s with hnone | ⟨front, hs, hlast⟩
  · rw [afterLast_of_notMem hnone] at h ⊢
    rw [lower_eq_flatMap h, afterLast_of_notMem (dot_notMem_flatMap hnone)]
  · obtain ⟨others, hothers⟩ := exists_lowerFrom_append [] front ('.' :: afterLast '.' s)
    have hdot : lowerLetter '.' = ['.'] := by decide
    have hlower : lower s = others ++ '.' :: (afterLast '.' s).flatMap lowerLetter := by
      conv_lhs => rw [hs, lower, hothers, lowerFrom_cons (by decide), lowerFrom_eq_flatMap h, hdot]
      rfl
    rw [hlower, afterLast_append (dot_notMem_flatMap hlast), lower_eq_flatMap h]

end DebugFind.Text
