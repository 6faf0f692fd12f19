/-
Reading a word of digit-like characters as a decimal numeral. No such character is a blank, a sign or an underscore, so
the reader gets to the digits at once, and takes them up to the first character that only looks like one. The word is
read if there is no such character and it is not too long (`read_digitLike`), as what is written for a number is
(`isReadable_decimalDigits`).
-/
import DebugFind.Proofs.Numeral
import DebugFind.Proofs.Text

namespace DebugFind.Text

/-! ## Digit-like characters -/

theorem Ranges.exists_of_within {rs : Ranges} {c : Nat} (h : rs.within c = true) : ∃ r ∈ rs, r.1 ≤ c ∧ c ≤ r.2 := by
  induction rs with
  | nil => cases h
  | cons r rest ih =>
    obtain ⟨lo, hi⟩ := r
    rw [Ranges.within] at h
    split_ifs at h with hlo hhi
    · exact ⟨(lo, hi), List.mem_cons_self, Nat.le_of_not_lt hlo, hhi⟩
    · obtain ⟨r, hr, hwithin⟩ := ih h
      exact ⟨r, List.mem_cons_of_mem _ hr, hwithin⟩

theorem exists_of_digitValueIn {rs : Ranges} {c d : Nat} (h : digitValueIn rs c = some d) :
    ∃ r ∈ rs, r.1 ≤ c ∧ c ≤ r.2 := by
  induction rs with
  | nil => cases h
  | cons r rest ih =>
    obtain ⟨lo, hi⟩ := r
    rw [digitValueIn] at h
    split_ifs at h with hlo hhi
    · exact ⟨(lo, hi), List.mem_cons_self, Nat.le_of_not_lt hlo, hhi⟩
    · obtain ⟨r, hr, hwithin⟩ := ih h
      exact ⟨r, List.mem_cons_of_mem _ hr, hwithin⟩

theorem exists_of_isDigitLike {c : Char} (h : isDigitLike c = true) :
    ∃ r ∈ decimalRuns ++ digitLikeOnly, r.1 ≤ c.toNat ∧ c.toNat ≤ r.2 := by
  rw [isDigitLike, Bool.or_eq_true] at h
  rcases h with h | h
  · obtain ⟨d, hd⟩ := Option.isSome_iff_exists.1 h
    obtain ⟨r, hr, hwithin⟩ := exists_of_digitValueIn hd
    exact ⟨r, List.mem_append_left _ hr, hwithin⟩
  · obtain ⟨r, hr, hwithin⟩ := Ranges.exists_of_within h
    exact ⟨r, List.mem_append_right _ hr, hwithin⟩

/-- no digit-like character is blank -/
theorem isBlank_of_isDigitLike {c : Char} (h : isDigitLike c = true) : isBlank c = false := by
  have hapart : ∀ b ∈ blanks, ∀ r ∈ decimalRuns ++ digitLikeOnly, b.2 < r.1 ∨ r.2 < b.1 := by decide +kernel
  by_contra hblank
  rw [Bool.not_eq_false] at hblank
  obtain ⟨b, hb, hlow, hhigh⟩ := Ranges.exists_of_within hblank
  obtain ⟨r, hr, hstart, hend⟩ := exists_of_isDigitLike h
  rcases hapart b hb r hr with hbefore | hbehind <;> omega

theorem isDigitLike_of_isDecimalDigit {c : Char} (h : isDecimalDigit c = true) : isDigitLike c = true := by
  rw [isDigitLike, h, Bool.true_or]

theorem isDecimalDigit_of_isBlank {c : Char} (h : isBlank c = true) : isDecimalDigit c = false := by
  by_contra hdigit
  rw [Bool.not_eq_false] at hdigit
  rw [isBlank_of_isDigitLike (isDigitLike_of_isDecimalDigit hdigit)] at h
  cases h

/-- and none of the characters that a numeral may have besides its digits is digit-like -/
theorem ne_of_isDigitLike {c : Char} (h : isDigitLike c = true) : c ≠ '-' ∧ c ≠ '+' ∧ c ≠ '_' := by
  refine ⟨?_, ?_, ?_⟩ <;> rintro rfl <;> revert h <;> decide +kernel

end DebugFind.Text

namespace DebugFind.Numeral

open DebugFind.Text

/-! ## Words of digit-like characters -/

theorem underscoresInside_of_notMem {s : List Char} (h : '_' ∉ s) (after : Bool) : underscoresInside after s = true := by
  induction s generalizing after with
  | nil => rfl
  | cons c s ih =>
    obtain ⟨hc, hs⟩ := List.ne_and_not_mem_of_not_mem_cons h
    rw [underscoresInside, if_neg (by simpa using Ne.symm hc), ih hs]

theorem takeWhile_congr {p q : Char → Bool} {s : List Char} (h : ∀ c ∈ s, p c = q c) :
    s.takeWhile p = s.takeWhile q ∧ s.dropWhile p = s.dropWhile q := by
  induction s with
  | nil => exact ⟨rfl, rfl⟩
  | cons c s ih =>
    obtain ⟨hc, hs⟩ := List.forall_mem_cons.1 h
    obtain ⟨htake, hdrop⟩ := ih hs
    rw [List.takeWhile_cons, List.takeWhile_cons, List.dropWhile_cons, List.dropWhile_cons, hc, htake, hdrop]
    exact ⟨rfl, rfl⟩

/-- a word of decimal digits that are not too many -/
def IsReadable (word : List Char) : Prop := (∀ c ∈ word, isDecimalDigit c = true) ∧ word.length ≤ digitLimit

instance (word : List Char) : Decidable (IsReadable word) :=
  decidable_of_iff (word.all isDecimalDigit ∧ word.length ≤ digitLimit) (and_congr_left' List.all_eq_true)

/-- the run of decimal digits that a word begins with -/
def leadingDigits (word : List Char) : List Char := word.takeWhile isDecimalDigit

/-- why a word of digit-like characters is no numeral: its leading digits are too many, or they are not all of it -/
def refusal (word : List Char) : Error :=
  if digitLimit < (leadingDigits word).length then .tooLongToRead (leadingDigits word).length
  else .malformed (String.ofList word)

theorem length_filterMap_digitValue? {s : List Char} (h : ∀ c ∈ s, isDecimalDigit c = true) :
    (s.filterMap digitValue?).length = s.length := by
  rw [List.length_filterMap_eq_countP, List.countP_eq_length]
  exact h

theorem dropWhile_of_forall {p : Char → Bool} {s : List Char} (h : ∀ c ∈ s, p c = false) : s.dropWhile p = s :=
  List.dropWhile_eq_self_iff.2 fun hpos => by simp [h _ (List.getElem_mem hpos)]

/-- a word of digit-like characters is read from its first character on, up to the first that is no decimal digit -/
theorem read_word {word : List Char} (hne : word ≠ []) (h : ∀ c ∈ word, isDigitLike c = true) :
    read (String.ofList word) =
      (ofDecimal (leadingDigits word)).bind fun n =>
        if (leadingDigits word).isEmpty || !(word.dropWhile isDecimalDigit).isEmpty then
          .error (.malformed (String.ofList word))
        else .ok (n : Int) := by
  obtain ⟨c, rest, rfl⟩ := List.exists_cons_of_ne_nil hne
  have hblank : ∀ d ∈ c :: rest, isNumeralBlank d = false := by
    intro d hd
    rw [isNumeralBlank, isBlank_of_isDigitLike (h d hd), Bool.false_and]
  have hfront : (c :: rest).dropWhile isNumeralBlank = c :: rest := dropWhile_of_forall hblank
  have hback : (c :: rest).reverse.dropWhile isNumeralBlank = (c :: rest).reverse :=
    dropWhile_of_forall fun d hd => hblank d (List.mem_reverse.1 hd)
  have hinRun : ∀ d ∈ c :: rest, (isDecimalDigit d || d == '_') = isDecimalDigit d := by
    intro d hd
    simp [(ne_of_isDigitLike (h d hd)).2.2]
  obtain ⟨htake, hdrop⟩ := takeWhile_congr hinRun
  have hinside : underscoresInside false ((c :: rest).takeWhile isDecimalDigit) = true := by
    refine underscoresInside_of_notMem (fun hmem => ?_) false
    exact (ne_of_isDigitLike (h _ ((List.takeWhile_prefix _).subset hmem))).2.2 rfl
  obtain ⟨hminus, hplus, -⟩ := ne_of_isDigitLike (h c List.mem_cons_self)
  simp only [read, String.toList_ofList, hfront, hback, List.reverse_reverse]
  split
  · rename_i heq
    exact absurd (List.cons.inj heq).1 hminus
  · rename_i heq
    exact absurd (List.cons.inj heq).1 hplus
  · simp only [htake, hdrop, hinside, if_true]
    rfl

/-- **A word of digit-like characters is a numeral** if they are all decimal digits, and not too many. -/
theorem read_digitLike {word : List Char} (hne : word ≠ []) (h : ∀ c ∈ word, isDigitLike c = true) :
    read (String.ofList word) =
      if IsReadable word then .ok (ofDigits 10 (word.filterMap digitValue?) : Nat) else .error (refusal word) := by
  have hdigits : ∀ c ∈ leadingDigits word, isDecimalDigit c = true := fun c hc => List.mem_takeWhile_imp hc
  rw [read_word hne h, ofDecimal, ofDecimalDigits, length_filterMap_digitValue? hdigits, refusal]
  by_cases hall : ∀ c ∈ word, isDecimalDigit c = true
  · have hwhole : leadingDigits word = word := List.takeWhile_eq_self_iff.2 hall
    have hnothing : word.dropWhile isDecimalDigit = [] := List.dropWhile_eq_nil_iff.2 hall
    by_cases hlength : word.length ≤ digitLimit
    · rw [hwhole, hnothing, if_pos hlength, if_pos ⟨hall, hlength⟩]
      simp [Except.bind, hne]
    · rw [hwhole, if_neg hlength, if_neg fun hboth : IsReadable word => hlength hboth.2, if_pos (Nat.lt_of_not_le hlength)]
      rfl
  · have hmore : word.dropWhile isDecimalDigit ≠ [] := fun hnothing => hall (List.dropWhile_eq_nil_iff.1 hnothing)
    have hnot : ¬ IsReadable word := fun hboth => hall hboth.1
    rw [if_neg hnot]
    by_cases hlength : (leadingDigits word).length ≤ digitLimit
    · rw [if_pos hlength, if_neg (Nat.not_lt.2 hlength)]
      simp [Except.bind, hmore]
    · rw [if_neg hlength, if_pos (Nat.lt_of_not_le hlength)]
      rfl

/-- a number that can be written is written as such a word -/
theorem isReadable_decimalDigits {n : Nat} (h : Writable n) : IsReadable (decimalDigits n) :=
  ⟨fun _ hc => isDecimalDigit_of_mem_decimalDigits hc, h⟩

theorem isDigitLike_of_mem_decimalDigits {n : Nat} {c : Char} (h : c ∈ decimalDigits n) : isDigitLike c = true :=
  isDigitLike_of_isDecimalDigit (isDecimalDigit_of_mem_decimalDigits h)

theorem isBlank_of_mem_decimalDigits {n : Nat} {c : Char} (h : c ∈ decimalDigits n) : isBlank c = false :=
  isBlank_of_isDigitLike (isDigitLike_of_mem_decimalDigits h)

theorem unbroken_decimalDigits (n : Nat) : Unbroken (decimalDigits n) :=
  fun _ hc => isLineBreak_of_isDigit (mem_decimalDigits hc)

end DebugFind.Numeral
