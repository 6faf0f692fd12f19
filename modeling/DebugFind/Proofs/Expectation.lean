/-
Which texts show an expected value. The check takes the decimal numeral, and behind it a hexadecimal hint unless the
value is a single digit. The hint is in either case and may have zeros in front, so a value has many texts (`Shows`),
but no text shows two values (`shows_unique`). The process that is inspected writes one of them (`printed`), with a hint
of eight digits in two's complement.

- `acceptsValue_of_isWord`: the check takes the texts that show the value, and no others.
- `accepts_exact`: so it takes a field exactly if name, type and value are right, and among the texts that the process
  writes only that of the value itself.

A value is a signed word of 32 bits (`IsWord`), as it is in every profile.
-/
import DebugFind.Proofs.Numeral
import DebugFind.Proofs.Numeral.Mask
import DebugFind.ObjectField

namespace DebugFind

open DebugFind.Text DebugFind.Numeral

/-! ## Words -/

/-- a number is the value of a signed word of 32 bits -/
def IsWord (n : Int) : Prop := -Nat.pow 2 31 ≤ n ∧ n < Nat.pow 2 31

instance (n : Int) : Decidable (IsWord n) := inferInstanceAs (Decidable (_ ∧ _))

theorem isWord_iff {n : Int} : IsWord n ↔ -2147483648 ≤ n ∧ n < 2147483648 := Iff.rfl

/-- a word is a number between the least and the greatest value of a field -/
theorem isWord_iff_mem {n : Int} : IsWord n ↔ FieldExpectation.leastValue ≤ n ∧ n ≤ FieldExpectation.greatestValue := by
  have hleast : FieldExpectation.leastValue = -2147483648 := rfl
  have hgreatest : FieldExpectation.greatestValue = 2147483647 := rfl
  rw [isWord_iff, hleast, hgreatest]
  omega

theorem writable_of_isWord {n : Int} (h : IsWord n) : Numeral.Writable n := by
  rw [isWord_iff] at h
  have hsmall : n.natAbs < 10 ^ 10 := by omega
  exact writable_iff_lt.2 (hsmall.trans_le (Nat.pow_le_pow_right (by decide) (by decide)))

/-- the word that a value stands in, in two's complement -/
def wordOf (n : Int) : Nat := (if n < 0 then n + Nat.pow 2 32 else n).toNat

theorem wordOf_lt {n : Int} (h : IsWord n) : wordOf n < 16 ^ 8 := by
  rw [isWord_iff] at h
  have hwidth : (Nat.pow 2 32 : Int) = 4294967296 := rfl
  unfold wordOf
  split_ifs <;> omega

/-! ## Hexadecimal digits -/

theorem map_toLower_hexDigits (n : Nat) : (hexDigits n).map Char.toLower = hexDigits n := by
  have hlower : ∀ c ∈ hexDigits n, c.toLower = c := by
    intro c hc
    obtain ⟨d, hd, rfl⟩ := mem_hexDigits hc
    interval_cases d <;> rfl
  exact (List.map_congr_left hlower).trans (List.map_id _)

/-- digits in a field of some width have zeros in front -/
theorem hexField_eq {width n : Nat} (h : n < 16 ^ (width + 1)) :
    ∃ zeros, hexField (width + 1) n = List.replicate zeros '0' ++ hexDigits n := by
  induction width generalizing n with
  | zero =>
    have hn : n < 16 := by simpa using h
    refine ⟨0, ?_⟩
    rw [hexDigits, Nat.toDigits_of_lt_base hn]
    simp [hexField, Nat.mod_eq_of_lt hn]
  | succ width ih =>
    obtain ⟨zeros, hzeros⟩ := ih (n := n / 16) (by rw [pow_succ] at h; omega)
    rw [hexField, hzeros]
    by_cases hn : n < 16
    · refine ⟨zeros + 1, ?_⟩
      have hquotient : n / 16 = 0 := Nat.div_eq_of_lt hn
      rw [hexDigits, hexDigits, Nat.toDigits_of_lt_base hn, hquotient, Nat.mod_eq_of_lt hn, List.replicate_succ']
      rfl
    · refine ⟨zeros, ?_⟩
      rw [hexDigits, hexDigits, Nat.toDigits_eq_if (n := n) (by decide), if_neg hn, List.append_assoc]

namespace FieldExpectation

/-! ## Texts that show a value -/

/-- a hint shows a number: in parentheses, with a mark, any number of zeros and its digits in either case -/
def HintShows (n : Nat) (hint : List Char) : Prop :=
  ∃ mark zeros digits, (mark = 'x' ∨ mark = 'X') ∧ digits.map Char.toLower = hexDigits n ∧
    hint = '(' :: '0' :: mark :: (List.replicate zeros '0' ++ digits ++ [')'])

/-- a text shows a value: the decimal numeral alone for a single digit, otherwise with a space and the hint behind it,
which for a negative value is that of the word it stands in -/
def Shows (v : Int) (text : List Char) : Prop :=
  if 0 ≤ v ∧ v ≤ 9 then text = decimal v
  else ∃ hint, HintShows (wordOf v) hint ∧ text = decimal v ++ ' ' :: hint

/-- the text of a value as the inspected process writes it -/
def printed (v : Int) : String :=
  String.ofList (if 0 ≤ v ∧ v ≤ 9 then decimal v else decimal v ++ " (0x".toList ++ hexField 8 (wordOf v) ++ [')'])

/-- what is printed for a value shows it -/
theorem shows_printed {v : Int} (h : IsWord v) : Shows v (printed v).toList := by
  rw [Shows, printed, String.toList_ofList]
  split_ifs with hdigit
  · rfl
  · obtain ⟨zeros, hzeros⟩ := hexField_eq (wordOf_lt h)
    refine ⟨'(' :: '0' :: 'x' :: (List.replicate zeros '0' ++ hexDigits (wordOf v) ++ [')']), ?_, by rw [hzeros]; simp⟩
    exact ⟨'x', zeros, _, Or.inl rfl, map_toLower_hexDigits _, rfl⟩

/-- the numeral of a text that shows a value is what stands before the first space -/
theorem takeWhile_of_shows {v : Int} {text : List Char} (h : Shows v text) : text.takeWhile (· != ' ') = decimal v := by
  have hnumeral : ∀ c ∈ decimal v, (c != ' ') = true := by
    intro c hc
    simp only [bne_iff_ne, ne_eq]
    rintro rfl
    unfold decimal at hc
    split_ifs at hc
    · exact absurd (mem_decimalDigits ((List.mem_cons.1 hc).resolve_left (by decide))) (by decide)
    · exact absurd (mem_decimalDigits hc) (by decide)
  rw [Shows] at h
  split_ifs at h with hdigit
  · rw [h, ← List.append_nil (decimal v), List.takeWhile_append_of_pos hnumeral, List.takeWhile_nil]
  · obtain ⟨hint, -, rfl⟩ := h
    rw [List.takeWhile_append_of_pos hnumeral]
    simp

/-- **No text shows two values.** -/
theorem shows_unique {v w : Int} {text : List Char} (hv : Shows v text) (hw : Shows w text) : v = w :=
  decimal_injective ((takeWhile_of_shows hv).symm.trans (takeWhile_of_shows hw))

/-! ## The check -/

theorem spells_iff {numeral text : List Char} :
    spells numeral text = true ↔
      ∃ zeros digits, text = List.replicate zeros '0' ++ digits ∧ digits.map Char.toLower = numeral := by
  simp only [spells, Bool.and_eq_true, decide_eq_true_eq, List.all_eq_true, beq_iff_eq]
  constructor
  · rintro ⟨⟨hlength, hzeros⟩, hdigits⟩
    refine ⟨text.length - numeral.length, text.drop (text.length - numeral.length), ?_, hdigits⟩
    have hfront : text.take (text.length - numeral.length) = List.replicate (text.length - numeral.length) '0' := by
      refine List.eq_replicate_iff.2 ⟨?_, hzeros⟩
      rw [List.length_take]
      omega
    rw [← hfront, List.take_append_drop]
  · rintro ⟨zeros, digits, rfl, rfl⟩
    simp

theorem isHintFor_iff {n : Nat} {hint : List Char} : isHintFor n hint = true ↔ HintShows n hint := by
  constructor
  · intro h
    unfold isHintFor at h
    split at h
    · rename_i rest
      cases hmark : afterHexMark? rest with
      | none =>
        rw [hmark] at h
        cases h
      | some digits =>
        simp only [hmark, Bool.and_eq_true, beq_iff_eq] at h
        obtain ⟨hlast, hspells⟩ := h
        obtain ⟨zeros, others, hdigits, hlower⟩ := spells_iff.1 hspells
        obtain ⟨front, hfront⟩ := List.getLast?_eq_some_iff.1 hlast
        rw [hfront, List.dropLast_concat] at hdigits
        subst hdigits
        obtain ⟨mark, hx, rfl⟩ := afterHexMark?_eq_some_iff.1 hmark
        exact ⟨mark, zeros, others, hx, hlower, by rw [hfront]⟩
    · cases h
  · rintro ⟨mark, zeros, digits, hmark, hlower, rfl⟩
    have hspells : spells (hexDigits n) (List.replicate zeros '0' ++ digits) = true :=
      spells_iff.2 ⟨zeros, digits, rfl, hlower⟩
    rcases hmark with rfl | rfl <;> simp [isHintFor, afterHexMark?, hspells]

variable {e : FieldExpectation}

theorem isSingleDigit_iff : e.isSingleDigit = true ↔ 0 ≤ e.value ∧ e.value ≤ 9 := by
  simp [isSingleDigit]

/-- the hint of a negative value is that of the remainder modulo the words of 32 bits -/
theorem hintValue_of_neg (h : e.value < 0) : e.hintValue = e.value % 2 ^ 32 := by
  rw [hintValue, if_pos h]
  exact masked_ones e.value 32

theorem hintValue_of_nonneg (h : 0 ≤ e.value) : e.hintValue = e.value := if_neg (Int.not_lt.2 h)

/-- the hint shows the word of the value -/
theorem hintValue_of_isWord (h : IsWord e.value) : e.hintValue.toNat = wordOf e.value := by
  rw [isWord_iff] at h
  have hwidth : (Nat.pow 2 32 : Int) = 4294967296 := rfl
  rw [wordOf, hwidth]
  by_cases hneg : e.value < 0
  · rw [hintValue_of_neg hneg, if_pos hneg]
    omega
  · rw [hintValue_of_nonneg (Int.not_lt.1 hneg), if_neg hneg]

/-- **The check takes the texts that show the value, and no others.** -/
theorem acceptsValue_of_isWord (h : IsWord e.value) (text : String) :
    ∃ accepted, e.acceptsValue text = .ok accepted ∧ (accepted = true ↔ Shows e.value text.toList) := by
  unfold acceptsValue Shows
  rw [write_of_writable (writable_of_isWord h)]
  by_cases hdigit : 0 ≤ e.value ∧ e.value ≤ 9
  · refine ⟨text == String.ofList (decimal e.value), ?_, ?_⟩
    · simp only [isSingleDigit_iff.2 hdigit, if_true]
      rfl
    · rw [if_pos hdigit, beq_iff_eq, ← String.toList_inj, String.toList_ofList]
  · have hmulti : e.isSingleDigit = false := Bool.eq_false_iff.2 fun h => hdigit (isSingleDigit_iff.1 h)
    rw [if_neg hdigit, ← hintValue_of_isWord h]
    simp only [hmulti, bind, Except.bind, Bool.false_eq_true, if_false, String.toList_ofList]
    cases hrest : (decimal e.value ++ [' ']).isPrefixOf? text.toList with
    | some hint =>
      have htext : text.toList = decimal e.value ++ ' ' :: hint := by
        rw [← List.isPrefixOf?_eq_some_iff_append_eq.1 hrest]
        simp
      refine ⟨_, rfl, ?_⟩
      rw [isHintFor_iff, htext]
      constructor
      · intro hshows
        exact ⟨hint, hshows, rfl⟩
      · rintro ⟨hint', hshows, heq⟩
        simp only [List.append_cancel_left_eq, List.cons.injEq, true_and] at heq
        exact heq ▸ hshows
    | none =>
      refine ⟨false, rfl, ?_⟩
      simp only [Bool.false_eq_true, false_iff]
      rintro ⟨hint, -, htext⟩
      have hsome : (decimal e.value ++ [' ']).isPrefixOf? text.toList = some hint :=
        List.isPrefixOf?_eq_some_iff_append_eq.2 (by rw [htext]; simp)
      rw [hrest] at hsome
      cases hsome

/-- **The check takes exactly the fields that show the expected value under the expected name and type.** Of the texts
that the process writes for the values of a word, it takes that of the expected value alone. -/
theorem accepts_exact (h : IsWord e.value) (f : ObjectField) :
    (∃ accepted, e.accepts f = .ok accepted ∧
      (accepted = true ↔ f.name = e.name ∧ f.typeTag = e.typeTag ∧ Shows e.value f.value.toList)) ∧
    ∀ w, IsWord w → f.name = e.name → f.typeTag = e.typeTag → f.value = printed w →
      (e.accepts f = .ok true ↔ w = e.value) := by
  obtain ⟨shown, hshown, hiff⟩ := acceptsValue_of_isWord h f.value
  constructor
  · unfold accepts
    split_ifs with hlabels
    · simp only [Bool.and_eq_true, beq_iff_eq] at hlabels
      exact ⟨shown, hshown, by rw [hiff]; tauto⟩
    · simp only [Bool.and_eq_true, beq_iff_eq] at hlabels
      exact ⟨false, rfl, by simp; tauto⟩
  · intro w hw hname htag hvalue
    have haccepts : e.accepts f = .ok shown := by
      rw [accepts, if_pos (by simp [hname, htag]), hshown]
    have hprinted : Shows w f.value.toList := hvalue ▸ shows_printed hw
    rw [haccepts, Except.ok.injEq, hiff]
    constructor
    · intro hshows
      exact shows_unique hprinted hshows
    · rintro rfl
      exact hprinted

/-- a negative value whose hint has capitals and zeros in front; of what is written, only its own text is taken -/
theorem accepts_exact_of_negative :
    let e : FieldExpectation := { value := -5 }
    let f : ObjectField := ⟨["private"], "myInt", "I", 12, "-5 (0X00ffffFFFB)"⟩
    IsWord e.value ∧ e.accepts f = .ok true ∧ printed (-5) = "-5 (0xfffffffb)" ∧
      ∀ w, IsWord w → (e.accepts { f with value := printed w } = .ok true ↔ w = -5) := by
  intro e f
  have hword : IsWord e.value := by decide
  obtain ⟨accepted, haccepts, hiff⟩ := (accepts_exact hword f).1
  have hshows : Shows e.value f.value.toList :=
    ⟨"(0X00ffffFFFB)".toList, ⟨'X', 2, "ffffFFFB".toList, Or.inr rfl, by decide +kernel, by decide +kernel⟩,
      by decide +kernel⟩
  have htaken : accepted = true := hiff.2 ⟨rfl, rfl, hshows⟩
  refine ⟨hword, htaken ▸ haccepts, by decide +kernel, ?_⟩
  intro w hw
  exact (accepts_exact hword _).2 w hw rfl rfl rfl

end FieldExpectation

end DebugFind
