/-
Numerals that are written. A number is written in hexadecimal by digits that read back as it (`ofHex_hexDigits`), so
two numbers never have the same text; in decimal it is written if it is short enough (`Writable`), as every number is
that was read. No zero stands in front (`Unpadded`), and there is only one such numeral for a value
(`toDigits_ofDigits`).
-/
import Mathlib.Tactic
import DebugFind.Numeral.Decimal

namespace DebugFind.Numeral

open DebugFind.Text

/-! ## Digits -/

theorem ofDigits_append_singleton (base : Nat) (digits : List Nat) (d : Nat) :
    ofDigits base (digits ++ [d]) = ofDigits base digits * base + d := by
  simp [ofDigits, List.foldl_append]

/-- the digits of a number read back as it, for every reader that knows them -/
theorem ofDigits_toDigits {base : Nat} {value? : Char → Option Nat} (hbase : 1 < base)
    (hvalue : ∀ d < base, value? (Nat.digitChar d) = some d) (n : Nat) :
    ofDigits base ((Nat.toDigits base n).filterMap value?) = n := by
  induction n using Nat.strongRecOn with
  | ind n ih =>
    rw [Nat.toDigits_eq_if hbase]
    split_ifs with h
    · simp [hvalue n h, ofDigits]
    · have hread : ofDigits base ((Nat.toDigits base (n / base)).filterMap value?) = n / base :=
        ih _ (Nat.div_lt_self (by omega) hbase)
      rw [List.filterMap_append, List.filterMap_cons, hvalue _ (Nat.mod_lt _ (by omega)), List.filterMap_nil,
        ofDigits_append_singleton, hread]
      exact Nat.div_add_mod' n base

theorem mem_toDigits {base : Nat} (hbase : 1 < base) {n : Nat} {c : Char} (h : c ∈ Nat.toDigits base n) :
    ∃ d < base, c = Nat.digitChar d := by
  induction n using Nat.strongRecOn with
  | ind n ih =>
    rw [Nat.toDigits_eq_if hbase] at h
    split_ifs at h with hn
    · exact ⟨n, hn, List.mem_singleton.1 h⟩
    · rcases List.mem_append.1 h with h | h
      · exact ih _ (Nat.div_lt_self (by omega) hbase) h
      · exact ⟨n % base, Nat.mod_lt _ (by omega), List.mem_singleton.1 h⟩

/-- a numeral without zeros in front: it begins with a zero only if it is nothing else -/
def Unpadded (digits : List Char) : Prop := digits ≠ [] ∧ (digits.head? = some '0' → digits = ['0'])

theorem eq_zero_of_head?_toDigits {base : Nat} (hbase : 1 < base) {n : Nat}
    (h : (Nat.toDigits base n).head? = some '0') : n = 0 := by
  induction n using Nat.strongRecOn with
  | ind n ih =>
    rw [Nat.toDigits_eq_if hbase] at h
    split_ifs at h with hn
    · simpa using h
    · rw [List.head?_append_of_ne_nil _ Nat.toDigits_ne_nil] at h
      have hquotient : n / base = 0 := ih (n / base) (Nat.div_lt_self (by omega) hbase) h
      have hpos : 0 < n / base := Nat.div_pos (by omega) (by omega)
      omega

/-- numbers are written without zeros in front -/
theorem unpadded_toDigits {base : Nat} (hbase : 1 < base) (n : Nat) : Unpadded (Nat.toDigits base n) := by
  refine ⟨Nat.toDigits_ne_nil, fun h => ?_⟩
  rw [eq_zero_of_head?_toDigits hbase h, Nat.toDigits_zero]

theorem Unpadded.head?_ne {digits others : List Char} (h : Unpadded (digits ++ others)) (hdigits : digits ≠ [])
    (hothers : others ≠ []) : digits.head? ≠ some '0' := by
  intro hzero
  have hwhole : digits ++ others = ['0'] := h.2 (by rw [List.head?_append_of_ne_nil _ hdigits, hzero])
  have hlength := congrArg List.length hwhole
  have := List.length_pos_iff.2 hdigits
  have := List.length_pos_iff.2 hothers
  simp only [List.length_append, List.length_singleton] at hlength
  omega

/-- a numeral without zeros in front is the one that its value is written with -/
theorem toDigits_ofDigits {base : Nat} {value? : Char → Option Nat} (hbase : 1 < base)
    (hvalue : ∀ d < base, value? (Nat.digitChar d) = some d) {digits : List Char}
    (hdigits : ∀ c ∈ digits, ∃ d < base, c = Nat.digitChar d) (h : Unpadded digits) :
    Nat.toDigits base (ofDigits base (digits.filterMap value?)) = digits := by
  induction digits using List.reverseRecOn with
  | nil => exact absurd rfl h.1
  | append_singleton digits c ih =>
    obtain ⟨d, hd, rfl⟩ := hdigits c (by simp)
    rw [List.filterMap_append, List.filterMap_cons, hvalue d hd, List.filterMap_nil, ofDigits_append_singleton]
    by_cases hne : digits = []
    · subst hne
      simp [ofDigits, Nat.toDigits_of_lt_base hd]
    · have hhead : digits.head? ≠ some '0' := h.head?_ne hne (by simp)
      have hfront : Nat.toDigits base (ofDigits base (digits.filterMap value?)) = digits :=
        ih (fun c hc => hdigits c (by simp [hc])) ⟨hne, fun hzero => absurd hzero hhead⟩
      have hpos : 0 < ofDigits base (digits.filterMap value?) := by
        by_contra hzero
        rw [Nat.eq_zero_of_not_pos hzero, Nat.toDigits_zero] at hfront
        rw [← hfront] at hhead
        exact hhead rfl
      calc Nat.toDigits base (ofDigits base (digits.filterMap value?) * base + d)
          = Nat.toDigits base (ofDigits base (digits.filterMap value?)) ++ Nat.toDigits base d := by
            rw [Nat.mul_comm, Nat.toDigits_append_toDigits hbase hpos hd]
        _ = digits ++ [Nat.digitChar d] := by rw [hfront, Nat.toDigits_of_lt_base hd]

/-! ## Hexadecimal -/

theorem hexValue?_digitChar {d : Nat} (h : d < 16) : hexValue? (Nat.digitChar d) = some d := by
  interval_cases d <;> rfl

theorem isHexNumeral_iff {digits : List Char} :
    isHexNumeral digits = true ↔ digits ≠ [] ∧ ∀ c ∈ digits, isHexDigit c := by
  simp [isHexNumeral]

theorem ofHex_hexDigits (n : Nat) : ofHex (hexDigits n) = n :=
  ofDigits_toDigits (by decide) (fun _ => hexValue?_digitChar) n

theorem hexDigits_injective : Function.Injective hexDigits := by
  intro a b h
  rw [← ofHex_hexDigits a, h, ofHex_hexDigits]

theorem mem_hexDigits {n : Nat} {c : Char} (h : c ∈ hexDigits n) : ∃ d < 16, c = Nat.digitChar d :=
  mem_toDigits (by decide) h

/-- the digits that numbers are written with are the decimal digits and the first six small letters -/
theorem exists_digitChar_of_small {c : Char} (h : ('0' ≤ c ∧ c ≤ '9') ∨ ('a' ≤ c ∧ c ≤ 'f')) :
    ∃ d < 16, c = Nat.digitChar d := by
  have hle (a b : Char) : a ≤ b ↔ a.toNat ≤ b.toNat := UInt32.le_iff_toNat_le
  rcases h with ⟨hlow, hhigh⟩ | ⟨hlow, hhigh⟩
  · have hlow : 48 ≤ c.toNat := (hle _ _).1 hlow
    have hhigh : c.toNat ≤ 57 := (hle _ _).1 hhigh
    refine ⟨c.toNat - 48, by omega, Char.toNat_inj.1 ?_⟩
    rw [Nat.toNat_digitChar_of_lt_ten (by omega)]
    omega
  · have hlow : 97 ≤ c.toNat := (hle _ _).1 hlow
    have hhigh : c.toNat ≤ 102 := (hle _ _).1 hhigh
    refine ⟨c.toNat - 87, by omega, Char.toNat_inj.1 ?_⟩
    generalize c.toNat = n at *
    interval_cases n <;> rfl

theorem small_of_mem_hexDigits {n : Nat} {c : Char} (h : c ∈ hexDigits n) :
    ('0' ≤ c ∧ c ≤ '9') ∨ ('a' ≤ c ∧ c ≤ 'f') := by
  obtain ⟨d, hd, rfl⟩ := mem_hexDigits h
  interval_cases d <;> decide

theorem isHexNumeral_hexDigits (n : Nat) : isHexNumeral (hexDigits n) := by
  refine isHexNumeral_iff.2 ⟨Nat.toDigits_ne_nil, fun c hc => ?_⟩
  obtain ⟨d, hd, rfl⟩ := mem_hexDigits hc
  simp [isHexDigit, hexValue?_digitChar hd]

theorem afterHexMark?_eq_some_iff {s digits : List Char} :
    afterHexMark? s = some digits ↔ ∃ mark, (mark = 'x' ∨ mark = 'X') ∧ s = '0' :: mark :: digits := by
  unfold afterHexMark?
  split
  · simp
  · simp
  · rename_i hsmall hcapital
    simp only [reduceCtorEq, false_iff]
    rintro ⟨mark, rfl | rfl, rfl⟩
    · exact hsmall _ rfl
    · exact hcapital _ rfl

/-- no mark stands in front of digits alone -/
theorem afterHexMark?_of_isHexNumeral {digits : List Char} (h : isHexNumeral digits) : afterHexMark? digits = none := by
  rw [Option.eq_none_iff_forall_ne_some]
  intro rest hrest
  obtain ⟨mark, hmark, rfl⟩ := afterHexMark?_eq_some_iff.1 hrest
  have hdigit : isHexDigit mark := (isHexNumeral_iff.1 h).2 mark (by simp)
  rcases hmark with rfl | rfl
  · exact absurd hdigit (by decide)
  · exact absurd hdigit (by decide)

/-! ## Decimal -/

theorem digitValue?_digitChar {d : Nat} (h : d < 10) : digitValue? (Nat.digitChar d) = some d := by
  interval_cases d <;> rfl

theorem ofDigits_decimalDigits (n : Nat) : ofDigits 10 ((decimalDigits n).filterMap digitValue?) = n :=
  ofDigits_toDigits (by decide) (fun _ => digitValue?_digitChar) n

theorem isDecimalDigit_of_mem_decimalDigits {n : Nat} {c : Char} (h : c ∈ decimalDigits n) :
    isDecimalDigit c = true := by
  obtain ⟨d, hd, rfl⟩ := mem_toDigits (by decide) h
  simp [isDecimalDigit, digitValue?_digitChar hd]

theorem decimalDigits_injective : Function.Injective decimalDigits := by
  intro a b h
  rw [← ofDigits_decimalDigits a, h, ofDigits_decimalDigits]

theorem mem_decimalDigits {n : Nat} {c : Char} (h : c ∈ decimalDigits n) : c.isDigit = true :=
  Nat.isDigit_of_mem_toDigits (by decide) (by decide) h

theorem isDigit_of_mem_decimal {n : Nat} {c : Char} (h : c ∈ decimal n) : c.isDigit := by
  rw [decimal, if_neg (by omega)] at h
  exact mem_decimalDigits h

/-- two numbers are never written alike -/
theorem decimal_injective : Function.Injective decimal := by
  have hminus (n : Nat) : '-' ∉ decimalDigits n := fun h => by
    have := mem_decimalDigits h
    revert this
    decide
  intro a b h
  unfold decimal at h
  split_ifs at h with ha hb hb
  · have := decimalDigits_injective (List.cons.inj h).2
    omega
  · exact absurd (h ▸ List.mem_cons_self) (hminus _)
  · exact absurd (h ▸ List.mem_cons_self) (hminus _)
  · have := decimalDigits_injective h
    omega

/-- the number is short enough to be written in decimal -/
def Writable (n : Int) : Prop := (decimalDigits n.natAbs).length ≤ digitLimit

instance (n : Int) : Decidable (Writable n) := inferInstanceAs (Decidable (_ ≤ _))

theorem write_of_writable {n : Int} (h : Writable n) : write n = .ok (String.ofList (decimal n)) := if_pos h

theorem write_of_not_writable {n : Int} (h : ¬ Writable n) : write n = .error .tooLongToWrite := if_neg h

theorem writable_iff_lt {n : Int} : Writable n ↔ n.natAbs < 10 ^ digitLimit :=
  Nat.length_toDigits_le_iff (by decide) (by decide)

theorem not_writable_pow : ¬ Writable (10 ^ digitLimit) := by
  have hten : (10 : Int).natAbs = 10 := rfl
  rw [writable_iff_lt, Int.natAbs_pow, hten]
  exact lt_irrefl _

theorem writable_neg {n : Int} : Writable (-n) ↔ Writable n := by
  rw [writable_iff_lt, writable_iff_lt, Int.natAbs_neg]

theorem writable_of_le {m n : Nat} (h : m ≤ n) (hn : Writable n) : Writable m := by
  rw [writable_iff_lt, Int.natAbs_natCast] at hn ⊢
  exact h.trans_lt hn

/-- a number that can be written is read back from its digits -/
theorem ofDecimal_decimalDigits {n : Nat} (h : Writable n) : ofDecimal (decimalDigits n) = .ok n := by
  have hlength : ((decimalDigits n).filterMap digitValue?).length ≤ digitLimit :=
    (List.length_filterMap_le _ _).trans h
  rw [ofDecimal, ofDecimalDigits, if_pos hlength, ofDigits_decimalDigits]

/-- a text is a non-empty run of ASCII decimal digits -/
def IsDecimalNumeral (digits : List Char) : Prop := digits ≠ [] ∧ ∀ c ∈ digits, isAsciiDigit c

theorem isDecimalNumeral_decimalDigits (n : Nat) : IsDecimalNumeral (decimalDigits n) := by
  refine ⟨Nat.toDigits_ne_nil, fun c hc => ?_⟩
  obtain ⟨d, hd, rfl⟩ := mem_toDigits (by decide) hc
  interval_cases d <;> decide

theorem exists_digitChar_of_isAsciiDigit {c : Char} (h : isAsciiDigit c) : ∃ d < 10, c = Nat.digitChar d := by
  have hle (a b : Char) : a ≤ b ↔ a.toNat ≤ b.toNat := UInt32.le_iff_toNat_le
  obtain ⟨hlow, hhigh⟩ : 48 ≤ c.toNat ∧ c.toNat ≤ 57 := by simpa [isAsciiDigit, hle] using h
  refine ⟨c.toNat - 48, by omega, Char.toNat_inj.1 ?_⟩
  rw [Nat.toNat_digitChar_of_lt_ten (by omega)]
  omega

/-- ASCII digits are read if there are not too many of them, zeros in front included -/
theorem ofDecimal_eq {digits : List Char} (h : ∀ c ∈ digits, isAsciiDigit c) :
    ofDecimal digits = if digits.length ≤ digitLimit then .ok (ofDigits 10 (digits.filterMap digitValue?))
      else .error (.tooLongToRead digits.length) := by
  have hlength : (digits.filterMap digitValue?).length = digits.length := by
    rw [List.length_filterMap_eq_countP, List.countP_eq_length]
    intro c hc
    obtain ⟨d, hd, rfl⟩ := exists_digitChar_of_isAsciiDigit (h c hc)
    simp [digitValue?_digitChar hd]
  rw [ofDecimal, ofDecimalDigits, hlength]

theorem digitValue?_lt {c : Char} {d : Nat} (h : digitValue? c = some d) : d < 10 := by
  have hruns (runs : Ranges) (h : digitValueIn runs c.toNat = some d) : d < 10 := by
    induction runs with
    | nil => cases h
    | cons run rest ih =>
      rw [digitValueIn] at h
      split_ifs at h
      · cases h
        exact Nat.mod_lt _ (by decide)
      · exact ih h
  exact hruns decimalRuns h

theorem ofDigits_lt_pow {base : Nat} {digits : List Nat} (h : ∀ d ∈ digits, d < base) :
    ofDigits base digits < base ^ digits.length := by
  induction digits using List.reverseRecOn with
  | nil => simp [ofDigits]
  | append_singleton digits d ih =>
    have hd : d < base := h d (by simp)
    have hdigits : ofDigits base digits + 1 ≤ base ^ digits.length := ih fun d' hd' => h d' (by simp [hd'])
    calc ofDigits base (digits ++ [d])
        = ofDigits base digits * base + d := ofDigits_append_singleton base digits d
      _ < (ofDigits base digits + 1) * base := by rw [Nat.add_mul]; omega
      _ ≤ base ^ digits.length * base := Nat.mul_le_mul_right base hdigits
      _ = base ^ (digits ++ [d]).length := by rw [List.length_append, List.length_singleton, pow_succ]

/-- a number that was read is short enough to be written -/
theorem writable_of_ofDecimal {s : List Char} {n : Nat} (h : ofDecimal s = .ok n) : Writable n := by
  rw [ofDecimal, ofDecimalDigits] at h
  split_ifs at h with hlength
  cases h
  have hdigits : ∀ d ∈ s.filterMap digitValue?, d < 10 := by
    intro d hd
    obtain ⟨c, -, hc⟩ := List.mem_filterMap.1 hd
    exact digitValue?_lt hc
  rw [writable_iff_lt, Int.natAbs_natCast]
  exact (ofDigits_lt_pow hdigits).trans_le (Nat.pow_le_pow_right (by decide) hlength)

end DebugFind.Numeral
