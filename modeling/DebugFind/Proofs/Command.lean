/-
The text of commands. A command has a text exactly if its address can be written: an address of the process always
can, a sentinel if it is short enough. `findText` is that text whatever the length, so that a plan of commands can be
told before anything is sent. A command is its words (`split_findText`), as a shell reads it.
-/
import DebugFind.Probe
import DebugFind.Proofs.Address

namespace DebugFind

open DebugFind.Numeral DebugFind.Text.ShellWords

/-! ## Commands -/

namespace Command

/-- the command that asks what an address is, whatever the length of its text -/
def findText (address : Int) (verbose : Bool := false) : String :=
  findWord ++ " " ++ (if verbose then verboseFlag ++ " " else "") ++ Address.spelling address

theorem find_of_writable {a : Int} (h : Address.Writable a) (verbose : Bool) :
    find a verbose = .ok (findText a verbose) := by
  rw [find, Address.format_of_writable h]
  rfl

theorem find_of_not_writable {a : Int} (h : ¬ Address.Writable a) (verbose : Bool) :
    find a verbose = .error .tooLongToWrite := by
  rw [find, Address.format_of_not_writable h]
  rfl

theorem find_eq_ok_iff {a : Int} {verbose : Bool} {text : String} :
    find a verbose = .ok text ↔ Address.Writable a ∧ text = findText a verbose := by
  by_cases h : Address.Writable a
  · rw [find_of_writable h]
    simp [h, eq_comm]
  · rw [find_of_not_writable h]
    simp [h]

/-- no question about an address is the one for a listing -/
theorem findText_ne_threadListing (a : Int) (verbose : Bool) : findText a verbose ≠ threadListing := by
  intro h
  have h' := congrArg (fun text => text.toList.head?) h
  simp [findText, findWord, threadListing, String.toList_append] at h'

/-! ### Words -/

/-- the words of the command that asks what an address is -/
def findWords (address : Int) (verbose : Bool := false) : List String :=
  ["VM.debug", "find"] ++ (if verbose then [verboseFlag] else []) ++ [Address.spelling address]

theorem intercalate_findWords (a : Int) (verbose : Bool) :
    " ".intercalate (findWords a verbose) = findText a verbose := by
  refine String.toList_inj.1 ?_
  rw [String.toList_intercalate]
  cases verbose <;> simp [findWords, findText, findWord, verboseFlag, List.intercalate, List.intersperse]

theorem isPlain_of_isDigit {c : Char} (h : c.isDigit) : isPlain c := by
  by_contra hc
  simp only [isPlain, isGap, isQuote, Bool.and_eq_true, Bool.not_eq_true', bne_iff_ne, ne_eq, Bool.or_eq_false_iff,
    beq_eq_false_iff_ne, not_and_or, not_not] at hc
  rcases hc with ((((rfl | rfl) | rfl) | rfl) | rfl | rfl) | rfl <;> revert h <;> decide

theorem isPlain_of_mem_hexDigits {n : Nat} {c : Char} (h : c ∈ hexDigits n) : isPlain c := by
  obtain ⟨d, hd, rfl⟩ := mem_hexDigits h
  interval_cases d <;> decide

theorem isPlainWord_spelling (a : Int) : IsPlainWord (Address.spelling a).toList := by
  rw [Address.spelling]
  split_ifs with ha
  · rw [String.toList_ofList, decimal, if_pos ha]
    refine ⟨List.cons_ne_nil _ _, List.forall_mem_cons.2 ⟨by decide, fun c hc => ?_⟩⟩
    exact isPlain_of_isDigit (Nat.isDigit_of_mem_toDigits (by decide) (by decide) hc)
  · have hmark : ∀ c ∈ "0x".toList, isPlain c := List.all_eq_true.1 (by decide)
    rw [hexText, if_neg ha, String.toList_append]
    refine ⟨by simp, fun c hc => ?_⟩
    rcases List.mem_append.1 hc with hc | hc
    · exact hmark c hc
    · rw [String.toList_ofList] at hc
      exact isPlain_of_mem_hexDigits hc

theorem isPlainWord_of_mem_findWords {a : Int} {verbose : Bool} {word : String} (h : word ∈ findWords a verbose) :
    IsPlainWord word.toList := by
  have hfixed : ∀ word ∈ ["VM.debug", "find", verboseFlag], IsPlainWord word.toList := by decide
  simp only [findWords, List.mem_append, List.mem_singleton] at h
  rcases h with (h | h) | rfl
  · exact hfixed word (by simp only [List.mem_cons] at h ⊢; tauto)
  · split_ifs at h
    · exact hfixed word (by simp only [List.mem_cons] at h ⊢; tauto)
    · cases h
  · exact isPlainWord_spelling a

/-- a command is read as its words -/
theorem split_findText (a : Int) (verbose : Bool) : split (findText a verbose) = .ok (findWords a verbose) := by
  rw [← intercalate_findWords]
  exact split_intercalate fun word hword => isPlainWord_of_mem_findWords hword

/-- two questions are never made of the same words -/
theorem findWords_inj {a b : Int} {verbose verbose' : Bool} (h : findWords a verbose = findWords b verbose') :
    a = b ∧ verbose = verbose' := by
  by_cases hverbose : verbose = verbose'
  · subst hverbose
    refine ⟨Address.spelling_injective ?_, rfl⟩
    simpa only [findWords, List.append_cancel_left_eq, List.cons.injEq, and_true] using h
  · -- the flag is a word more
    have hlength := congrArg List.length h
    revert hlength
    rcases verbose with _ | _ <;> rcases verbose' with _ | _ <;> simp [findWords] at hverbose ⊢

/-- nor do they have the same text -/
theorem findText_inj {a b : Int} {verbose verbose' : Bool} (h : findText a verbose = findText b verbose') :
    a = b ∧ verbose = verbose' := by
  have hwords := split_findText a verbose
  rw [h, split_findText] at hwords
  exact findWords_inj (Except.ok.inj hwords).symm

end Command

end DebugFind
