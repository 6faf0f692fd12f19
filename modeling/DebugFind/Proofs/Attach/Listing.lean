/-
The listing of the machines that run. A line lists a machine if its first word looks like a number and its second one is
not the class of the launcher (`Lists`). The first word may still be no number, and then the whole listing is not read
(`readListing_eq_error_iff`).

- `ofLineBySplits_eq`: the words of a line can be taken by splitting it once and then its second part; no word that is
  asked for is missing.
- `Row`: a line as it is written, with gaps around and between what stands on it. Such lines are read as the machines on
  them, but for the launchers (`readListing_of_rows`).
-/
import DebugFind.Attach.Listing
import DebugFind.Proofs.Fallible
import DebugFind.Proofs.Numeral.Reading
import DebugFind.Proofs.Text.Words

namespace DebugFind.Attach

open DebugFind.Text DebugFind.Numeral

/-! ## One line -/

/-- a machine of the listing is a launcher -/
def Entry.IsLauncher (e : Entry) : Prop := Entry.launcherClass.toList <:+ e.mainClass.toList

instance (e : Entry) : Decidable e.IsLauncher := inferInstanceAs (Decidable (_ <:+ _))

/-- a word looks like a number: its characters look like digits -/
def LooksNumeric (word : List Char) : Prop := ∀ c ∈ word, isDigitLike c = true

instance (word : List Char) : Decidable (LooksNumeric word) := decidable_of_iff (word.all isDigitLike) List.all_eq_true

/-- a line lists a machine: its first word looks like a number, and the class behind it, if any, is not a launcher's -/
def Lists (line number mainClass : List Char) : Prop :=
  ∃ others, words line = number :: others ∧ others.headD [] = mainClass ∧ LooksNumeric number ∧
    ¬ Entry.launcherClass.toList <:+ mainClass

theorem ofLine_of_not_lists {line : List Char} (h : ∀ number mainClass, ¬ Lists line number mainClass) :
    Entry.ofLine line = .ok none := by
  unfold Entry.ofLine
  rcases hwords : words line with _ | ⟨number, others⟩
  · rfl
  · have hpassed : (!number.all isDigitLike || Entry.launcherClass.toList.isSuffixOf (others.headD [])) = true := by
      by_contra hkept
      simp only [Bool.or_eq_true, Bool.not_eq_true', not_or, Bool.not_eq_false, List.all_eq_true,
        List.isSuffixOf_iff_suffix] at hkept
      exact h number _ ⟨others, hwords, rfl, hkept.1, hkept.2⟩
    simp only [hpassed, if_true]

theorem ofLine_of_lists {line number mainClass : List Char} (h : Lists line number mainClass) :
    Entry.ofLine line =
      if IsReadable number then .ok (some ⟨ofDigits 10 (number.filterMap digitValue?), String.ofList mainClass⟩)
      else .error (refusal number) := by
  obtain ⟨others, hwords, rfl, hnumber, hlauncher⟩ := h
  have hkept : (!number.all isDigitLike || Entry.launcherClass.toList.isSuffixOf (others.headD [])) = false := by
    rw [Bool.or_eq_false_iff, Bool.not_eq_false', List.all_eq_true, ← Bool.not_eq_true, List.isSuffixOf_iff_suffix]
    exact ⟨hnumber, hlauncher⟩
  have hne : number ≠ [] := ne_nil_of_mem_words (s := line) (by simp [hwords])
  simp only [Entry.ofLine, hwords, hkept, Bool.false_eq_true, if_false, read_digitLike hne hnumber]
  split_ifs <;> rfl

/-- a line misleads: it lists a machine, but what looks like the number is none -/
def Misleads (line : List Char) (e : Numeral.Error) : Prop :=
  ∃ number mainClass, Lists line number mainClass ∧ ¬ IsReadable number ∧ refusal number = e

theorem ofLine_eq_error_iff {line : List Char} {e : Numeral.Error} : Entry.ofLine line = .error e ↔ Misleads line e := by
  constructor
  · intro h
    by_cases hlists : ∃ number mainClass, Lists line number mainClass
    · obtain ⟨number, mainClass, hlists⟩ := hlists
      rw [ofLine_of_lists hlists] at h
      split_ifs at h with hreadable
      exact ⟨number, mainClass, hlists, hreadable, Except.error.inj h⟩
    · simp only [not_exists] at hlists
      rw [ofLine_of_not_lists hlists] at h
      cases h
  · rintro ⟨number, mainClass, hlists, hreadable, rfl⟩
    rw [ofLine_of_lists hlists, if_neg hreadable]

/-- the machine of a line by another way: the line is split once, and then its second part; `none` if a word that is
asked for is missing -/
def Entry.ofLineBySplits (line : List Char) : Option (Except Numeral.Error (Option Entry)) :=
  match splitOnce (strip line) with
  | [] => some (.ok none)
  | number :: parts =>
    if !number.all isDigitLike then some (.ok none)
    else do
      let mainClass ← match parts with
        | [] => some []
        | behind :: _ => (words behind)[0]?
      return if launcherClass.toList.isSuffixOf mainClass then .ok none
        else do
          let pid ← Numeral.read (String.ofList number)
          return some ⟨pid.toNat, String.ofList mainClass⟩

/-- **No word is missing** where one is asked for, so both ways lead to the same machine. -/
theorem ofLineBySplits_eq (line : List Char) : Entry.ofLineBySplits line = some (Entry.ofLine line) := by
  unfold Entry.ofLineBySplits Entry.ofLine
  rcases splitOnce_strip_cases line with ⟨hsplit, hwords⟩ | ⟨word, hsplit, hwords⟩ |
    ⟨word, behind, next, others, hsplit, hbehind, hwords⟩
  · simp only [hsplit, hwords]
  · simp only [hsplit, hwords, List.headD_nil]
    by_cases hnumber : word.all isDigitLike
    · simp [hnumber]
    · simp [hnumber]
  · simp only [hsplit, hwords, hbehind, List.headD_cons, List.getElem?_cons_zero]
    by_cases hnumber : word.all isDigitLike
    · simp [hnumber]
    · simp [hnumber]

/-! ## All lines -/

theorem entriesOf_eq (ls : List (List Char)) : entriesOf ls = ls.filterMapM Entry.ofLine := by
  induction ls with
  | nil => rfl
  | cons line rest ih =>
    rw [entriesOf, ih]
    rcases hline : Entry.ofLine line with e | found
    · rw [filterMapM_cons_of_error hline]
      rfl
    · rw [filterMapM_cons_of_ok hline]
      rfl

/-- a listing is not read because of its first line that misleads -/
theorem readListing_eq_error_iff {text : String} {e : Numeral.Error} :
    readListing text = .error e ↔
      ∃ line, FirstOf (fun line => ∃ e', Misleads line e') (lines text.toList) line ∧ Misleads line e := by
  rw [readListing, entriesOf_eq, filterMapM_eq_error_iff]
  simp only [ofLine_eq_error_iff]

/-! ## Lines as they are written -/

/-- blanks within a line -/
def IsGap (s : List Char) : Prop := ∀ c ∈ s, isBlank c = true ∧ isLineBreak c = false

instance (s : List Char) : Decidable (IsGap s) :=
  decidable_of_iff (s.all fun c => isBlank c && !isLineBreak c) (by simp [IsGap])

/-- a name: one word -/
def IsName (s : List Char) : Prop := s ≠ [] ∧ ∀ c ∈ s, isBlank c = false

instance (s : List Char) : Decidable (IsName s) := decidable_of_iff (s ≠ [] ∧ s.all (!isBlank ·)) (by simp [IsName])

/-- the gaps of a line: in front of the process id, behind it, behind the class, and behind the arguments -/
structure Gaps where
  front : List Char := []
  behindPid : List Char := [' ']
  behindClass : List Char := [' ']
  back : List Char := []
deriving DecidableEq, Repr

/-- a line of a listing, as it is written: one for a machine, with arguments, or any other -/
inductive Row where
  | machine (entry : Entry) (arguments : String) (gaps : Gaps)
  | other (line : List Char)
deriving DecidableEq, Repr

namespace Row

def line : Row → List Char
  | .machine entry arguments gaps =>
    gaps.front ++ decimalDigits entry.pid ++
      (gaps.behindPid ++ entry.mainClass.toList ++ (gaps.behindClass ++ arguments.toList ++ gaps.back))
  | .other line => line

/-- the machine that the line says runs; a launcher is passed over -/
def listed : Row → Option Entry
  | .machine entry _ _ => if entry.IsLauncher then none else some entry
  | .other _ => none

/-- what stands on a line can be told apart: the process id can be written, the class is one word, or empty if no arguments
follow it, and the first word of another line does not look like a number -/
inductive Regular : Row → Prop
  | machine {entry : Entry} {arguments : String} {gaps : Gaps} (pid : Writable entry.pid)
      (named : IsName entry.mainClass.toList) (unbroken : Unbroken arguments.toList) (front : IsGap gaps.front)
      (behindPid : IsGap gaps.behindPid) (apart : gaps.behindPid ≠ []) (behindClass : IsGap gaps.behindClass)
      (apart' : arguments.toList ≠ [] → gaps.behindClass ≠ []) (back : IsGap gaps.back) :
    Regular (.machine entry arguments gaps)
  | nameless {entry : Entry} {arguments : String} {gaps : Gaps} (pid : Writable entry.pid)
      (nameless : entry.mainClass.toList = []) (alone : arguments.toList = []) (front : IsGap gaps.front)
      (behindPid : IsGap gaps.behindPid) (behindClass : IsGap gaps.behindClass) (back : IsGap gaps.back) :
    Regular (.machine entry arguments gaps)
  | other {line : List Char} (unbroken : Unbroken line)
      (noNumber : ∀ word ∈ (words line).head?, ¬ LooksNumeric word) :
    Regular (.other line)

end Row

theorem IsGap.blank {s : List Char} (h : IsGap s) : ∀ c ∈ s, isBlank c = true := fun c hc => (h c hc).1

theorem IsGap.unbroken {s : List Char} (h : IsGap s) : Unbroken s := fun c hc => (h c hc).2

theorem IsGap.append {a b : List Char} (ha : IsGap a) (hb : IsGap b) : IsGap (a ++ b) :=
  List.forall_mem_append.2 ⟨ha, hb⟩

/-- what stands behind a gap is at its end, or the gap is empty -/
theorem IsGap.head? {gap rest : List Char} (h : IsGap gap) (hapart : gap = [] → ∀ c ∈ rest.head?, isBlank c = true) :
    ∀ c ∈ (gap ++ rest).head?, isBlank c = true := by
  rcases gap with _ | ⟨d, gap⟩
  · exact hapart rfl
  · intro c hc
    cases hc
    exact (h d List.mem_cons_self).1

namespace Row

/-- the words of a line about a machine are its process id, its class if it has one, and those of the arguments -/
theorem exists_words_line {entry : Entry} {arguments : String} {gaps : Gaps}
    (h : (machine entry arguments gaps).Regular) :
    ∃ others, words (machine entry arguments gaps).line = decimalDigits entry.pid :: others ∧
      others.headD [] = entry.mainClass.toList := by
  have hdigits : decimalDigits entry.pid ≠ [] := Nat.toDigits_ne_nil
  have hblank : ∀ c ∈ decimalDigits entry.pid, isBlank c = false := fun _ hc => isBlank_of_mem_decimalDigits hc
  cases h with
  | machine pid named unbroken front behindPid apart behindClass apart' back =>
    have hbehind : ∀ c ∈ (gaps.behindClass ++ arguments.toList ++ gaps.back).head?, isBlank c = true := by
      rw [List.append_assoc]
      refine behindClass.head? fun hnone => ?_
      have halone : arguments.toList = [] := by
        by_contra hsome
        exact apart' hsome hnone
      rw [halone, List.nil_append, ← List.append_nil gaps.back]
      exact back.head? fun _ _ hc => by cases hc
    have hnext : ∀ c ∈ (gaps.behindPid ++ entry.mainClass.toList ++
        (gaps.behindClass ++ arguments.toList ++ gaps.back)).head?, isBlank c = true := by
      rw [List.append_assoc]
      exact behindPid.head? fun hnone => absurd hnone apart
    rw [line, words_blanks_word_append front.blank hdigits hblank hnext,
      words_blanks_word_append behindPid.blank named.1 named.2 hbehind]
    exact ⟨_, rfl, rfl⟩
  | nameless pid nameless alone front behindPid behindClass back =>
    have hrest : IsGap (gaps.behindPid ++ [] ++ (gaps.behindClass ++ [] ++ gaps.back)) := by
      rw [List.append_nil, List.append_nil]
      exact behindPid.append (behindClass.append back)
    have hnext : ∀ c ∈ (gaps.behindPid ++ [] ++ (gaps.behindClass ++ [] ++ gaps.back)).head?, isBlank c = true :=
      fun c hc => hrest.blank c (List.mem_of_mem_head? hc)
    rw [line, nameless, alone, words_blanks_word_append front.blank hdigits hblank hnext,
      words_eq_nil_of_blank hrest.blank]
    exact ⟨[], rfl, rfl⟩

/-- a line is read as the machine on it -/
theorem ofLine_line {row : Row} (h : row.Regular) : Entry.ofLine row.line = .ok row.listed := by
  rcases row with ⟨entry, arguments, gaps⟩ | text
  · obtain ⟨others, hwords, hclass⟩ := exists_words_line h
    have hpid : Writable entry.pid := by cases h <;> assumption
    rw [listed]
    split_ifs with hlauncher
    · refine ofLine_of_not_lists ?_
      rintro number mainClass ⟨others', hwords', rfl, -, hnot⟩
      rw [hwords] at hwords'
      cases hwords'
      rw [hclass] at hnot
      exact hnot hlauncher
    · have hlists : Lists (machine entry arguments gaps).line (decimalDigits entry.pid) entry.mainClass.toList :=
        ⟨others, hwords, hclass, fun _ hc => isDigitLike_of_mem_decimalDigits hc, hlauncher⟩
      rw [ofLine_of_lists hlists, if_pos (isReadable_decimalDigits hpid), ofDigits_decimalDigits, String.ofList_toList]
  · cases h with
    | other unbroken noNumber =>
      refine ofLine_of_not_lists ?_
      rintro number mainClass ⟨others, hwords, -, hnumber, -⟩
      have hfirst : words text = number :: others := hwords
      rw [hfirst] at noNumber
      exact noNumber number rfl hnumber

theorem unbroken_line {row : Row} (h : row.Regular) : Unbroken row.line := by
  cases h with
  | machine pid named unbroken front behindPid apart behindClass apart' back =>
    exact (front.unbroken.append (unbroken_decimalDigits _)).append
      ((behindPid.unbroken.append (unbroken_of_forall_not_blank named.2)).append
        ((behindClass.unbroken.append unbroken).append back.unbroken))
  | nameless pid nameless alone front behindPid behindClass back =>
    rw [line, nameless, alone]
    exact (front.unbroken.append (unbroken_decimalDigits _)).append
      ((behindPid.unbroken.append (List.forall_mem_nil _)).append
        ((behindClass.unbroken.append (List.forall_mem_nil _)).append back.unbroken))
  | other unbroken noNumber => exact unbroken

end Row

/-- lines, each ended by a line feed -/
def written (rows : List Row) : String := String.ofList (rows.flatMap fun row => row.line ++ ['\n'])

theorem lines_written {rows : List Row} (h : ∀ row ∈ rows, row.Regular) :
    lines (written rows).toList = rows.map Row.line := by
  have hunbroken : ∀ line ∈ rows.map Row.line, Unbroken line :=
    List.forall_mem_map.2 fun row hrow => Row.unbroken_line (h row hrow)
  rw [written, String.toList_ofList, ← lines_flatMap hunbroken, List.flatMap_map]

/-- **Lines are read as the machines on them**, however they are ended. -/
theorem readListing_of_rows {rows : List Row} (h : ∀ row ∈ rows, row.Regular) {text : String}
    (htext : lines text.toList = rows.map Row.line) : readListing text = .ok (rows.filterMap Row.listed) := by
  rw [readListing, entriesOf_eq, htext]
  exact filterMapM_map_of_forall fun row hrow => Row.ofLine_line (h row hrow)

end DebugFind.Attach
