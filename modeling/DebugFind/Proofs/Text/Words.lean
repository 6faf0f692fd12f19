/-
Words of a line. A word ends where a blank stands (`words_word_append`), and blanks around words belong to none of them
(`words_blanks_append`).

A text may also be split once only, into its first word and what stands behind the blanks after it (`splitOnce`). Of a
line without blanks around it, what stands behind the first word has a word of its own (`splitOnce_strip_cases`), so the
words of a line can be taken by splitting it once and then splitting the second part.
-/
import DebugFind.Proofs.Text

namespace DebugFind.Text

/-! ## Words and blanks -/

theorem wordsFrom_word_append {word : List Char} (h : ∀ c ∈ word, isBlank c = false) (before rest : List Char) :
    wordsFrom before (word ++ rest) = wordsFrom (word.reverse ++ before) rest := by
  induction word generalizing before with
  | nil => rfl
  | cons c word ih =>
    obtain ⟨hc, hword⟩ := List.forall_mem_cons.1 h
    rw [List.cons_append, wordsFrom, if_neg (by simp [hc]), ih hword]
    simp

/-- blanks in front of a text belong to none of its words -/
theorem words_blanks_append {blanks : List Char} (h : ∀ c ∈ blanks, isBlank c = true) (s : List Char) :
    words (blanks ++ s) = words s := by
  induction blanks with
  | nil => rfl
  | cons c blanks ih =>
    obtain ⟨hc, hblanks⟩ := List.forall_mem_cons.1 h
    have hskip : words (c :: (blanks ++ s)) = words (blanks ++ s) := by simp [words, wordsFrom, hc]
    rw [List.cons_append, hskip, ih hblanks]

/-- a word ends where a blank stands, or where the text ends -/
theorem words_word_append {word rest : List Char} (hne : word ≠ []) (h : ∀ c ∈ word, isBlank c = false)
    (hend : ∀ c ∈ rest.head?, isBlank c = true) : words (word ++ rest) = word :: words rest := by
  have hread : word.reverse ++ [] ≠ [] := by simpa using hne
  rw [words, wordsFrom_word_append h]
  rcases rest with _ | ⟨c, rest⟩
  · simp [words, wordsFrom, hne]
  · have hc : isBlank c = true := hend c rfl
    simp [words, wordsFrom, hc, hne]

theorem words_blanks_word_append {blanks word rest : List Char} (hblanks : ∀ c ∈ blanks, isBlank c = true)
    (hne : word ≠ []) (h : ∀ c ∈ word, isBlank c = false) (hend : ∀ c ∈ rest.head?, isBlank c = true) :
    words (blanks ++ word ++ rest) = word :: words rest := by
  rw [List.append_assoc, words_blanks_append hblanks, words_word_append hne h hend]

/-- a text of blanks has no words -/
theorem words_eq_nil_of_blank {s : List Char} (h : ∀ c ∈ s, isBlank c = true) : words s = [] := by
  have hall := words_blanks_append h []
  rw [List.append_nil] at hall
  exact hall

theorem wordsFrom_append_blanks {blanks : List Char} (h : ∀ c ∈ blanks, isBlank c = true) (before s : List Char) :
    wordsFrom before (s ++ blanks) = wordsFrom before s := by
  induction s generalizing before with
  | nil =>
    rcases blanks with _ | ⟨c, blanks⟩
    · rfl
    · obtain ⟨hc, hblanks⟩ := List.forall_mem_cons.1 h
      have hnone : wordsFrom [] blanks = [] := words_eq_nil_of_blank hblanks
      simp [wordsFrom, hc, hnone]
  | cons c s ih =>
    rw [List.cons_append, wordsFrom, wordsFrom]
    split_ifs <;> simp [ih]

/-- and neither do blanks behind it -/
theorem words_append_blanks {blanks : List Char} (h : ∀ c ∈ blanks, isBlank c = true) (s : List Char) :
    words (s ++ blanks) = words s := wordsFrom_append_blanks h [] s

/-- what is left of a text begins with a character that was not dropped -/
theorem of_mem_head?_dropWhile {p : Char → Bool} {s : List Char} : ∀ c ∈ (s.dropWhile p).head?, p c = false := by
  induction s with
  | nil =>
    intro c hc
    cases hc
  | cons d s ih =>
    intro c hc
    rw [List.dropWhile_cons] at hc
    split_ifs at hc with hd
    · exact ih c hc
    · cases hc
      simpa using hd

/-- a text of blanks only, or blanks, a word, and what follows it -/
theorem blank_or_exists_word (s : List Char) : (∀ c ∈ s, isBlank c = true) ∨
    ∃ before word rest, s = before ++ word ++ rest ∧ (∀ c ∈ before, isBlank c = true) ∧ word ≠ [] ∧
      (∀ c ∈ word, isBlank c = false) ∧ ∀ c ∈ rest.head?, isBlank c = true := by
  have hsplit : s.takeWhile isBlank ++ s.dropWhile isBlank = s := List.takeWhile_append_dropWhile
  have hbefore : ∀ c ∈ s.takeWhile isBlank, isBlank c = true := fun c hc => List.mem_takeWhile_imp hc
  have hfirst : ∀ c ∈ (s.dropWhile isBlank).head?, isBlank c = false := of_mem_head?_dropWhile
  rcases hs : s.dropWhile isBlank with _ | ⟨c, rest⟩
  · left
    rw [hs, List.append_nil] at hsplit
    rwa [hsplit] at hbefore
  · right
    rw [hs] at hsplit hfirst
    have hc : isBlank c = false := hfirst c rfl
    refine ⟨s.takeWhile isBlank, (c :: rest).takeWhile (!isBlank ·), (c :: rest).dropWhile (!isBlank ·), ?_, hbefore,
      ?_, ?_, ?_⟩
    · rw [List.append_assoc, List.takeWhile_append_dropWhile, hsplit]
    · simp [hc]
    · intro d hd
      simpa using List.mem_takeWhile_imp hd
    · intro d hd
      simpa using of_mem_head?_dropWhile d hd

theorem ne_nil_of_mem_words {s word : List Char} (h : word ∈ words s) : word ≠ [] := by
  have hfrom : ∀ before, word ∈ wordsFrom before s → word ≠ [] := by
    clear h
    intro before h
    induction s generalizing before with
    | nil =>
      rw [wordsFrom] at h
      split_ifs at h with hbefore
      · cases h
      · rw [List.mem_singleton.1 h]
        simpa using hbefore
    | cons c s ih =>
      rw [wordsFrom] at h
      split_ifs at h with hc hbefore
      · exact ih _ h
      · rcases List.mem_cons.1 h with rfl | h
        · simpa using hbefore
        · exact ih _ h
      · exact ih _ h
  exact hfrom [] h

theorem words_eq_nil_iff {s : List Char} : words s = [] ↔ ∀ c ∈ s, isBlank c = true := by
  constructor
  · intro hnone
    rcases blank_or_exists_word s with hblank | ⟨before, word, rest, rfl, hbefore, hne, hword, hrest⟩
    · exact hblank
    · rw [words_blanks_word_append hbefore hne hword hrest] at hnone
      cases hnone
  · exact words_eq_nil_of_blank

/-! ## A text that is split once -/

/-- the first word of a text and what stands behind the blanks after it, if anything does -/
def splitOnce (s : List Char) : List (List Char) :=
  let s := stripLeft s
  let word := s.takeWhile (!isBlank ·)
  let behind := stripLeft (s.dropWhile (!isBlank ·))
  if word = [] then [] else if behind = [] then [word] else [word, behind]

theorem splitOnce_word_append {word rest : List Char} (hne : word ≠ []) (h : ∀ c ∈ word, isBlank c = false)
    (hend : ∀ c ∈ rest.head?, isBlank c = true) :
    splitOnce (word ++ rest) = if stripLeft rest = [] then [word] else [word, stripLeft rest] := by
  have hinside : ∀ c ∈ word, (!isBlank c) = true := fun c hc => by simp [h c hc]
  have houtside : rest.takeWhile (!isBlank ·) = [] ∧ rest.dropWhile (!isBlank ·) = rest := by
    rcases rest with _ | ⟨c, rest⟩
    · exact ⟨rfl, rfl⟩
    · have hc : isBlank c = true := hend c rfl
      simp [hc]
  have hfront : stripLeft (word ++ rest) = word ++ rest := by
    rcases word with _ | ⟨c, word⟩
    · exact absurd rfl hne
    · have hc : isBlank c = false := h c List.mem_cons_self
      simp [stripLeft, hc]
  simp only [splitOnce, hfront, List.takeWhile_append_of_pos hinside, List.dropWhile_append_of_pos hinside, houtside,
    List.append_nil, if_neg hne]

/-- what stands behind blanks does not begin with one, so it has no words only if it is empty -/
theorem stripLeft_eq_nil_of_blank {s : List Char} (h : ∀ c ∈ stripLeft s, isBlank c = true) : stripLeft s = [] := by
  rcases hs : stripLeft s with _ | ⟨c, rest⟩
  · rfl
  · have hfirst : isBlank c = false := by
      have hdropped : ∀ c ∈ (stripLeft s).head?, isBlank c = false := of_mem_head?_dropWhile
      rw [hs] at hdropped
      exact hdropped c rfl
    rw [hs] at h
    rw [h c List.mem_cons_self] at hfirst
    cases hfirst

/-- a line without the blanks around it, from its first word on -/
theorem strip_word_append {before word rest : List Char} (hbefore : ∀ c ∈ before, isBlank c = true) (hne : word ≠ [])
    (h : ∀ c ∈ word, isBlank c = false) : strip (before ++ word ++ rest) = word ++ stripRight rest := by
  have hfront : stripLeft (before ++ word ++ rest) = word ++ rest := by
    rw [List.append_assoc, stripLeft_append hbefore]
    refine stripLeft_of_head? fun c hc => h c ?_
    rw [List.head?_append_of_ne_nil _ hne] at hc
    exact List.mem_of_mem_head? hc
  rw [strip, hfront]
  by_cases hrest : ∀ c ∈ rest, isBlank c = true
  · have hnothing : stripRight rest = [] := by
      rw [stripRight, List.dropWhile_eq_nil_iff.2 (by simpa using hrest), List.reverse_nil]
    have hword : stripRight word = word := stripRight_of_getLast? fun c hc => h c (List.mem_of_mem_getLast? hc)
    rw [stripRight_append hrest, hnothing, List.append_nil, hword]
  · have hkept : ¬ (rest.reverse.dropWhile isBlank).isEmpty := by
      rw [List.isEmpty_iff, List.dropWhile_eq_nil_iff]
      simpa using hrest
    rw [stripRight, List.reverse_append, List.dropWhile_append, if_neg hkept, List.reverse_append,
      List.reverse_reverse, stripRight]

/-- what is left of a text without the blanks behind it, and those blanks -/
theorem exists_blanks_behind (s : List Char) : ∃ blanks, s = stripRight s ++ blanks ∧ (∀ c ∈ blanks, isBlank c = true) := by
  refine ⟨(s.reverse.takeWhile isBlank).reverse, ?_, ?_⟩
  · rw [stripRight, ← List.reverse_append, List.takeWhile_append_dropWhile, List.reverse_reverse]
  · intro c hc
    exact List.mem_takeWhile_imp (List.mem_reverse.1 hc)

/-- a text is what is left of it without the blanks at its ends, and those blanks -/
theorem exists_strip (s : List Char) :
    ∃ after, (∀ c ∈ after, isBlank c = true) ∧ s = s.takeWhile isBlank ++ strip s ++ after := by
  obtain ⟨after, hafter, hblank⟩ := exists_blanks_behind (stripLeft s)
  refine ⟨after, hblank, ?_⟩
  rw [List.append_assoc, strip, ← hafter, stripLeft, List.takeWhile_append_dropWhile]

theorem words_stripRight (s : List Char) : words (stripRight s) = words s := by
  obtain ⟨blanks, hs, hblanks⟩ := exists_blanks_behind s
  conv_rhs => rw [hs, words_append_blanks hblanks]

theorem words_stripLeft (s : List Char) : words (stripLeft s) = words s := by
  have hs : s.takeWhile isBlank ++ stripLeft s = s := List.takeWhile_append_dropWhile
  conv_rhs => rw [← hs, words_blanks_append fun c hc => List.mem_takeWhile_imp hc]

/-- **The words of a line are those of its two parts**: it has no word, or only its first part, or what stands behind the
first word has a word of its own. -/
theorem splitOnce_strip_cases (line : List Char) :
    (splitOnce (strip line) = [] ∧ words line = []) ∨
      (∃ word, splitOnce (strip line) = [word] ∧ words line = [word]) ∨
      ∃ word behind next others, splitOnce (strip line) = [word, behind] ∧ words behind = next :: others ∧
        words line = word :: next :: others := by
  rcases blank_or_exists_word line with hblank | ⟨before, word, rest, rfl, hbefore, hne, hword, hrest⟩
  · left
    have hnothing : strip line = [] := by
      rw [strip, stripLeft, List.dropWhile_eq_nil_iff.2 hblank]
      rfl
    rw [hnothing]
    exact ⟨rfl, words_eq_nil_of_blank hblank⟩
  · right
    have hwords : words (before ++ word ++ rest) = word :: words (stripLeft (stripRight rest)) := by
      rw [words_blanks_word_append hbefore hne hword hrest, words_stripLeft, words_stripRight]
    obtain ⟨blanks, hblanks, -⟩ := exists_blanks_behind rest
    have hstart : ∀ c ∈ (stripRight rest).head?, isBlank c = true := by
      intro c hc
      apply hrest
      rw [hblanks, List.head?_append, Option.mem_def.1 hc]
      rfl
    rw [hwords, strip_word_append hbefore hne hword, splitOnce_word_append hne hword hstart]
    rcases hnext : words (stripLeft (stripRight rest)) with _ | ⟨next, others⟩
    · left
      have hnothing : stripLeft (stripRight rest) = [] := by
        rw [words_eq_nil_iff] at hnext
        exact stripLeft_eq_nil_of_blank hnext
      exact ⟨word, if_pos hnothing, rfl⟩
    · right
      have hbehind : stripLeft (stripRight rest) ≠ [] := by
        intro hnothing
        rw [hnothing] at hnext
        cases hnext
      exact ⟨word, _, next, others, if_neg hbehind, hnext, rfl⟩

end DebugFind.Text
