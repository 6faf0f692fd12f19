/-
Texts behind a header line. A line in front of a text adds one line to its lines (`lines_behind`), and a piece of text
occurs behind the header exactly if it occurs in the text, unless it could stand in the header itself
(`occurs_behind`). Whole lines in front of a text are lines in front of its lines (`lines_append`); what stands behind a
text leaves its lines as they are, if it does not go on with the last of them (`lines_prefix_append`).

Blanks around a text do not count (`strip_around`). Words that have nothing in them that a shell reads otherwise are the
words of their line (`split_intercalate`).
-/
import Mathlib.Data.List.TakeWhile
import Mathlib.Tactic
import DebugFind.Text.Blank
import DebugFind.Text.Lines
import DebugFind.Text.Search
import DebugFind.Text.ShellWords

namespace DebugFind.Text

/-! ## Headers -/

/-- the last line, unless nothing stands on it -/
theorem linesFrom_nil (line : List Char) : linesFrom line [] = if line.isEmpty then [] else [line.reverse] := rfl

/-- a carriage return and the line feed behind it are one line end -/
theorem linesFrom_pair (line rest : List Char) :
    linesFrom line ('\r' :: '\n' :: rest) = line.reverse :: linesFrom [] rest := rfl

theorem linesFrom_newline (line rest : List Char) :
    linesFrom line ('\n' :: rest) = line.reverse :: linesFrom [] rest := rfl

theorem linesFrom_other {c : Char} {rest : List Char} (h : ∀ more, c = '\r' → rest = '\n' :: more → False)
    (line : List Char) :
    linesFrom line (c :: rest) =
      if isLineBreak c then line.reverse :: linesFrom [] rest else linesFrom (c :: line) rest := by
  conv_lhs => unfold linesFrom
  split
  · rename_i heq
    cases heq
  · rename_i heq
    cases heq
    exact absurd rfl (h _ rfl)
  · rename_i heq
    cases heq
    rfl

theorem linesFrom_cons {c : Char} (h : isLineBreak c = false) (line rest : List Char) :
    linesFrom line (c :: rest) = linesFrom (c :: line) rest := by
  have hother (more : List Char) (hc : c = '\r') : rest = '\n' :: more → False := by
    rw [hc] at h
    cases h
  rw [linesFrom_other hother, if_neg (Bool.eq_false_iff.1 h)]

theorem linesFrom_append_newline {header : List Char} (h : ∀ c ∈ header, isLineBreak c = false)
    (line rest : List Char) :
    linesFrom line (header ++ '\n' :: rest) = (line.reverse ++ header) :: linesFrom [] rest := by
  induction header generalizing line with
  | nil => rw [List.nil_append, List.append_nil, linesFrom_newline]
  | cons c header ih =>
    obtain ⟨hc, hheader⟩ := List.forall_mem_cons.1 h
    rw [List.cons_append, linesFrom_cons hc, ih hheader]
    simp

/-- a header is the first line of what stands behind it -/
theorem lines_behind {header : List Char} (h : ∀ c ∈ header, isLineBreak c = false) (text : List Char) :
    lines (header ++ '\n' :: text) = header :: lines text :=
  linesFrom_append_newline h [] text

theorem isPrefixOf_behind {needle header : List Char} (hline : '\n' ∉ needle) (hforeign : ∃ c ∈ needle, c ∉ header)
    (text : List Char) : needle.isPrefixOf (header ++ '\n' :: text) = false := by
  by_contra hbegins
  rw [Bool.not_eq_false, List.isPrefixOf_iff_prefix] at hbegins
  obtain ⟨c, hc, hheader⟩ := hforeign
  rcases List.prefix_or_prefix_of_prefix hbegins (List.prefix_append header _) with hshort | ⟨rest, rfl⟩
  · exact hheader (hshort.subset hc)
  · rw [List.prefix_append_right_inj] at hbegins
    cases rest with
    | nil =>
      rw [List.append_nil] at hc
      exact hheader hc
    | cons d rest =>
      obtain ⟨rfl, -⟩ := List.cons_prefix_cons.1 hbegins
      exact hline (by simp)

/-- a piece of text that cannot stand in a header occurs behind it exactly if it occurs in the text -/
theorem occurs_behind {needle header : List Char} (hline : '\n' ∉ needle) (hforeign : ∃ c ∈ needle, c ∉ header)
    (text : List Char) : occurs needle (header ++ '\n' :: text) = occurs needle text := by
  induction header with
  | nil =>
    have hbegins := isPrefixOf_behind hline hforeign text
    rw [List.nil_append] at hbegins ⊢
    rw [occurs, hbegins, Bool.false_or]
  | cons c header ih =>
    have hbegins := isPrefixOf_behind hline hforeign text
    obtain ⟨d, hd, hheader⟩ := hforeign
    rw [List.cons_append] at hbegins ⊢
    rw [occurs, hbegins, Bool.false_or]
    exact ih ⟨d, hd, fun h => hheader (List.mem_cons_of_mem c h)⟩

/-- a piece of text that cannot stand in a line does not occur in it -/
theorem occurs_eq_false {needle line : List Char} (hforeign : ∃ c ∈ needle, c ∉ line) : occurs needle line = false := by
  induction line with
  | nil =>
    obtain ⟨c, hc, -⟩ := hforeign
    cases needle with
    | nil => cases hc
    | cons => rfl
  | cons d line ih =>
    obtain ⟨c, hc, hline⟩ := hforeign
    have hbegins : needle.isPrefixOf (d :: line) = false := by
      by_contra hbegins
      rw [Bool.not_eq_false, List.isPrefixOf_iff_prefix] at hbegins
      exact hline (hbegins.subset hc)
    rw [occurs, hbegins, Bool.false_or]
    exact ih ⟨c, hc, fun h => hline (List.mem_cons_of_mem d h)⟩

/-! ## Pieces of a text -/

theorem occurs_iff {needle text : List Char} : occurs needle text = true ↔ needle <:+: text := by
  induction text with
  | nil => cases needle <;> simp [occurs]
  | cons c text ih => rw [occurs, Bool.or_eq_true, ih, List.isPrefixOf_iff_prefix, List.infix_cons_iff]

/-- a piece of text without a mark stands on one side of the mark -/
theorem infix_append_mark_iff {mark : Char} {needle xs ys : List Char} (h : mark ∉ needle) :
    needle <:+: xs ++ mark :: ys ↔ needle <:+: xs ∨ needle <:+: ys := by
  have hempty {l : List Char} (hl : mark ∉ l) (hbegins : l <+: mark :: ys) : l = [] := by
    rcases l with _ | ⟨c, l⟩
    · rfl
    · obtain ⟨rfl, -⟩ := List.cons_prefix_cons.1 hbegins
      exact absurd List.mem_cons_self hl
  rw [List.infix_append_iff, List.infix_cons_iff]
  constructor
  · rintro (hxs | (hbegins | hys) | ⟨l₁, l₂, rfl, hl₁, hl₂⟩)
    · exact Or.inl hxs
    · rw [hempty h hbegins]
      exact Or.inl List.nil_infix
    · exact Or.inr hys
    · rw [hempty (fun hmem => h (List.mem_append_right _ hmem)) hl₂, List.append_nil]
      exact Or.inl hl₁.isInfix
  · rintro (hxs | hys)
    · exact Or.inl hxs
    · exact Or.inr (Or.inl (Or.inr hys))

theorem eq_of_append_mark {mark : Char} {xs ys rest rest' : List Char} (hx : mark ∉ xs) (hy : mark ∉ ys)
    (h : xs ++ mark :: rest = ys ++ mark :: rest') : xs = ys := by
  induction xs generalizing ys with
  | nil =>
    rcases ys with _ | ⟨y, ys⟩
    · rfl
    · exact absurd ((List.cons.inj h).1 ▸ List.mem_cons_self) hy
  | cons x xs ih =>
    rcases ys with _ | ⟨y, ys⟩
    · exact absurd ((List.cons.inj h).1 ▸ List.mem_cons_self) hx
    · obtain ⟨rfl, hrest⟩ := List.cons.inj h
      rw [ih (fun hmem => hx (List.mem_cons_of_mem x hmem)) (fun hmem => hy (List.mem_cons_of_mem x hmem)) hrest]

/-- texts that end with their first mark are prefixes of no other -/
theorem append_mark_prefix_iff {mark : Char} {xs ys rest : List Char} (hx : mark ∉ xs) (hy : mark ∉ ys) :
    xs ++ [mark] <+: ys ++ mark :: rest ↔ xs = ys := by
  constructor
  · rintro ⟨more, h⟩
    rw [List.append_assoc, List.singleton_append] at h
    exact eq_of_append_mark hx hy h
  · rintro rfl
    exact ⟨rest, by rw [List.append_assoc, List.singleton_append]⟩

/-! ## Lines put together -/

/-- a line ends at none of the visible ASCII characters -/
theorem isLineBreak_of_visible {c : Char} (h : '!' ≤ c ∧ c ≤ '~') : isLineBreak c = false := by
  by_contra hc
  simp only [isLineBreak, Bool.not_eq_false, Bool.or_eq_true, beq_iff_eq] at hc
  rcases hc with ((((((((rfl | rfl) | rfl) | rfl) | rfl) | rfl) | rfl) | rfl) | rfl) | rfl <;> revert h <;> decide

theorem isLineBreak_of_isDigit {c : Char} (h : c.isDigit) : isLineBreak c = false := by
  simp only [Char.isDigit, Bool.and_eq_true, decide_eq_true_eq] at h
  have hlow : '0' ≤ c := h.1
  have hhigh : c ≤ '9' := h.2
  exact isLineBreak_of_visible ⟨Char.le_trans (by decide) hlow, Char.le_trans hhigh (by decide)⟩

/-- no character of a line ends it -/
def Unbroken (line : List Char) : Prop := ∀ c ∈ line, isLineBreak c = false

instance (line : List Char) : Decidable (Unbroken line) :=
  decidable_of_iff (line.all (!isLineBreak ·)) (by simp [Unbroken])

theorem Unbroken.append {a b : List Char} (ha : Unbroken a) (hb : Unbroken b) : Unbroken (a ++ b) :=
  List.forall_mem_append.2 ⟨ha, hb⟩

/-- a text that holds whole lines: it is empty or ends with a line feed -/
def IsWhole (text : List Char) : Prop := text = [] ∨ ∃ start, text = start ++ ['\n']

theorem linesFrom_break {c : Char} {rest : List Char} (hbreak : isLineBreak c = true)
    (hpair : ∀ others, c = '\r' → rest = '\n' :: others → False) (line : List Char) :
    linesFrom line (c :: rest) = line.reverse :: linesFrom [] rest := by
  rw [linesFrom_other hpair, if_pos hbreak]

theorem linesFrom_append (line start rest : List Char) :
    linesFrom line (start ++ '\n' :: rest) = linesFrom line (start ++ ['\n']) ++ linesFrom [] rest := by
  fun_induction linesFrom line start with
  | case1 line | case2 line => simp [linesFrom_newline, linesFrom_nil]
  | case3 line start ih => simpa [linesFrom_pair] using ih
  | case4 line c start hpair hbreak ih =>
    by_cases hc : c = '\r' ∧ start = []
    · -- a carriage return and the line feed behind it are one line end
      obtain ⟨rfl, rfl⟩ := hc
      simp [linesFrom_pair, linesFrom_nil]
    · have hnext (others : List Char) : ∀ more, c = '\r' → start ++ '\n' :: others = '\n' :: more → False := by
        rintro more rfl h
        cases start with
        | nil => exact hc ⟨rfl, rfl⟩
        | cons d start => exact hpair start rfl (by rw [(List.cons.inj h).1])
      rw [List.cons_append, List.cons_append, linesFrom_break hbreak (hnext rest),
        linesFrom_break hbreak (hnext []), ih]
      rfl
  | case5 line c start hpair hbreak ih =>
    have hc : isLineBreak c = false := Bool.not_eq_true _ ▸ hbreak
    rw [List.cons_append, List.cons_append, linesFrom_cons hc, linesFrom_cons hc, ih]

/-- whole lines stand in front of the lines of what follows them -/
theorem lines_append {text : List Char} (h : IsWhole text) (rest : List Char) :
    lines (text ++ rest) = lines text ++ lines rest := by
  rcases h with rfl | ⟨start, rfl⟩
  · simp [lines, linesFrom_nil]
  · rw [List.append_assoc, List.singleton_append]
    exact linesFrom_append [] start rest

/-- a text that stands behind another one there begins a line of its own, or ends the one that it stands on -/
def AtLineEnd (start rest : List Char) : Prop :=
  (∃ c ∈ start.getLast?, isLineBreak c) ∨ ∀ c ∈ rest.head?, isLineBreak c

theorem AtLineEnd.tail {c : Char} {start rest : List Char} (h : AtLineEnd (c :: start) rest) :
    start = [] ∨ AtLineEnd start rest := by
  rcases start with _ | ⟨d, start⟩
  · exact Or.inl rfl
  · exact Or.inr (by simpa [AtLineEnd] using h)

theorem linesFrom_of_isLineBreak {c : Char} (h : isLineBreak c = true) (line rest : List Char) :
    ∃ others, linesFrom line (c :: rest) = line.reverse :: others := by
  by_cases hpair : ∃ more, c = '\r' ∧ rest = '\n' :: more
  · obtain ⟨more, rfl, rfl⟩ := hpair
    exact ⟨_, linesFrom_pair line more⟩
  · exact ⟨_, linesFrom_break h (fun more hc hrest => hpair ⟨more, hc, hrest⟩) line⟩

/-- the same within a line, of which something may have been read before -/
theorem linesFrom_prefix_append {line start rest : List Char} (h : start = [] ∧ line = [] ∨ AtLineEnd start rest) :
    linesFrom line start <+: linesFrom line (start ++ rest) := by
  fun_induction linesFrom line start with
  | case1 line hline => exact List.nil_prefix
  | case2 line hline =>
    have hbreak : ∀ c ∈ rest.head?, isLineBreak c := by simpa [AtLineEnd, List.isEmpty_iff.not.1 hline] using h
    rcases rest with _ | ⟨c, rest⟩
    · rw [List.append_nil, linesFrom_nil, if_neg hline]
    · obtain ⟨others, hothers⟩ := linesFrom_of_isLineBreak (hbreak c rfl) line rest
      rw [List.nil_append, hothers]
      exact ⟨others, rfl⟩
  | case3 line start ih =>
    have hend : AtLineEnd ('\r' :: '\n' :: start) rest := h.resolve_left (by simp)
    have hrest : start = [] ∨ AtLineEnd start rest := (hend.tail.resolve_left (List.cons_ne_nil _ _)).tail
    rw [List.cons_append, List.cons_append, linesFrom_pair]
    exact List.cons_prefix_cons.2 ⟨rfl, ih (hrest.imp_left fun hnil => ⟨hnil, rfl⟩)⟩
  | case4 line c start hpair hbreak ih =>
    rw [List.cons_append]
    rcases start with _ | ⟨d, start⟩
    · -- what follows may be the line feed of the same line end
      obtain ⟨others, hothers⟩ := linesFrom_of_isLineBreak hbreak line rest
      rw [List.nil_append, hothers]
      exact ⟨others, rfl⟩
    · have hend : AtLineEnd (d :: start) rest := (h.resolve_left (by simp)).tail.resolve_left (List.cons_ne_nil _ _)
      rw [linesFrom_break hbreak fun more hc hmore => hpair start hc (by rw [(List.cons.inj hmore).1])]
      exact List.cons_prefix_cons.2 ⟨rfl, ih (Or.inr hend)⟩
  | case5 line c start hpair hbreak ih =>
    have hc : isLineBreak c = false := Bool.not_eq_true _ ▸ hbreak
    have hend : AtLineEnd (c :: start) rest := h.resolve_left (by simp)
    have hrest : AtLineEnd start rest := by
      rcases hend.tail with rfl | hrest
      · exact Or.inr (by simpa [AtLineEnd, hc] using hend)
      · exact hrest
    rw [List.cons_append, linesFrom_cons hc]
    exact ih (Or.inr hrest)

/-- what follows at the end of a line leaves the lines before it as they are -/
theorem lines_prefix_append {start rest : List Char} (h : AtLineEnd start rest) : lines start <+: lines (start ++ rest) :=
  linesFrom_prefix_append (Or.inr h)

theorem unbroken_of_mem_linesFrom {soFar text line : List Char} (hsoFar : Unbroken soFar)
    (h : line ∈ linesFrom soFar text) : Unbroken line := by
  have hreverse {soFar : List Char} (hsoFar : Unbroken soFar) : Unbroken soFar.reverse :=
    fun c hc => hsoFar c (List.mem_reverse.1 hc)
  fun_induction linesFrom soFar text with
  | case1 soFar => cases h
  | case2 soFar =>
    rw [List.mem_singleton.1 h]
    exact hreverse hsoFar
  | case3 soFar text ih =>
    rcases List.mem_cons.1 h with rfl | h
    · exact hreverse hsoFar
    · exact ih (fun c hc => absurd hc List.not_mem_nil) h
  | case4 soFar c text _ _ ih =>
    rcases List.mem_cons.1 h with rfl | h
    · exact hreverse hsoFar
    · exact ih (fun c hc => absurd hc List.not_mem_nil) h
  | case5 soFar _ text _ hbreak ih =>
    exact ih (List.forall_mem_cons.2 ⟨Bool.not_eq_true _ ▸ hbreak, hsoFar⟩) h

/-- no line goes on behind what ends it -/
theorem unbroken_of_mem_lines {text line : List Char} (h : line ∈ lines text) : Unbroken line :=
  unbroken_of_mem_linesFrom (fun _ hc => absurd hc List.not_mem_nil) h

theorem linesFrom_unbroken {line : List Char} (h : Unbroken line) (front : List Char) (hne : front ≠ [] ∨ line ≠ []) :
    linesFrom front line = [front.reverse ++ line] := by
  induction line generalizing front with
  | nil => simpa [linesFrom_nil] using hne
  | cons c line ih =>
    obtain ⟨hc, hline⟩ := List.forall_mem_cons.1 h
    rw [linesFrom_cons hc, ih hline (c :: front) (Or.inl (List.cons_ne_nil c front))]
    simp

/-- lines that are joined are the lines of the text, whether or not the last of them is ended -/
theorem lines_intercalate {ls : List (List Char)} (h : ∀ line ∈ ls, Unbroken line ∧ line ≠ []) (hne : ls ≠ [])
    {ending : List Char} (hending : ending = [] ∨ ending = ['\n']) :
    lines (['\n'].intercalate ls ++ ending) = ls := by
  induction ls with
  | nil => exact absurd rfl hne
  | cons line rest ih =>
    obtain ⟨⟨hline, hfull⟩, hrest⟩ := List.forall_mem_cons.1 h
    cases rest with
    | nil =>
      rcases hending with rfl | rfl
      · simpa [lines] using linesFrom_unbroken hline [] (Or.inr hfull)
      · simpa [lines, linesFrom_nil] using lines_behind hline []
    | cons next rest =>
      rw [List.intercalate_cons_cons, List.append_assoc, List.append_assoc, List.singleton_append, lines_behind hline,
        ih hrest (List.cons_ne_nil next rest)]

/-! ## Blanks around a text -/

/-- no visible ASCII character is blank -/
theorem isBlank_of_visible {c : Char} (h : '!' ≤ c ∧ c ≤ '~') : isBlank c = false := by
  have hle (a b : Char) : a ≤ b ↔ a.toNat ≤ b.toNat := UInt32.le_iff_toNat_le
  have hlow : 0x21 ≤ c.toNat := (hle _ _).1 h.1
  have hhigh : c.toNat ≤ 0x7e := (hle _ _).1 h.2
  -- the visible characters stand between the second range and the third
  rw [isBlank, Ranges.holds, blanks, Ranges.within, if_neg (by omega), if_neg (by omega), Ranges.within,
    if_neg (by omega), if_neg (by omega), Ranges.within, if_pos (by omega)]

/-- whatever ends a line is blank -/
theorem isBlank_of_isLineBreak {c : Char} (h : isLineBreak c = true) : isBlank c = true := by
  simp only [isLineBreak, Bool.or_eq_true, beq_iff_eq] at h
  rcases h with ((((((((rfl | rfl) | rfl) | rfl) | rfl) | rfl) | rfl) | rfl) | rfl) | rfl <;> decide

/-- so a word stands on one line -/
theorem unbroken_of_forall_not_blank {word : List Char} (h : ∀ c ∈ word, isBlank c = false) : Unbroken word := by
  intro c hc
  by_contra hbreak
  rw [Bool.not_eq_false] at hbreak
  have hblank := isBlank_of_isLineBreak hbreak
  rw [h c hc] at hblank
  cases hblank

/-- lines that are each ended by a line feed are the lines of the text -/
theorem lines_flatMap {ls : List (List Char)} (h : ∀ line ∈ ls, Unbroken line) :
    lines (ls.flatMap (· ++ ['\n'])) = ls := by
  induction ls with
  | nil => rfl
  | cons line rest ih =>
    obtain ⟨hline, hrest⟩ := List.forall_mem_cons.1 h
    rw [List.flatMap_cons, List.append_assoc, List.singleton_append, lines_behind hline, ih hrest]

theorem stripLeft_append {blanks : List Char} (h : ∀ c ∈ blanks, isBlank c) (s : List Char) :
    stripLeft (blanks ++ s) = stripLeft s := List.dropWhile_append_of_pos h

theorem stripRight_append {blanks : List Char} (h : ∀ c ∈ blanks, isBlank c) (s : List Char) :
    stripRight (s ++ blanks) = stripRight s := by
  unfold stripRight
  rw [List.reverse_append, List.dropWhile_append_of_pos (by simpa using h)]

theorem strip_around {before after : List Char} (hbefore : ∀ c ∈ before, isBlank c) (hafter : ∀ c ∈ after, isBlank c)
    (s : List Char) : strip (before ++ s ++ after) = strip s := by
  unfold strip
  rw [List.append_assoc, stripLeft_append hbefore]
  by_cases hs : ∀ c ∈ s, isBlank c
  · have hall : ∀ c ∈ s ++ after, isBlank c := List.forall_mem_append.2 ⟨hs, hafter⟩
    rw [stripLeft, stripLeft, List.dropWhile_eq_nil_iff.2 hall, List.dropWhile_eq_nil_iff.2 hs]
  · have hkept : stripLeft (s ++ after) = stripLeft s ++ after := by
      have hne : ¬ (s.dropWhile isBlank).isEmpty := by
        rw [List.isEmpty_iff, List.dropWhile_eq_nil_iff]
        exact hs
      unfold stripLeft
      rw [List.dropWhile_append, if_neg hne]
    rw [hkept, stripRight_append hafter]

theorem stripLeft_of_head? {s : List Char} (h : ∀ c ∈ s.head?, isBlank c = false) : stripLeft s = s := by
  rcases s with _ | ⟨c, s⟩
  · rfl
  · simp [stripLeft, h c rfl]

theorem stripRight_of_getLast? {s : List Char} (h : ∀ c ∈ s.getLast?, isBlank c = false) : stripRight s = s := by
  have hreverse : stripLeft s.reverse = s.reverse := stripLeft_of_head? (by simpa using h)
  rw [stripRight]
  exact List.reverse_eq_iff.2 hreverse

/-- a text without a blank at either end is kept -/
theorem strip_eq_self {s : List Char} (hfirst : ∀ c ∈ s.head?, isBlank c = false)
    (hlast : ∀ c ∈ s.getLast?, isBlank c = false) : strip s = s := by
  rw [strip, stripLeft_of_head? hfirst, stripRight_of_getLast? hlast]

theorem strip_of_forall_not_blank {s : List Char} (h : ∀ c ∈ s, isBlank c = false) : strip s = s :=
  strip_eq_self (fun c hc => h c (List.mem_of_mem_head? hc)) (fun c hc => h c (List.mem_of_mem_getLast? hc))

/-! ## Words of a command line -/

namespace ShellWords

/-- a character that is nothing but itself to a shell -/
def isPlain (c : Char) : Bool := !isGap c && !isQuote c && c != '\\'

theorem splitFrom_plain {word : List Char} (h : ∀ c ∈ word, isPlain c) (soFar rest : List Char) :
    splitFrom .word soFar (word ++ rest) = splitFrom .word (word.reverse ++ soFar) rest := by
  induction word generalizing soFar with
  | nil => rfl
  | cons c word ih =>
    obtain ⟨hc, hword⟩ := List.forall_mem_cons.1 h
    simp only [isPlain, Bool.and_eq_true, Bool.not_eq_true', bne_iff_ne, ne_eq] at hc
    rw [List.cons_append, splitFrom, if_neg (by simp [hc]), if_neg (by simp [hc]), if_neg (by simp [hc]), ih hword]
    simp

/-- a word that is not empty, and whose characters are plain -/
def IsPlainWord (word : List Char) : Prop := word ≠ [] ∧ ∀ c ∈ word, isPlain c

instance (word : List Char) : Decidable (IsPlainWord word) :=
  decidable_of_iff (word ≠ [] ∧ word.all isPlain) (and_congr_right fun _ => List.all_eq_true)

theorem splitFrom_word {word : List Char} (h : IsPlainWord word) (rest : List Char) :
    splitFrom .gap [] (word ++ rest) = splitFrom .word word.reverse rest := by
  obtain ⟨hne, hplain⟩ := h
  cases word with
  | nil => exact absurd rfl hne
  | cons c word =>
    obtain ⟨hc, hword⟩ := List.forall_mem_cons.1 hplain
    simp only [isPlain, Bool.and_eq_true, Bool.not_eq_true', bne_iff_ne, ne_eq] at hc
    rw [List.cons_append, splitFrom, if_neg (by simp [hc]), if_neg (by simp [hc]), if_neg (by simp [hc]),
      splitFrom_plain hword]
    simp

/-- **Plain words are the words of their line.** -/
theorem splitFrom_intercalate {words : List (List Char)} (h : ∀ word ∈ words, IsPlainWord word) :
    splitFrom .gap [] ([' '].intercalate words) = .ok words := by
  induction words with
  | nil => rfl
  | cons word rest ih =>
    obtain ⟨hword, hrest⟩ := List.forall_mem_cons.1 h
    cases rest with
    | nil =>
      have hline := splitFrom_word hword []
      rw [List.append_nil] at hline
      rw [List.intercalate_singleton, hline, splitFrom, List.reverse_reverse]
    | cons next rest =>
      rw [List.intercalate_cons_cons, List.append_assoc, splitFrom_word hword, List.singleton_append, splitFrom,
        if_pos (by decide), ih hrest, List.reverse_reverse]
      rfl

theorem split_intercalate {words : List String} (h : ∀ word ∈ words, IsPlainWord word.toList) :
    split (" ".intercalate words) = .ok words := by
  have hwords : ∀ word ∈ words.map String.toList, IsPlainWord word := List.forall_mem_map.2 h
  have hline : splitFrom .gap [] (" ".intercalate words).toList = .ok (words.map String.toList) := by
    rw [String.toList_intercalate]
    exact splitFrom_intercalate hwords
  rw [split, hline]
  simp [Functor.map, Except.map, Function.comp_def]

end ShellWords

end DebugFind.Text
