/-
Patterns that capture hexadecimal digits between two texts are read from what spells them. A text is spelled character
by character, each as it is or behind a backslash; escaping spells every text.

- `Spells`, `spells_escape`: what spells a text.
- `next_eq`, `accept_eq_true` and the lemmas beside them: the steps of the reader, each as an equation at the reader it
  starts with. `bind_of_ok` puts them together.
- `readSequence_spells`: what spells a text is read as the text, by induction on the spelling.
- `compile_hexBetween`: so the whole pattern text is read as the pattern.
-/
import Mathlib.Tactic
import DebugFind.Extraction.Pattern

namespace DebugFind.Pattern

open DebugFind.Text

/-! ## Spelling -/

/-- the characters that mean something else than themselves outside of a set -/
def reserved : List Char := ['\\', '|', ')', '[', '.', '^', '$', '*', '+', '?', '\x7b', '(']

/-- a pattern text spells a text -/
inductive Spells : List Char → List Char → Prop
  | nil : Spells [] []
  | plain {source text : List Char} (c : Char) (h : c ∉ reserved) (rest : Spells source text) :
    Spells (c :: source) (c :: text)
  | escaped {source text : List Char} (c : Char) (h : isSpecial c) (rest : Spells source text) :
    Spells ('\\' :: c :: source) (c :: text)

theorem Spells.append {source source' text text' : List Char} (h : Spells source text) (h' : Spells source' text') :
    Spells (source ++ source') (text ++ text') := by
  induction h with
  | nil => exact h'
  | plain c hc _ ih => exact .plain c hc ih
  | escaped c hc _ ih => exact .escaped c hc ih

/-- a text without reserved characters spells itself -/
theorem spells_self {text : List Char} (h : text.all (· ∉ reserved)) : Spells text text := by
  induction text with
  | nil => exact .nil
  | cons c text ih =>
    rw [List.all_cons, Bool.and_eq_true, decide_eq_true_eq] at h
    exact .plain c h.1 (ih h.2)

/-- **Escaping spells every text.** -/
theorem spells_escape (text : List Char) : Spells (text.flatMap escapeChar) text := by
  have hreserved : ∀ c ∈ reserved, isSpecial c := List.all_eq_true.1 (by decide)
  induction text with
  | nil => exact .nil
  | cons c text ih =>
    rw [List.flatMap_cons, escapeChar]
    split_ifs with hc
    · exact .escaped c hc ih
    · exact .plain c (fun hmem => hc (hreserved c hmem)) ih

theorem Spells.length_le {source text : List Char} (h : Spells source text) : text.length ≤ source.length := by
  induction h with
  | nil => exact le_rfl
  | plain c hc _ ih => simpa using ih
  | escaped c hc _ ih =>
    simp only [List.length_cons]
    omega

/-- what spells a text leaves no lone backslash, unless what stands behind it does -/
theorem Spells.not_lone {source text tail : List Char} (h : Spells source text) (htail : tail ≠ ['\\']) :
    source ++ tail ≠ ['\\'] := by
  cases h with
  | nil => exact htail
  | plain c hc =>
    intro hlone
    injection hlone with hbackslash
    rw [hbackslash] at hc
    exact hc (by decide)
  | escaped c hc =>
    intro hlone
    injection hlone with _ hrest
    cases hrest

/-- what spells a text opens no group -/
theorem Spells.openings_append {source text : List Char} (h : Spells source text) (tail : List Char) :
    openings (source ++ tail) = openings tail := by
  induction h with
  | nil => rfl
  | @plain source _ c hc _ ih =>
    have hescape : ∀ d rest, c = '\\' → source ++ tail = d :: rest → False := by
      rintro _ _ rfl _
      exact hc (by decide)
    have hopen : c ≠ '(' := by
      rintro rfl
      exact hc (by decide)
    rw [List.cons_append, openings.eq_3 _ _ hescape hopen, ih]
  | escaped c _ _ ih => exact ih

/-! ## Steps of the reader -/

section Steps

variable {α β : Type} {r r' : Reader} {c d : Char} {rest tail : List Char}

theorem bind_of_ok {act : Reading α} {f : α → Reading β} {a : α} (h : act r = .ok (a, r')) :
    (act >>= f) r = f a r' := by
  show Except.bind (act r) _ = _
  rw [h]
  rfl

theorem get_eq (r : Reader) : (get : Reading Reader) r = .ok (r, r) := rfl

theorem peek_eq (r : Reader) : peek r = .ok (tokenOf r.rest, r) := rfl

/-- the reader after so many more characters, with what is then left -/
def Reader.advanced (r : Reader) (n : Nat) (rest : List Char) : Reader := { r with offset := r.offset + n, rest }

theorem tokenOf_cons (h : c ≠ '\\') (rest : List Char) : tokenOf (c :: rest) = [c] := by
  cases rest with
  | nil => simp [tokenOf]
  | cons d rest => simp [tokenOf, h]

theorem lookAhead_eq (h : r.rest ≠ ['\\']) : lookAhead r = .ok ((), r) := by
  have hlone : (r.rest == ['\\']) = false := beq_eq_false_iff_ne.2 h
  rw [lookAhead, bind_of_ok (get_eq r), hlone]
  rfl

theorem next_eq {token : List Char} (htoken : tokenOf r.rest = token) (hrest : r.rest.drop token.length = rest)
    (hlone : rest ≠ ['\\']) : next r = .ok (token, r.advanced token.length rest) := by
  have hset : (set (r.advanced token.length rest) : Reading PUnit) r = .ok (⟨⟩, r.advanced token.length rest) := rfl
  have hlook : lookAhead (r.advanced token.length rest) = .ok ((), r.advanced token.length rest) := lookAhead_eq hlone
  subst htoken hrest
  rw [next, bind_of_ok (get_eq r)]
  refine (bind_of_ok hset).trans ?_
  rw [bind_of_ok hlook]
  rfl

/-- a character other than the backslash is taken as it is -/
theorem next_char (hrest : r.rest = c :: rest) (hc : c ≠ '\\') (hlone : rest ≠ ['\\']) :
    next r = .ok ([c], r.advanced 1 rest) := by
  have htoken : tokenOf r.rest = [c] := by rw [hrest, tokenOf_cons hc]
  exact next_eq htoken (by rw [hrest]; rfl) hlone

theorem accept_eq_true (hrest : r.rest = c :: rest) (hc : c ≠ '\\') (hlone : rest ≠ ['\\']) :
    accept c r = .ok (true, r.advanced 1 rest) := by
  have htoken : (tokenOf r.rest == [c]) = true := by rw [hrest, tokenOf_cons hc, beq_self_eq_true]
  rw [accept, bind_of_ok (peek_eq r), htoken, if_pos rfl, bind_of_ok (next_char hrest hc hlone)]
  rfl

theorem accept_eq_false (hrest : r.rest = d :: rest) (hd : d ≠ '\\') (hne : d ≠ c) : accept c r = .ok (false, r) := by
  have htoken : (tokenOf r.rest == [c]) = false := by
    rw [hrest, tokenOf_cons hd]
    simp [hne]
  rw [accept, bind_of_ok (peek_eq r), htoken, if_neg Bool.false_ne_true]
  rfl

/-- outside of groups the switches are those of the whole pattern -/
theorem flagsIn_none (h : r.flags = {}) : flagsIn none r = .ok ({}, r) := by
  show Except.ok (r.flags, r) = _
  rw [h]

/-! ## Texts -/

theorem readEscape_special (h : isSpecial c) (r : Reader) : readEscape {} c r = .ok (single {} (.one c.toNat), r) := by
  have hmem : c ∈ "()[]\x7b\x7d?*+-|^$\\.&~# \t\n\r\x0b\x0c".toList := List.contains_iff_mem.1 h
  fin_cases hmem <;> rfl

theorem readSequence_plain (hc : c ∉ reserved) (hflags : r.flags = {}) (hrest : r.rest = c :: rest)
    (hlone : rest ≠ ['\\']) (early : Bool) (soFar : List Item) (fuel : Nat) :
    readSequence none early soFar (fuel + 1) r =
      readSequence none early (single {} (.one c.toNat) :: soFar) fuel (r.advanced 1 rest) := by
  simp only [reserved, List.mem_cons, not_or] at hc
  have hnext : next r = .ok ([c], r.advanced 1 rest) := next_char hrest hc.1 hlone
  have hflagsIn : flagsIn none (r.advanced 1 rest) = .ok ({}, r.advanced 1 rest) := flagsIn_none hflags
  have hgoes : (([c] : List Char).isEmpty || [c] == ['|'] || [c] == [')']) = false := by simp [hc]
  rw [readSequence, bind_of_ok (peek_eq r), hrest, tokenOf_cons hc.1, hgoes, if_neg Bool.false_ne_true,
    bind_of_ok hnext, bind_of_ok hflagsIn]
  -- none of the special cases applies
  simp [hc]

theorem readSequence_escaped (hc : isSpecial c) (hflags : r.flags = {}) (hrest : r.rest = '\\' :: c :: rest)
    (hlone : rest ≠ ['\\']) (early : Bool) (soFar : List Item) (fuel : Nat) :
    readSequence none early soFar (fuel + 1) r =
      readSequence none early (single {} (.one c.toNat) :: soFar) fuel (r.advanced 2 rest) := by
  have htoken : tokenOf r.rest = ['\\', c] := by rw [hrest]; rfl
  have hnext : next r = .ok (['\\', c], r.advanced 2 rest) := next_eq htoken (by rw [hrest]; rfl) hlone
  have hflagsIn : flagsIn none (r.advanced 2 rest) = .ok ({}, r.advanced 2 rest) := flagsIn_none hflags
  have hgoes : ((['\\', c] : List Char).isEmpty || ['\\', c] == ['|'] || ['\\', c] == [')']) = false := by simp
  rw [readSequence, bind_of_ok (peek_eq r), htoken, hgoes, if_neg Bool.false_ne_true, bind_of_ok hnext,
    bind_of_ok hflagsIn]
  exact bind_of_ok (readEscape_special hc _)

/-- the items of the characters of a text, the last one first -/
def itemsOf (text : List Char) : List Item := (text.map fun c => single {} (.one c.toNat)).reverse

theorem itemsOf_cons (c : Char) (text : List Char) (soFar : List Item) :
    itemsOf text ++ single {} (.one c.toNat) :: soFar = itemsOf (c :: text) ++ soFar := by
  simp [itemsOf]

theorem nodes_itemsOf (text : List Char) : (itemsOf text).reverse.flatMap (·.nodes) = text.map Node.char := by
  rw [itemsOf, List.reverse_reverse, List.flatMap_map]
  exact List.flatMap_pure_eq_map Node.char text

theorem Reader.advanced_advanced (m n : Nat) (rest tail : List Char) :
    (r.advanced m rest).advanced n tail = r.advanced (m + n) tail := by
  simp only [Reader.advanced, Nat.add_assoc]

/-- **What spells a text is read as the text.** -/
theorem readSequence_spells {source text : List Char} (h : Spells source text) (htail : tail ≠ ['\\'])
    (hflags : r.flags = {}) (hrest : r.rest = source ++ tail) (early : Bool) (soFar : List Item) (fuel : Nat) :
    readSequence none early soFar (fuel + text.length) r =
      readSequence none early (itemsOf text ++ soFar) fuel (r.advanced source.length tail) := by
  induction h generalizing r soFar with
  | nil =>
    have hsame : r.advanced 0 tail = r := by
      rw [Reader.advanced, ← List.nil_append tail, ← hrest]
      rfl
    rw [List.length_nil, hsame]
    rfl
  | @plain source text c hc hsource ih =>
    have hfirst : r.rest = c :: (source ++ tail) := hrest
    rw [List.length_cons, ← Nat.add_assoc, readSequence_plain hc hflags hfirst (hsource.not_lone htail),
      ih (r := r.advanced 1 (source ++ tail)) hflags rfl, itemsOf_cons, Reader.advanced_advanced, Nat.add_comm 1]
    rfl
  | @escaped source text c hc hsource ih =>
    have hfirst : r.rest = '\\' :: c :: (source ++ tail) := hrest
    rw [List.length_cons, ← Nat.add_assoc, readSequence_escaped hc hflags hfirst (hsource.not_lone htail),
      ih (r := r.advanced 2 (source ++ tail)) hflags rfl, itemsOf_cons, Reader.advanced_advanced, Nat.add_comm 2]
    rfl

/-! ## Digits -/

theorem setToken_char (c : Char) (r : Reader) : setToken [c] r = .ok (.one c.toNat, r) := by
  simp only [setToken]
  rfl

/-- a range between two characters that mean themselves in a set -/
theorem setItems_range {lo hi : Char} (hrest : r.rest = lo :: '-' :: hi :: tail) (hlo : lo ≠ '\\' ∧ lo ≠ ']')
    (hhi : hi ≠ '\\' ∧ hi ≠ ']') (hle : ¬ hi.toNat < lo.toNat) (hlone : tail ≠ ['\\']) (start : Nat)
    (soFar : List SetItem) (fuel : Nat) :
    setItems start soFar (fuel + 1) r =
      setItems start (.range lo.toNat hi.toNat :: soFar) fuel (r.advanced 3 tail) := by
  have hthis : next r = .ok ([lo], r.advanced 1 ('-' :: hi :: tail)) := next_char hrest hlo.1 (by simp)
  have hminus : accept '-' (r.advanced 1 ('-' :: hi :: tail)) = .ok (true, r.advanced 2 (hi :: tail)) :=
    accept_eq_true rfl (by decide) (by simp [hhi])
  have hthat : next (r.advanced 2 (hi :: tail)) = .ok ([hi], r.advanced 3 tail) := next_char rfl hhi.1 hlone
  have hrange : setRange [lo] [hi] (.one lo.toNat) (.one hi.toNat) (r.advanced 3 tail) =
      .ok (.range lo.toNat hi.toNat, r.advanced 3 tail) := by
    rw [setRange, if_neg hle]
    rfl
  have hgoes : ([lo] == [']'] && !soFar.isEmpty) = false := by simp [hlo]
  have hends : ([hi] == [']']) = false := by simp [hhi]
  rw [setItems, bind_of_ok hthis, if_neg (by simp), hgoes, if_neg Bool.false_ne_true, bind_of_ok (setToken_char lo _),
    bind_of_ok hminus, if_pos rfl, bind_of_ok hthat, if_neg (by simp), hends, if_neg Bool.false_ne_true,
    bind_of_ok (setToken_char hi _), bind_of_ok hrange]

/-- a bracket closes a set that has entries -/
theorem setItems_close (hrest : r.rest = ']' :: tail) (hlone : tail ≠ ['\\']) (start : Nat) {soFar : List SetItem}
    (hsome : soFar ≠ []) (fuel : Nat) :
    setItems start soFar (fuel + 1) r = .ok (soFar.reverse, r.advanced 1 tail) := by
  have hthis : next r = .ok ([']'], r.advanced 1 tail) := next_char hrest (by decide) hlone
  have hcloses : ([']'] == [']'] && !soFar.isEmpty) = true := by simp [hsome]
  rw [setItems, bind_of_ok hthis, if_neg (by simp), hcloses, if_pos rfl]
  rfl

/-- the text of the set of digits behind its bracket -/
def setSource : List Char := ['0', '-', '9', 'a', '-', 'f', 'A', '-', 'F', ']']

/-- the text of a run of digits that is captured, behind its parenthesis -/
def runSource : List Char := '[' :: setSource ++ ['+', ')']

/-- the text of a group that captures digits -/
def digitsSource : List Char := '(' :: runSource

/-- a run of digits -/
def digits : Node := .loop 1 none .greedy ExtractionPattern.hexDigit

theorem readSet_digits (hrest : r.rest = setSource ++ tail) (hlone : tail ≠ ['\\']) :
    readSet {} r = .ok (⟨[ExtractionPattern.hexDigit], .plain⟩, r.advanced 10 tail) := by
  have hnegated : accept '^' r = .ok (false, r) := accept_eq_false hrest (by decide) (by decide)
  have hfuel : r.rest.length + 1 = tail.length + 7 + 1 + 1 + 1 + 1 := by
    have hset : setSource.length = 10 := rfl
    rw [hrest, List.length_append, hset]
    omega
  have hitems (start : Nat) : setItems start [] (r.rest.length + 1) r =
      .ok ([.range '0'.toNat '9'.toNat, .range 'a'.toNat 'f'.toNat, .range 'A'.toNat 'F'.toNat],
        r.advanced 10 tail) := by
    rw [hfuel, setItems_range hrest (by decide) (by decide) (by decide) (by simp),
      setItems_range rfl (by decide) (by decide) (by decide) (by simp),
      setItems_range rfl (by decide) (by decide) (by decide) (by simp), setItems_close rfl hlone _ (by simp)]
    rfl
  rw [readSet, bind_of_ok (get_eq r), bind_of_ok hnegated, bind_of_ok (get_eq r), bind_of_ok (hitems _)]
  rfl

/-- without a mark behind it a repetition is greedy -/
theorem readMode_eq_greedy (hrest : r.rest = d :: rest) (hd : d ≠ '\\') (hlazy : d ≠ '?') (hpossessive : d ≠ '+') :
    readMode r = .ok (.greedy, r) := by
  rw [readMode, bind_of_ok (accept_eq_false hrest hd hlazy), if_neg Bool.false_ne_true,
    bind_of_ok (accept_eq_false hrest hd hpossessive), if_neg Bool.false_ne_true]
  rfl

theorem repeatLast_digits (start : Nat) :
    repeatLast start 1 none [⟨[ExtractionPattern.hexDigit], .plain⟩] (r.advanced 12 (')' :: tail)) =
      .ok ([⟨[digits], .loop⟩], r.advanced 12 (')' :: tail)) := by
  have hmode : readMode (r.advanced 12 (')' :: tail)) = .ok (.greedy, r.advanced 12 (')' :: tail)) :=
    readMode_eq_greedy rfl (by decide) (by decide) (by decide)
  rw [repeatLast]
  simp only
  rw [bind_of_ok hmode]
  rfl

theorem readAlternatives_digits (hrest : r.rest = runSource ++ tail) (fuel : Nat) :
    readAlternatives (some {}) false (fuel + 4) r = .ok ([[digits]], r.advanced 12 (')' :: tail)) := by
  have hopen : next r = .ok (['['], r.advanced 1 (setSource ++ '+' :: ')' :: tail)) :=
    next_char hrest (by decide) (by simp [setSource])
  have hset : readSet {} (r.advanced 1 (setSource ++ '+' :: ')' :: tail)) =
      .ok (⟨[ExtractionPattern.hexDigit], .plain⟩, r.advanced 11 ('+' :: ')' :: tail)) := readSet_digits rfl (by simp)
  have hplus : next (r.advanced 11 ('+' :: ')' :: tail)) = .ok (['+'], r.advanced 12 (')' :: tail)) :=
    next_char rfl (by decide) (by simp)
  have hbar : accept '|' (r.advanced 12 (')' :: tail)) = .ok (false, r.advanced 12 (')' :: tail)) :=
    accept_eq_false rfl (by decide) (by decide)
  have hflags (r : Reader) : flagsIn (some {}) r = .ok ({}, r) := rfl
  have hfirst : tokenOf r.rest = ['['] := by rw [hrest]; rfl
  have hsecond : tokenOf (r.advanced 11 ('+' :: ')' :: tail)).rest = ['+'] := rfl
  have hsequence : readSequence (some {}) false [] (fuel + 3) r = .ok ([digits], r.advanced 12 (')' :: tail)) := by
    rw [readSequence, bind_of_ok (peek_eq r), hfirst, if_neg (by decide), bind_of_ok hopen, bind_of_ok (hflags _)]
    refine (bind_of_ok hset).trans ?_
    rw [readSequence, bind_of_ok (peek_eq _), hsecond, if_neg (by decide), bind_of_ok hplus, bind_of_ok (hflags _)]
    refine (bind_of_ok (get_eq _)).trans ?_
    exact bind_of_ok (repeatLast_digits _)
  rw [readAlternatives, bind_of_ok hsequence, bind_of_ok hbar, if_neg Bool.false_ne_true]
  rfl

/-- the reader behind the group that captures digits, which is the first one -/
def Reader.captured (r : Reader) (tail : List Char) : Reader := { r with rest := tail, widths := [some digits.width] }

theorem readGroup_digits (htail : tail ≠ ['\\']) (hrest : r.rest = runSource ++ tail) (hwidths : r.widths = [])
    (start fuel : Nat) :
    readGroup {} start (.capture none) (fuel + 5) r =
      .ok (some [.group 1 digits], (r.advanced 13 tail).captured tail) := by
  let opened : Reader := { r with widths := [none] }
  have hopen : openGroup none r = .ok (1, opened) := by
    rw [openGroup, bind_of_ok (get_eq r)]
    show Except.ok (r.groups, { r with widths := r.widths ++ [none] }) = _
    rw [Reader.groups, hwidths]
    rfl
  have hbody : readAlternatives (some {}) false (fuel + 4) opened =
      .ok ([[digits]], opened.advanced 12 (')' :: tail)) := readAlternatives_digits (r := opened) hrest fuel
  have hclose : closeParenthesis start (opened.advanced 12 (')' :: tail)) = .ok ((), opened.advanced 13 tail) := by
    have haccept : accept ')' (opened.advanced 12 (')' :: tail)) = .ok (true, opened.advanced 13 tail) :=
      accept_eq_true rfl (by decide) htail
    rw [closeParenthesis, bind_of_ok haccept]
    rfl
  rw [readGroup]
  refine (bind_of_ok hopen).trans ?_
  refine (bind_of_ok hbody).trans ?_
  refine (bind_of_ok hclose).trans ?_
  rfl

theorem readSequence_digits (htail : tail ≠ ['\\']) (hflags : r.flags = {}) (hrest : r.rest = digitsSource ++ tail)
    (hwidths : r.widths = []) (early : Bool) (soFar : List Item) (fuel : Nat) :
    readSequence none early soFar (fuel + 6) r =
      readSequence none early (⟨[.group 1 digits], .plain⟩ :: soFar) (fuel + 5)
        (((r.advanced 1 (runSource ++ tail)).advanced 13 tail).captured tail) := by
  have hfirst : tokenOf r.rest = ['('] := by rw [hrest]; rfl
  have hnext : next r = .ok (['('], r.advanced 1 (runSource ++ tail)) :=
    next_char hrest (by decide) (by simp [runSource, setSource])
  have hflagsIn : flagsIn none (r.advanced 1 (runSource ++ tail)) = .ok ({}, r.advanced 1 (runSource ++ tail)) :=
    flagsIn_none hflags
  have hopening (start : Nat) (early : Bool) : readOpening {} start early (r.advanced 1 (runSource ++ tail)) =
      .ok (.capture none, r.advanced 1 (runSource ++ tail)) := by
    have haccept : accept '?' (r.advanced 1 (runSource ++ tail)) = .ok (false, r.advanced 1 (runSource ++ tail)) :=
      accept_eq_false rfl (by decide) (by decide)
    rw [readOpening, bind_of_ok haccept]
    rfl
  have hgroup (start : Nat) := readGroup_digits htail (r := r.advanced 1 (runSource ++ tail)) rfl hwidths start fuel
  rw [readSequence, bind_of_ok (peek_eq r), hfirst, if_neg (by decide), bind_of_ok hnext, bind_of_ok hflagsIn]
  refine (bind_of_ok (get_eq _)).trans ?_
  refine (bind_of_ok (hopening _ _)).trans ?_
  exact bind_of_ok (hgroup _)

end Steps

/-! ## Whole patterns -/

section Whole

variable {before after : String} {left right : List Char}

/-- the nodes of a pattern that captures digits between two texts -/
def hexNodes (before after : String) : List Node := Node.chars before ++ [.group 1 digits] ++ Node.chars after

/-- the reader of a pattern text before the first step -/
def Reader.start (runtime : Runtime) (source : List Char) : Reader :=
  { pattern := source, rest := source, characterNamed? := runtime.characterNamed? }

theorem readAlternatives_hexBetween (runtime : Runtime) (hleft : Spells left before.toList)
    (hright : Spells right after.toList) :
    let source := left ++ digitsSource ++ right
    ∃ r, readAlternatives none true (4 * source.length + 4) (.start runtime source) = .ok ([hexNodes before after], r) ∧
      r.rest = [] ∧ r.flags = {} ∧ r.asked = [] ∧ r.widths = [some digits.width] := by
  intro source
  let r₀ := Reader.start runtime source
  let r₁ := r₀.advanced left.length (digitsSource ++ right)
  let r₂ := ((r₁.advanced 1 (runSource ++ right)).advanced 13 right).captured right
  let r₃ := r₂.advanced right.length []
  let group : Item := ⟨[.group 1 digits], .plain⟩
  have hlone : ([] : List Char) ≠ ['\\'] := by simp
  have hrightLone : right ≠ ['\\'] := by
    have h := hright.not_lone hlone
    rwa [List.append_nil] at h
  have hfirst (fuel : Nat) : readSequence none true [] (fuel + before.toList.length) r₀ =
      readSequence none true (itemsOf before.toList) fuel r₁ := by
    have hdigitsLone : digitsSource ++ right ≠ ['\\'] := by simp [digitsSource]
    have h := readSequence_spells hleft hdigitsLone (r := r₀) rfl (List.append_assoc ..) true [] fuel
    rwa [List.append_nil] at h
  have hsecond (fuel : Nat) : readSequence none true (itemsOf before.toList) (fuel + 6) r₁ =
      readSequence none true (group :: itemsOf before.toList) (fuel + 5) r₂ :=
    readSequence_digits hrightLone (r := r₁) rfl rfl rfl true _ fuel
  have hthird (fuel : Nat) : readSequence none true (group :: itemsOf before.toList) (fuel + after.toList.length) r₂ =
      readSequence none true (itemsOf after.toList ++ group :: itemsOf before.toList) fuel r₃ :=
    readSequence_spells hright hlone rfl (List.append_nil _).symm true _ fuel
  have hlast (fuel : Nat) :
      readSequence none true (itemsOf after.toList ++ group :: itemsOf before.toList) (fuel + 1) r₃ =
        .ok (hexNodes before after, r₃) := by
    have hnodes : (itemsOf after.toList ++ group :: itemsOf before.toList).reverse.flatMap (·.nodes) =
        hexNodes before after := by
      rw [List.reverse_append, List.reverse_cons, List.flatMap_append, List.flatMap_append, nodes_itemsOf,
        nodes_itemsOf]
      rfl
    rw [readSequence, bind_of_ok (peek_eq r₃), ← hnodes]
    rfl
  -- one step of fuel for each character and for the end, some for the group
  obtain ⟨fuel, hfuel⟩ :
      ∃ fuel, 4 * source.length + 3 = fuel + after.toList.length + 6 + before.toList.length := by
    refine ⟨4 * source.length + 3 - 6 - after.toList.length - before.toList.length, ?_⟩
    have hbefore := hleft.length_le
    have hafter := hright.length_le
    have hlength : source.length = left.length + 14 + right.length := by
      rw [List.length_append, List.length_append]
      rfl
    omega
  have hsequence : readSequence none true [] (4 * source.length + 3) r₀ = .ok (hexNodes before after, r₃) := by
    have hshift : fuel + after.toList.length + 5 = fuel + 4 + 1 + after.toList.length := by omega
    rw [hfuel, hfirst, hsecond, hshift, hthird, hlast]
  have hbar : accept '|' r₃ = .ok (false, r₃) := rfl
  refine ⟨r₃, ?_, rfl, rfl, rfl, rfl⟩
  rw [readAlternatives, bind_of_ok hsequence, bind_of_ok hbar]
  rfl

theorem problem?_ofList {nodes : List Node} (h : ∀ n ∈ nodes, n.problem? false = none) :
    (Node.ofList nodes).problem? false = none := by
  induction nodes with
  | nil => rfl
  | cons n rest ih =>
    have hrest := ih fun m hm => h m (List.mem_cons_of_mem n hm)
    have hn := h n List.mem_cons_self
    cases rest with
    | nil => exact hn
    | cons m rest =>
      show (n.problem? false).or ((Node.ofList (m :: rest)).problem? false) = none
      rw [hn, hrest]
      rfl

theorem reachesTooFar_ofList {nodes : List Node} (h : ∀ n ∈ nodes, n.reachesTooFar = false) :
    (Node.ofList nodes).reachesTooFar = false := by
  induction nodes with
  | nil => rfl
  | cons n rest ih =>
    have hrest := ih fun m hm => h m (List.mem_cons_of_mem n hm)
    have hn := h n List.mem_cons_self
    cases rest with
    | nil => exact hn
    | cons m rest =>
      show (n.reachesTooFar || (Node.ofList (m :: rest)).reachesTooFar) = false
      rw [hn, hrest]
      rfl

/-- tests of characters and a group of digits: nothing that cannot be matched -/
theorem mem_hexNodes {n : Node} (h : n ∈ hexNodes before after) :
    n.problem? false = none ∧ n.reachesTooFar = false := by
  simp only [hexNodes, List.mem_append, List.mem_singleton, Node.chars, List.mem_map] at h
  rcases h with (⟨c, -, rfl⟩ | rfl) | ⟨c, -, rfl⟩
  · exact ⟨rfl, rfl⟩
  · exact ⟨rfl, rfl⟩
  · exact ⟨rfl, rfl⟩

/-- no test is put before the pattern -/
theorem firstTest?_hexNodes : (Node.ofList (hexNodes before after)).firstTest? false = none := by
  have hchar (c : Char) (rest : List Node) : (Node.ofList (Node.char c :: rest)).firstTest? false = none := by
    cases rest <;> rfl
  have hgroup (rest : List Node) : (Node.ofList (.group 1 digits :: rest)).firstTest? false = none := by
    cases rest <;> rfl
  rw [hexNodes, Node.chars]
  cases before.toList with
  | nil => exact hgroup _
  | cons c text => exact hchar c _

/-- a pattern that captures digits between two texts has one group, so there is room for it -/
theorem overflow?_hexBetween (runtime : Runtime) (hleft : Spells left before.toList)
    (hright : Spells right after.toList) :
    runtime.pattern.overflow? (String.ofList (left ++ digitsSource ++ right)) = none := by
  have hnone : openings right = 0 := by simpa [openings] using hright.openings_append []
  have hone : openings (left ++ digitsSource ++ right) = 1 := by
    rw [List.append_assoc, hleft.openings_append]
    show openings right + 1 = 1
    rw [hnone]
  apply runtime.pattern.overflow?_eq_none
  rw [String.toList_ofList, hone]
  exact runtime.pattern.levels_pos

/-- **The text of a pattern that captures digits between two texts is read as that pattern**, whatever the runtime. -/
theorem compile_hexBetween (runtime : Runtime) (hleft : Spells left before.toList)
    (hright : Spells right after.toList) :
    compile runtime (String.ofList (left ++ digitsSource ++ right)) =
      .ok (ExtractionPattern.hexBetween before after) := by
  obtain ⟨r, hread, hrest, hflags, hasked, hwidths⟩ := readAlternatives_hexBetween runtime hleft hright
  let source := left ++ digitsSource ++ right
  let root := Node.ofList (hexNodes before after)
  let start := Reader.start runtime source
  have hlook : lookAhead start = .ok ((), start) := by
    have hdigitsLone : digitsSource ++ right ≠ ['\\'] := by simp [digitsSource]
    have h := hleft.not_lone hdigitsLone
    rw [← List.append_assoc] at h
    exact lookAhead_eq h
  have hbody : readAlternatives none true (4 * start.rest.length + 4) start = .ok ([hexNodes before after], r) := hread
  have hjoined : Node.ofList (joinAlternatives [hexNodes before after]) = root := rfl
  have hproblem : root.problem? false = none := problem?_ofList fun n hn => (mem_hexNodes hn).1
  have hreach : root.reachesTooFar = false := reachesTooFar_ofList fun n hn => (mem_hexNodes hn).2
  have hfirst : root.firstTest? false = none := firstTest?_hexNodes
  have hpattern : readPattern start = .ok (ExtractionPattern.hexBetween before after, r) := by
    rw [readPattern, bind_of_ok hlook, bind_of_ok (get_eq _), bind_of_ok hbody]
    refine (bind_of_ok (get_eq r)).trans ?_
    rw [hjoined, hflags, hrest, hasked, hwidths, hfirst, hreach, hproblem]
    rfl
  have hlist : (String.ofList source).toList = source := String.toList_ofList
  rw [compile, overflow?_hexBetween runtime hleft hright, hlist]
  show (·.1) <$> readPattern start = _
  rw [hpattern]
  rfl

end Whole

end DebugFind.Pattern
