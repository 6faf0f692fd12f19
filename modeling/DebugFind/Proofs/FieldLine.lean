/-
Lines that describe a field. Such a line is put together from the parts of the field (`Spells`): words of small letters
with a space behind each, the name and the type tag between apostrophes, the digits of the offset, and the value, which
has no blank at either end.

- `split?_eq_some_iff`: the reader takes exactly such lines apart, and into those parts. So the parts of a line are the
  only ones it can be put together from.
- `ofLine_eq_some_iff`: the field is the one with those parts, if its offset is not too long (`Describes`).
-/
import DebugFind.ObjectField
import DebugFind.Proofs.Fallible
import DebugFind.Proofs.Numeral.Reading
import DebugFind.Proofs.Text.Words

namespace DebugFind.ObjectField

open DebugFind.Text DebugFind.Numeral

/-! ## Parts -/

/-- the modifiers as they stand in a field line, each with a space behind it -/
def modifierText (modifiers : List String) : String := String.join (modifiers.map (· ++ " "))

/-- a word of small letters -/
def IsModifier (text : String) : Prop := text ≠ "" ∧ ∀ c ∈ text.toList, 'a' ≤ c ∧ c ≤ 'z'

instance (text : String) : Decidable (IsModifier text) :=
  decidable_of_iff (text ≠ "" ∧ text.toList.all fun c => 'a' ≤ c ∧ c ≤ 'z') (by simp [IsModifier])

/-- a text that can stand between apostrophes -/
def IsQuotable (text : String) : Prop := text ≠ "" ∧ '\'' ∉ text.toList

instance (text : String) : Decidable (IsQuotable text) := inferInstanceAs (Decidable (_ ∧ _))

/-- no blank stands at either end of a text -/
def IsStripped (text : List Char) : Prop :=
  (∀ c ∈ text.head?, isBlank c = false) ∧ ∀ c ∈ text.getLast?, isBlank c = false

instance (text : List Char) : Decidable (IsStripped text) :=
  decidable_of_iff (text.head?.all (!isBlank ·) ∧ text.getLast?.all (!isBlank ·)) (by simp [IsStripped, Option.all_eq_true])

theorem isStripped_strip (s : List Char) : IsStripped (strip s) := by
  have hfirst : ∀ c ∈ (stripLeft s).head?, isBlank c = false := of_mem_head?_dropWhile
  have hlast : ∀ c ∈ ((stripLeft s).reverse.dropWhile isBlank).head?, isBlank c = false := of_mem_head?_dropWhile
  constructor
  · intro c hc
    obtain ⟨after, hafter, -⟩ := exists_blanks_behind (stripLeft s)
    apply hfirst
    rw [hafter, List.head?_append, ← strip, Option.mem_def.1 hc]
    rfl
  · intro c hc
    apply hlast
    rwa [strip, stripRight, List.getLast?_reverse] at hc

/-- a field line up to its offset, without the blanks in front -/
def front (modifiers : List String) (name typeTag : String) (digits : List Char) : String :=
  "- " ++ modifierText modifiers ++ "'" ++ name ++ "' '" ++ typeTag ++ "' @" ++ String.ofList digits

theorem toList_front (modifiers : List String) (name typeTag : String) (digits : List Char) :
    (front modifiers name typeTag digits).toList =
      '-' :: ' ' :: ((modifierText modifiers).toList ++ '\'' :: (name.toList ++ '\'' :: ' ' :: '\'' :: (typeTag.toList ++
        '\'' :: ' ' :: '@' :: digits))) := by
  simp [front]

/-- a line is put together from the parts of a field, with blanks in front, before the value and behind it -/
structure Spells (line : List Char) (modifiers : List String) (name typeTag : String) (digits value : List Char) :
    Prop where
  words : ∀ m ∈ modifiers, IsModifier m
  labels : IsQuotable name ∧ IsQuotable typeTag
  numeral : digits ≠ [] ∧ ∀ c ∈ digits, isDecimalDigit c = true
  stripped : IsStripped value
  layout : ∃ before gap after, (∀ c ∈ before, isBlank c = true) ∧ (gap ≠ [] ∧ ∀ c ∈ gap, isBlank c = true) ∧
    (∀ c ∈ after, isBlank c = true) ∧
    line = before ++ (front modifiers name typeTag digits).toList ++ gap ++ value ++ after

/-! ## Modifiers and labels -/

section Parts

variable {s rest : List Char}

theorem takeModifiers_word {word : List Char} (hword : ∀ c ∈ word, 'a' ≤ c ∧ c ≤ 'z') (before : List Char)
    (hne : before ≠ [] ∨ word ≠ []) :
    takeModifiers before (word ++ ' ' :: rest) =
      (String.ofList (before.reverse ++ word) :: (takeModifiers [] rest).1, (takeModifiers [] rest).2) := by
  induction word generalizing before with
  | nil =>
    rw [List.nil_append, takeModifiers, if_neg (by decide), if_pos (by simpa using hne)]
    simp
  | cons c word ih =>
    obtain ⟨hc, hword⟩ := List.forall_mem_cons.1 hword
    rw [List.cons_append, takeModifiers, if_pos hc, ih hword (c :: before) (Or.inl (List.cons_ne_nil c before))]
    simp

theorem toList_modifierText_cons (m : String) (modifiers : List String) :
    (modifierText (m :: modifiers)).toList = m.toList ++ ' ' :: (modifierText modifiers).toList := by
  simp [modifierText, String.join_cons]

/-- the modifiers end where an apostrophe stands -/
theorem takeModifiers_modifierText {modifiers : List String} (h : ∀ m ∈ modifiers, IsModifier m) :
    takeModifiers [] ((modifierText modifiers).toList ++ '\'' :: rest) = (modifiers, '\'' :: rest) := by
  induction modifiers with
  | nil =>
    rw [modifierText, List.map_nil, String.join_nil, String.toList_empty, List.nil_append, takeModifiers,
      if_neg (by decide), if_neg (by decide)]
    rfl
  | cons m modifiers ih =>
    obtain ⟨⟨hne, hletters⟩, hmodifiers⟩ := List.forall_mem_cons.1 h
    have hword : m.toList ≠ [] := fun hempty => hne (String.toList_inj.1 hempty)
    rw [toList_modifierText_cons, List.append_assoc, List.cons_append, takeModifiers_word hletters [] (Or.inr hword),
      ih hmodifiers]
    simp

/-- what is taken for modifiers is words of small letters, and stood where it was taken from; `word` is what was read of
the word that goes on there -/
theorem of_takeModifiers {word : List Char} {modifiers : List String} (hword : ∀ c ∈ word, 'a' ≤ c ∧ c ≤ 'z')
    (h : takeModifiers word s = (modifiers, rest)) :
    (∀ m ∈ modifiers, IsModifier m) ∧ word.reverse ++ s = (modifierText modifiers).toList ++ rest := by
  induction s generalizing word modifiers with
  | nil =>
    cases h
    exact ⟨fun m hm => absurd hm List.not_mem_nil, by simp [modifierText]⟩
  | cons c s ih =>
    rw [takeModifiers] at h
    split_ifs at h with hletter hend
    · simpa using ih (List.forall_mem_cons.2 ⟨hletter, hword⟩) h
    · obtain ⟨rfl, hne⟩ := hend
      rcases hrest : takeModifiers [] s with ⟨others, rest'⟩
      rw [hrest] at h
      cases h
      obtain ⟨hothers, hs⟩ := ih (fun c hc => absurd hc List.not_mem_nil) hrest
      have hm : IsModifier (String.ofList word.reverse) := ⟨by simpa using hne, by simpa using hword⟩
      refine ⟨List.forall_mem_cons.2 ⟨hm, hothers⟩, ?_⟩
      rw [List.reverse_nil, List.nil_append] at hs
      rw [toList_modifierText_cons, hs, String.toList_ofList, List.append_assoc, List.cons_append]
    · cases h
      exact ⟨fun m hm => absurd hm List.not_mem_nil, by simp [modifierText]⟩

/-- a label is what stands between the apostrophes around it -/
theorem takeQuoted?_eq_some_iff {text : String} :
    takeQuoted? s = some (text, rest) ↔ IsQuotable text ∧ s = '\'' :: (text.toList ++ '\'' :: rest) := by
  constructor
  · intro h
    unfold takeQuoted? at h
    split at h
    · rename_i s
      split at h
      · rename_i c inside d behind hspan
        cases h
        rw [List.span_eq_takeWhile_dropWhile, Prod.mk.injEq] at hspan
        obtain ⟨htake, hdrop⟩ := hspan
        have hend : d = '\'' := by
          have hfirst : ∀ e ∈ (s.dropWhile (· != '\'')).head?, (e != '\'') = false := of_mem_head?_dropWhile
          simpa using hfirst d (by rw [hdrop]; rfl)
        have hinside : ∀ e ∈ c :: inside, e ≠ '\'' := by
          intro e he
          rw [← htake] at he
          simpa using List.mem_takeWhile_imp he
        have hs : s.takeWhile (· != '\'') ++ s.dropWhile (· != '\'') = s := List.takeWhile_append_dropWhile
        refine ⟨⟨by simp, fun hmem => ?_⟩, ?_⟩
        · rw [String.toList_ofList] at hmem
          exact hinside _ hmem rfl
        · rw [← hs, htake, hdrop, hend, String.toList_ofList]
      · cases h
    · cases h
  · rintro ⟨⟨hne, hquote⟩, rfl⟩
    have hinside : ∀ c ∈ text.toList, (c != '\'') = true := by
      intro c hc
      simp only [bne_iff_ne, ne_eq]
      rintro rfl
      exact hquote hc
    have hspan : (text.toList ++ '\'' :: rest).span (· != '\'') = (text.toList, '\'' :: rest) := by
      rw [List.span_eq_takeWhile_dropWhile, List.takeWhile_append_of_pos hinside, List.dropWhile_append_of_pos hinside]
      simp
    rw [takeQuoted?, hspan]
    cases htext : text.toList with
    | nil => exact absurd (String.toList_inj.1 htext) hne
    | cons c others =>
      simp only [Option.some.injEq, Prod.mk.injEq, and_true]
      rw [← htext, String.ofList_toList]

end Parts

/-! ## Lines -/

section Line

variable {line digits value : List Char} {modifiers : List String} {name typeTag : String}

theorem spells_of_split? (h : split? line = some (modifiers, name, typeTag, digits, value)) :
    Spells line modifiers name typeTag digits value := by
  unfold split? at h
  split at h
  · rename_i behindDash hline
    rcases hmodifiers : takeModifiers [] behindDash with ⟨modifiers', behindModifiers⟩
    rw [hmodifiers] at h
    dsimp only at h
    obtain ⟨⟨name', behindName⟩, hname, h⟩ := Option.bind_eq_some_iff.1 h
    dsimp only at h
    split at h
    · rename_i behindSpace
      obtain ⟨⟨typeTag', behindTag⟩, htag, h⟩ := Option.bind_eq_some_iff.1 h
      dsimp only at h
      split at h
      · rename_i behindAt
        rcases hdigits : behindAt.span isDecimalDigit with ⟨digits', behindOffset⟩
        rw [hdigits] at h
        dsimp only at h
        split_ifs at h with hoffset
        cases h
        simp only [Bool.or_eq_true, not_or, Bool.not_eq_true, List.isEmpty_eq_false_iff, Bool.not_eq_false'] at hoffset
        obtain ⟨hne, hgap⟩ := hoffset
        rw [List.span_eq_takeWhile_dropWhile, Prod.mk.injEq] at hdigits
        obtain ⟨htake, hdrop⟩ := hdigits
        obtain ⟨hwords, hbehindDash⟩ := of_takeModifiers (fun c hc => absurd hc List.not_mem_nil) hmodifiers
        obtain ⟨hnameLabel, hbehindModifiers⟩ := takeQuoted?_eq_some_iff.1 hname
        obtain ⟨htagLabel, hbehindSpace⟩ := takeQuoted?_eq_some_iff.1 htag
        obtain ⟨after, hafter, hvalue⟩ := exists_strip behindOffset
        have hdecimal : ∀ c ∈ digits, isDecimalDigit c = true := by
          rw [← htake]
          exact fun c hc => List.mem_takeWhile_imp hc
        have hbehindAt : behindAt = digits ++ behindOffset := by
          rw [← htake, ← hdrop, List.takeWhile_append_dropWhile]
        have hblank : behindOffset.takeWhile isBlank ≠ [] := by
          rcases behindOffset with _ | ⟨c, rest⟩
          · simp at hgap
          · have hc : isBlank c = true := by simpa using hgap
            rw [List.takeWhile_cons, if_pos hc]
            exact List.cons_ne_nil c _
        refine ⟨hwords, ⟨hnameLabel, htagLabel⟩, ⟨hne, hdecimal⟩, isStripped_strip behindOffset,
          line.takeWhile isBlank, behindOffset.takeWhile isBlank, after, fun c hc => List.mem_takeWhile_imp hc,
          ⟨hblank, fun c hc => List.mem_takeWhile_imp hc⟩, hafter, ?_⟩
        calc line
            = line.takeWhile isBlank ++ stripLeft line := List.takeWhile_append_dropWhile.symm
          _ = line.takeWhile isBlank ++ (front modifiers name typeTag digits).toList ++ behindOffset := by
            rw [List.reverse_nil, List.nil_append] at hbehindDash
            rw [hline, hbehindDash, hbehindModifiers, hbehindSpace, hbehindAt, toList_front]
            simp only [List.append_assoc, List.cons_append]
          _ = _ := by
            conv_lhs => rw [hvalue]
            simp only [List.append_assoc]
      · cases h
    · cases h
  · cases h

/-- a line is taken apart from its front on, one part after the other -/
theorem split?_of_parts {behindDash behindModifiers behindSpace behindAt behindOffset : List Char}
    (hline : stripLeft line = '-' :: ' ' :: behindDash)
    (hmodifiers : takeModifiers [] behindDash = (modifiers, behindModifiers))
    (hname : takeQuoted? behindModifiers = some (name, ' ' :: behindSpace))
    (htag : takeQuoted? behindSpace = some (typeTag, ' ' :: '@' :: behindAt))
    (hdigits : behindAt.span isDecimalDigit = (digits, behindOffset)) (hne : digits ≠ [])
    (hgap : behindOffset.head?.any isBlank = true) :
    split? line = some (modifiers, name, typeTag, digits, strip behindOffset) := by
  rw [split?, hline]
  simp only [hmodifiers, hname, htag, hdigits, Option.bind_eq_bind, Option.bind_some]
  simp [hne, hgap]

theorem split?_of_spells (h : Spells line modifiers name typeTag digits value) :
    split? line = some (modifiers, name, typeTag, digits, value) := by
  obtain ⟨hwords, ⟨hname, htag⟩, ⟨hne, hdigits⟩, hstripped, before, gap, after, hbefore, ⟨hgap, hblank⟩, hafter,
    rfl⟩ := h
  obtain ⟨c, gap, rfl⟩ := List.exists_cons_of_ne_nil hgap
  have hc : isBlank c = true := hblank c List.mem_cons_self
  have hline : stripLeft (before ++ (front modifiers name typeTag digits).toList ++ (c :: gap) ++ value ++ after) =
      '-' :: ' ' :: ((modifierText modifiers).toList ++ '\'' :: (name.toList ++ '\'' :: ' ' :: '\'' ::
        (typeTag.toList ++ '\'' :: ' ' :: '@' :: (digits ++ (c :: gap ++ value ++ after))))) := by
    rw [List.append_assoc, List.append_assoc, List.append_assoc, stripLeft_append hbefore, toList_front]
    simp only [List.append_assoc, List.cons_append]
    rfl
  have hspan : (digits ++ (c :: gap ++ value ++ after)).span isDecimalDigit = (digits, c :: gap ++ value ++ after) := by
    rw [List.span_eq_takeWhile_dropWhile, List.takeWhile_append_of_pos hdigits, List.dropWhile_append_of_pos hdigits]
    simp [isDecimalDigit_of_isBlank hc]
  have hvalue : strip (c :: gap ++ value ++ after) = value := by
    rw [strip_around hblank hafter, strip_eq_self hstripped.1 hstripped.2]
  rw [split?_of_parts hline (takeModifiers_modifierText hwords) (takeQuoted?_eq_some_iff.2 ⟨hname, rfl⟩)
    (takeQuoted?_eq_some_iff.2 ⟨htag, rfl⟩) hspan hne (by simpa using hc), hvalue]

/-- **The reader takes apart exactly the lines that are put together from the parts of a field**, and into those. -/
theorem split?_eq_some_iff : split? line = some (modifiers, name, typeTag, digits, value) ↔
    Spells line modifiers name typeTag digits value :=
  ⟨spells_of_split?, split?_of_spells⟩

end Line

/-- a line describes a field: it is put together from its parts, and the digits are read as its offset -/
def Describes (line : List Char) (f : ObjectField) : Prop :=
  ∃ digits, Spells line f.modifiers f.name f.typeTag digits f.value.toList ∧ ofDecimal digits = .ok f.offset

theorem ofLine_eq_some_iff {line : List Char} {f : ObjectField} : ofLine line = .ok (some f) ↔ Describes line f := by
  unfold ofLine Describes
  simp only [← split?_eq_some_iff]
  rcases hsplit : split? line with _ | ⟨modifiers, name, typeTag, digits, value⟩
  · simp
  · constructor
    · intro h
      obtain ⟨offset, hoffset, h⟩ := exists_of_bind_eq_ok h
      cases h
      exact ⟨digits, by simp, hoffset⟩
    · rintro ⟨digits', hparts, hoffset⟩
      obtain ⟨modifiers', name', typeTag', offset', value'⟩ := f
      simp only [Option.some.injEq, Prod.mk.injEq] at hparts
      obtain ⟨rfl, rfl, rfl, rfl, rfl⟩ := hparts
      show (ofDecimal digits >>= _) = _
      rw [bind_of_eq_ok hoffset, String.ofList_toList]
      rfl

end DebugFind.ObjectField
