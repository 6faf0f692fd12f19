/-
Where a pattern that captures hexadecimal digits between two texts matches. A text is taken as it stands or not at all, and
of a run of digits all are taken, as the second text does not begin with one. So the pattern matches at a place exactly if
the first text, digits and the second text stand there (`run_hexBetween_iff`).

A search tries the places from the left; `searchFrom_eq_some_iff` and `searchFrom_eq_none_iff` say so of every pattern.
-/
import Mathlib.Data.List.TakeWhile
import Mathlib.Tactic
import DebugFind.Extraction.Address
import DebugFind.Proofs.Numeral

namespace DebugFind.Pattern

open DebugFind.Text DebugFind.Numeral

/-! ## Searching -/

theorem firstOf_eq_some_iff {a : Option Cursor} {b : Unit → Option Cursor} {d : Cursor} :
    firstOf a b = some d ↔ a = some d ∨ a = none ∧ b () = some d := by
  cases a <;> simp [firstOf]

theorem firstOf_eq_none_iff {a : Option Cursor} {b : Unit → Option Cursor} :
    firstOf a b = none ↔ a = none ∧ b () = none := by
  cases a <;> simp [firstOf]

theorem firstOf_none (a : Option Cursor) : (firstOf a fun _ => none) = a := by
  cases a <;> rfl

/-- a search finds the leftmost match -/
theorem searchFrom_eq_some_iff {n : Node} {before text : List Char} {d : Cursor} :
    n.searchFrom before text = some d ↔
      ∃ skipped rest, text = skipped ++ rest ∧ n.run some ⟨skipped.reverse ++ before, rest, []⟩ = some d ∧
        ∀ skipped' rest', text = skipped' ++ rest' → skipped'.length < skipped.length →
          n.run some ⟨skipped'.reverse ++ before, rest', []⟩ = none := by
  induction text generalizing before with
  | nil =>
    constructor
    · intro h
      exact ⟨[], [], rfl, h, fun _ _ _ hlt => absurd hlt (Nat.not_lt_zero _)⟩
    · rintro ⟨skipped, rest, htext, h, -⟩
      obtain ⟨rfl, rfl⟩ := List.append_eq_nil_iff.1 htext.symm
      exact h
  | cons x text ih =>
    rw [Node.searchFrom, firstOf_eq_some_iff, ih]
    constructor
    · rintro (h | ⟨hnone, skipped, rest, rfl, h, hfirst⟩)
      · exact ⟨[], x :: text, rfl, h, fun _ _ _ hlt => absurd hlt (Nat.not_lt_zero _)⟩
      · refine ⟨x :: skipped, rest, rfl, by simpa using h, ?_⟩
        intro skipped' rest' htext hlt
        cases skipped' with
        | nil =>
          rw [List.nil_append] at htext
          rw [← htext]
          exact hnone
        | cons y skipped' =>
          injection htext with hx htext
          subst hx
          have hearlier := hfirst skipped' rest' htext (by simpa using hlt)
          simpa using hearlier
    · rintro ⟨skipped, rest, htext, h, hfirst⟩
      cases skipped with
      | nil =>
        rw [List.nil_append] at htext
        rw [← htext] at h
        exact Or.inl h
      | cons y skipped =>
        injection htext with hx htext
        subst hx htext
        refine Or.inr ⟨hfirst [] _ rfl (by simp), skipped, rest, rfl, by simpa using h, ?_⟩
        intro skipped' rest' htext hlt
        have hearlier := hfirst (x :: skipped') rest' (by rw [htext]; rfl) (by simpa using hlt)
        simpa using hearlier

theorem searchFrom_eq_none_iff {n : Node} {before text : List Char} :
    n.searchFrom before text = none ↔
      ∀ skipped rest, text = skipped ++ rest → n.run some ⟨skipped.reverse ++ before, rest, []⟩ = none := by
  induction text generalizing before with
  | nil =>
    constructor
    · intro h skipped rest htext
      obtain ⟨rfl, rfl⟩ := List.append_eq_nil_iff.1 htext.symm
      exact h
    · intro h
      exact h [] [] rfl
  | cons x text ih =>
    rw [Node.searchFrom, firstOf_eq_none_iff, ih]
    constructor
    · rintro ⟨hfirst, hrest⟩ skipped rest htext
      cases skipped with
      | nil =>
        rw [List.nil_append] at htext
        rw [← htext]
        exact hfirst
      | cons y skipped =>
        injection htext with hx htext
        subst hx
        have hlater := hrest skipped rest htext
        simpa using hlater
    · intro h
      refine ⟨h [] _ rfl, ?_⟩
      intro skipped rest htext
      have hlater := h (x :: skipped) rest (by rw [htext]; rfl)
      simpa using hlater


/-! ## At one place -/

section Place

variable {k : Continuation} {before rest : List Char} {captures : List (Nat × List Char)}

theorem char_holds (c x : Char) : CharSet.holds { items := [.one c.toNat] } x = true ↔ x = c := by
  have hcode : x.toNat = c.toNat ↔ x = c := ⟨fun h => Char.ext (UInt32.toNat_inj.1 h), fun h => by rw [h]⟩
  simp [CharSet.holds, CharSet.covers, CharSet.wantsLower, Folding.twins, ← hcode, eq_comm]

theorem hexDigit_holds (x : Char) :
    CharSet.holds { items := [.range '0'.toNat '9'.toNat, .range 'a'.toNat 'f'.toNat, .range 'A'.toNat 'F'.toNat] } x =
      isHexDigit x := by
  have hle (a b : Char) : a ≤ b ↔ a.toNat ≤ b.toNat := UInt32.le_iff_toNat_le
  have hvalue : isHexDigit x = true ↔ ('0' ≤ x ∧ x ≤ '9') ∨ ('a' ≤ x ∧ x ≤ 'f') ∨ ('A' ≤ x ∧ x ≤ 'F') := by
    rw [isHexDigit, hexValue?]
    split_ifs with h₁ h₂ h₃ <;> simp_all
  rw [Bool.eq_iff_iff, hvalue]
  simp [CharSet.holds, CharSet.covers, Folding.twins, hle]

theorem run_ofList_cons (n : Node) (nodes : List Node) (k : Continuation) :
    (Node.ofList (n :: nodes)).run k = n.run ((Node.ofList nodes).run k) := by
  cases nodes with
  | nil => rfl
  | cons m nodes => rfl

theorem run_ofList_append (nodes nodes' : List Node) (k : Continuation) :
    (Node.ofList (nodes ++ nodes')).run k = (Node.ofList nodes).run ((Node.ofList nodes').run k) := by
  induction nodes with
  | nil => rfl
  | cons n nodes ih => rw [List.cons_append, run_ofList_cons, run_ofList_cons, ih]

theorem run_char_eq (c : Char) :
    (Node.char c).run k ⟨before, c :: rest, captures⟩ = k ⟨c :: before, rest, captures⟩ := by
  have hholds := (char_holds c c).2 rfl
  simp [Node.char, Node.run, Cursor.step?, hholds]

theorem run_char_ne {c x : Char} (h : x ≠ c) : (Node.char c).run k ⟨before, x :: rest, captures⟩ = none := by
  have hholds : CharSet.holds { items := [.one c.toNat] } x = false := by
    rw [← Bool.not_eq_true, char_holds]
    exact h
  simp [Node.char, Node.run, Cursor.step?, hholds]

/-- the characters of a text are taken where it stands -/
theorem run_chars_append (text : List Char) :
    (Node.ofList (text.map Node.char)).run k ⟨before, text ++ rest, captures⟩ =
      k ⟨text.reverse ++ before, rest, captures⟩ := by
  induction text generalizing before with
  | nil => rfl
  | cons c text ih =>
    rw [List.map_cons, run_ofList_cons, List.cons_append, run_char_eq, ih, List.reverse_cons, List.append_assoc]
    rfl

/-- and nowhere else -/
theorem run_chars_elsewhere {text after : List Char} (h : ¬ text <+: after) :
    (Node.ofList (text.map Node.char)).run k ⟨before, after, captures⟩ = none := by
  induction text generalizing before after with
  | nil => exact absurd List.nil_prefix h
  | cons c text ih =>
    rw [List.map_cons, run_ofList_cons]
    cases after with
    | nil => rfl
    | cons x after =>
      by_cases hx : x = c
      · subst hx
        rw [run_char_eq]
        exact ih fun hbegins => h (List.cons_prefix_cons.2 ⟨rfl, hbegins⟩)
      · exact run_char_ne hx

theorem run_hexDigit (x : Char) :
    ExtractionPattern.hexDigit.run k ⟨before, x :: rest, captures⟩ =
      if isHexDigit x then k ⟨x :: before, rest, captures⟩ else none := by
  rw [← hexDigit_holds]
  show (Option.bind (if CharSet.holds _ x then some _ else none) k) = _
  split_ifs <;> rfl

/-- as many digits are taken as there are, where nothing can go on within them -/
theorem run_manyGreedy_hexDigit (before : List Char) {run : List Char} (hrun : ∀ x ∈ run, isHexDigit x)
    (hend : ∀ x, rest.head? = some x → isHexDigit x = false)
    (hk : ∀ before x after, isHexDigit x → k ⟨before, x :: after, captures⟩ = none) {fuel : Nat}
    (hfuel : run.length ≤ fuel) :
    manyGreedy ExtractionPattern.hexDigit.run k fuel none ⟨before, run ++ rest, captures⟩ =
      k ⟨run.reverse ++ before, rest, captures⟩ := by
  induction run generalizing before fuel with
  | nil =>
    have hstop (k' : Continuation) : ExtractionPattern.hexDigit.run k' ⟨before, rest, captures⟩ = none := by
      cases rest with
      | nil => rfl
      | cons x rest => rw [run_hexDigit, hend x rfl, if_neg Bool.false_ne_true]
    cases fuel with
    | zero => simp only [List.nil_append, manyGreedy, hstop]; rfl
    | succ fuel => simp only [List.nil_append, manyGreedy, hstop]; rfl
  | cons x run ih =>
    obtain ⟨fuel, rfl⟩ : ∃ n, fuel = n + 1 := ⟨fuel - 1, by simp at hfuel; omega⟩
    have hx : isHexDigit x = true := hrun x List.mem_cons_self
    have hothers : ∀ y ∈ run, isHexDigit y := fun y hy => hrun y (List.mem_cons_of_mem x hy)
    have hrest := ih (x :: before) hothers (by simpa using hfuel)
    have hnext : (run ++ rest).length < (x :: (run ++ rest)).length := Nat.lt_succ_self _
    have hback : k ⟨before, x :: (run ++ rest), captures⟩ = none := hk before x (run ++ rest) hx
    have hmay : mayRepeat none = true := rfl
    rw [List.cons_append, manyGreedy, if_pos hmay, run_hexDigit, if_pos hx, if_pos hnext]
    show firstOf (manyGreedy _ k fuel none ⟨x :: before, run ++ rest, captures⟩) _ = _
    have hreverse : (x :: run).reverse ++ before = run.reverse ++ x :: before := by simp
    rw [hrest, hback, firstOf_none, hreverse]


/-- a run of digits is taken as a whole, and without a digit there is no match -/
theorem run_digits {text run : List Char} (htext : text = run ++ rest) (hrun : ∀ x ∈ run, isHexDigit x)
    (hend : ∀ x, rest.head? = some x → isHexDigit x = false)
    (hk : ∀ before x after, isHexDigit x → k ⟨before, x :: after, captures⟩ = none) :
    (Node.loop 1 none .greedy ExtractionPattern.hexDigit).run k ⟨before, text, captures⟩ =
      if run = [] then none else k ⟨run.reverse ++ before, rest, captures⟩ := by
  subst htext
  cases run with
  | nil =>
    rw [if_pos rfl]
    cases rest with
    | nil => rfl
    | cons x rest =>
      show ExtractionPattern.hexDigit.run _ _ = _
      rw [List.nil_append, run_hexDigit, hend x rfl, if_neg Bool.false_ne_true]
  | cons x run =>
    have hx : isHexDigit x = true := hrun x List.mem_cons_self
    have hothers : ∀ y ∈ run, isHexDigit y := fun y hy => hrun y (List.mem_cons_of_mem x hy)
    have hfuel : run.length ≤ (run ++ rest).length := by
      rw [List.length_append]
      omega
    have hmany := run_manyGreedy_hexDigit (x :: before) hothers hend hk hfuel
    show ExtractionPattern.hexDigit.run _ _ = _
    rw [List.cons_append, run_hexDigit, hx, if_pos rfl, if_neg (List.cons_ne_nil x run), List.reverse_cons,
      List.append_assoc]
    exact hmany

end Place

/-! ## Digits between two texts -/

/-- digits stand in a line between two texts; `skipped` is what stands before the first text -/
def Stands (before after : String) (line skipped run : List Char) : Prop :=
  isHexNumeral run ∧ ∃ rest, line = skipped ++ before.toList ++ run ++ after.toList ++ rest

section Between

variable {before after : String} {b : List Char}

/-- a text that does not go on with a digit -/
def Delimits (after : String) : Prop := ∃ x rest, after.toList = x :: rest ∧ isHexDigit x = false

/-- the pattern takes the first text and all digits behind it, and goes on with the second text -/
theorem run_hexBetween (hafter : Delimits after) {run rest : List Char} (hrun : ∀ x ∈ run, isHexDigit x)
    (hend : ∀ x, rest.head? = some x → isHexDigit x = false) :
    (ExtractionPattern.hexBetween before after).root.run some ⟨b, before.toList ++ (run ++ rest), []⟩ =
      if run = [] then none
      else (Node.ofList (Node.chars after)).run some
        ⟨run.reverse ++ (before.toList.reverse ++ b), rest, [(1, run)]⟩ := by
  obtain ⟨y, others, hother, hy⟩ := hafter
  let c : Cursor := ⟨before.toList.reverse ++ b, run ++ rest, []⟩
  let k : Continuation := fun d => (Node.ofList (Node.chars after)).run some (d.record 1 (c.textTo d))
  have hk : ∀ before x after, isHexDigit x → k ⟨before, x :: after, []⟩ = none := by
    intro before' x after' hx
    refine run_chars_elsewhere fun hbegins => ?_
    rw [hother] at hbegins
    obtain ⟨rfl, -⟩ := List.cons_prefix_cons.1 hbegins
    rw [hx] at hy
    cases hy
  have htaken : c.textTo ⟨run.reverse ++ (before.toList.reverse ++ b), rest, []⟩ = run := by
    have hlength : (run ++ rest).length - rest.length = run.length := by simp
    show (run ++ rest).take ((run ++ rest).length - rest.length) = run
    rw [hlength, List.take_left]
  have hroot : (ExtractionPattern.hexBetween before after).root.run some ⟨b, before.toList ++ (run ++ rest), []⟩ =
      (Node.loop 1 none .greedy ExtractionPattern.hexDigit).run k c := by
    show (Node.ofList (Node.chars before ++ [_] ++ Node.chars after)).run some _ = _
    rw [run_ofList_append, run_ofList_append, Node.chars, run_chars_append]
    rfl
  have hlast : k ⟨run.reverse ++ (before.toList.reverse ++ b), rest, []⟩ = (Node.ofList (Node.chars after)).run some
      ⟨run.reverse ++ (before.toList.reverse ++ b), rest, [(1, run)]⟩ := by
    show (Node.ofList (Node.chars after)).run some (Cursor.record _ 1 (c.textTo _)) = _
    rw [htaken]
    rfl
  rw [hroot, run_digits rfl hrun hend hk, hlast]

/-- **The pattern matches at a place exactly if the first text, digits and the second text stand there.** -/
theorem run_hexBetween_iff (hafter : Delimits after) {text : List Char} {d : Cursor} :
    (ExtractionPattern.hexBetween before after).root.run some ⟨b, text, []⟩ = some d ↔
      ∃ run rest, text = before.toList ++ (run ++ (after.toList ++ rest)) ∧ isHexNumeral run ∧
        d = ⟨after.toList.reverse ++ (run.reverse ++ (before.toList.reverse ++ b)), rest, [(1, run)]⟩ := by
  constructor
  · intro h
    by_cases hbefore : before.toList <+: text
    · obtain ⟨text, rfl⟩ := hbefore
      have hsplit := List.takeWhile_append_dropWhile (p := isHexDigit) (l := text)
      generalize hrunEq : text.takeWhile isHexDigit = run at hsplit
      generalize hrestEq : text.dropWhile isHexDigit = rest at hsplit
      have hrun : ∀ x ∈ run, isHexDigit x := by
        intro x hx
        rw [← hrunEq] at hx
        exact List.mem_takeWhile_imp hx
      have hend : ∀ x, rest.head? = some x → isHexDigit x = false := by
        intro x hx
        rw [← hrestEq, ← List.find?_not_eq_head?_dropWhile] at hx
        have hnot := List.find?_some hx
        simpa using hnot
      subst hsplit
      rw [run_hexBetween hafter hrun hend] at h
      split_ifs at h with hnone
      by_cases hbegins : after.toList <+: rest
      · obtain ⟨rest, rfl⟩ := hbegins
        rw [Node.chars, run_chars_append] at h
        cases h
        exact ⟨run, rest, rfl, isHexNumeral_iff.2 ⟨hnone, hrun⟩, rfl⟩
      · rw [Node.chars, run_chars_elsewhere hbegins] at h
        cases h
    · have hroot : (ExtractionPattern.hexBetween before after).root.run some ⟨b, text, []⟩ = none := by
        show (Node.ofList (Node.chars before ++ [_] ++ Node.chars after)).run some _ = _
        rw [run_ofList_append, run_ofList_append]
        exact run_chars_elsewhere hbefore
      rw [hroot] at h
      cases h
  · rintro ⟨run, rest, rfl, hnumeral, rfl⟩
    obtain ⟨hnone, hrun⟩ := isHexNumeral_iff.1 hnumeral
    obtain ⟨y, others, hother, hy⟩ := hafter
    have hend : ∀ x, (after.toList ++ rest).head? = some x → isHexDigit x = false := by
      intro x hx
      rw [hother] at hx
      cases hx
      exact hy
    rw [run_hexBetween ⟨y, others, hother, hy⟩ hrun hend, if_neg hnone, Node.chars, run_chars_append]

end Between

end DebugFind.Pattern
