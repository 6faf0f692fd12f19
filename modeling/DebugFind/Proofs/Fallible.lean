/-
Computations that may fail. What stands behind one is done if it succeeds (`bind_eq_ok_iff`).

What is computed for the elements of a list in turn is found in order (`filterMapM_map_of_forall`), unless it fails for
an element: then it fails as it does for the first such one (`filterMapM_eq_error_iff`).
-/
import Mathlib.Tactic

namespace DebugFind

variable {ε α β : Type}

/-! ## One after the other -/

theorem exists_of_bind_eq_ok {x : Except ε α} {f : α → Except ε β} {b : β} (h : (x >>= f) = .ok b) :
    ∃ a, x = .ok a ∧ f a = .ok b := by
  cases x with
  | error e => cases h
  | ok a => exact ⟨a, rfl, h⟩

theorem bind_of_eq_ok {x : Except ε α} {a : α} (h : x = .ok a) (f : α → Except ε β) : (x >>= f) = f a := by
  rw [h]
  rfl

theorem bind_of_eq_error {x : Except ε α} {e : ε} (h : x = .error e) (f : α → Except ε β) : (x >>= f) = .error e := by
  rw [h]
  rfl

theorem ite_bind {c : Prop} [Decidable c] (x y : Except ε α) (f : α → Except ε β) :
    ((if c then x else y) >>= f) = if c then x >>= f else y >>= f := by
  split <;> rfl

theorem bind_eq_ok_iff {x : Except ε α} {f : α → Except ε β} {b : β} :
    (x >>= f) = .ok b ↔ ∃ a, x = .ok a ∧ f a = .ok b := by
  constructor
  · exact exists_of_bind_eq_ok
  · rintro ⟨a, rfl, h⟩
    exact h

/-- the first element of a list that has a property -/
def FirstOf (P : α → Prop) (xs : List α) (x : α) : Prop :=
  ∃ before after, xs = before ++ x :: after ∧ P x ∧ ∀ y ∈ before, ¬ P y

theorem FirstOf.mem {P : α → Prop} {xs : List α} {x : α} (h : FirstOf P xs x) : x ∈ xs := by
  obtain ⟨before, after, rfl, -⟩ := h
  simp

theorem FirstOf.holds {P : α → Prop} {xs : List α} {x : α} (h : FirstOf P xs x) : P x := by
  obtain ⟨-, -, -, hx, -⟩ := h
  exact hx

theorem firstOf_congr {P Q : α → Prop} {xs : List α} (h : ∀ x ∈ xs, P x ↔ Q x) (x : α) :
    FirstOf P xs x ↔ FirstOf Q xs x := by
  constructor
  · rintro ⟨before, after, rfl, hx, hbefore⟩
    exact ⟨before, after, rfl, (h x (by simp)).1 hx, fun y hy hQ => hbefore y hy ((h y (by simp [hy])).2 hQ)⟩
  · rintro ⟨before, after, rfl, hx, hbefore⟩
    exact ⟨before, after, rfl, (h x (by simp)).2 hx, fun y hy hP => hbefore y hy ((h y (by simp [hy])).1 hP)⟩

theorem not_firstOf_nil {P : α → Prop} {x : α} : ¬ FirstOf P [] x := fun h => List.not_mem_nil h.mem

theorem firstOf_cons {P : α → Prop} {x y : α} {rest : List α} :
    FirstOf P (x :: rest) y ↔ (P x ∧ y = x) ∨ (¬ P x ∧ FirstOf P rest y) := by
  constructor
  · rintro ⟨before, after, hsplit, hy, hbefore⟩
    rcases before with _ | ⟨first, before⟩
    · cases hsplit
      exact Or.inl ⟨hy, rfl⟩
    · cases hsplit
      obtain ⟨hfirst, hbefore⟩ := List.forall_mem_cons.1 hbefore
      exact Or.inr ⟨hfirst, before, after, rfl, hy, hbefore⟩
  · rintro (⟨hx, rfl⟩ | ⟨hx, before, after, rfl, hy, hbefore⟩)
    · exact ⟨[], rest, rfl, hx, fun _ hmem => absurd hmem List.not_mem_nil⟩
    · exact ⟨x :: before, after, rfl, hy, List.forall_mem_cons.2 ⟨hx, hbefore⟩⟩

/-- if there is one at all, there is a first one -/
theorem exists_firstOf {P : α → Prop} {xs : List α} {x : α} (hmem : x ∈ xs) (hx : P x) : ∃ y, FirstOf P xs y := by
  induction xs with
  | nil => cases hmem
  | cons first rest ih =>
    by_cases hfirst : P first
    · exact ⟨first, firstOf_cons.2 (Or.inl ⟨hfirst, rfl⟩)⟩
    · have hrest : x ∈ rest := by
        rcases List.mem_cons.1 hmem with rfl | hrest
        · exact absurd hx hfirst
        · exact hrest
      obtain ⟨y, hy⟩ := ih hrest
      exact ⟨y, firstOf_cons.2 (Or.inr ⟨hfirst, hy⟩)⟩

theorem find?_eq_some_iff_firstOf {p : α → Bool} {xs : List α} {x : α} :
    xs.find? p = some x ↔ FirstOf (p · = true) xs x := by
  rw [List.find?_eq_some_iff_append]
  constructor
  · rintro ⟨hx, before, after, rfl, hbefore⟩
    exact ⟨before, after, rfl, hx, by simpa using hbefore⟩
  · rintro ⟨before, after, rfl, hx, hbefore⟩
    exact ⟨hx, before, after, rfl, by simpa using hbefore⟩

/-! ## Element by element -/

theorem filterMapM_cons_of_ok {f : α → Except ε (Option β)} {x : α} {found : Option β} (h : f x = .ok found)
    (rest : List α) : (x :: rest).filterMapM f = (found.toList ++ ·) <$> rest.filterMapM f := by
  rw [List.filterMapM_cons, bind_of_eq_ok h]
  rcases found with _ | b
  · cases rest.filterMapM f <;> rfl
  · cases rest.filterMapM f <;> rfl

theorem filterMapM_cons_of_error {f : α → Except ε (Option β)} {x : α} {e : ε} (h : f x = .error e) (rest : List α) :
    (x :: rest).filterMapM f = .error e := by
  rw [List.filterMapM_cons, bind_of_eq_error h]

theorem filterMapM_cons_eq_ok_iff {f : α → Except ε (Option β)} {x : α} {rest : List α} {found : List β} :
    (x :: rest).filterMapM f = .ok found ↔
      ∃ first behind, f x = .ok first ∧ rest.filterMapM f = .ok behind ∧ found = first.toList ++ behind := by
  constructor
  · intro h
    rcases hx : f x with e | first
    · rw [filterMapM_cons_of_error hx] at h
      cases h
    · rw [filterMapM_cons_of_ok hx] at h
      rcases hrest : rest.filterMapM f with e | behind
      · rw [hrest] at h
        cases h
      · rw [hrest] at h
        cases h
        exact ⟨first, behind, rfl, rfl, rfl⟩
  · rintro ⟨first, behind, hx, hrest, rfl⟩
    rw [filterMapM_cons_of_ok hx, hrest]
    rfl

theorem filterMapM_append_of_ok {f : α → Except ε (Option β)} {xs ys : List α} {found others : List β}
    (hxs : xs.filterMapM f = .ok found) (hys : ys.filterMapM f = .ok others) :
    (xs ++ ys).filterMapM f = .ok (found ++ others) := by
  induction xs generalizing found with
  | nil =>
    cases hxs
    exact hys
  | cons x rest ih =>
    obtain ⟨first, behind, hx, hrest, rfl⟩ := filterMapM_cons_eq_ok_iff.1 hxs
    exact filterMapM_cons_eq_ok_iff.2 ⟨first, behind ++ others, hx, ih hrest, List.append_assoc _ _ _⟩

/-- the elements for which something is found are those that `p` tells, and what is found stands in their order -/
theorem forall₂_of_filterMapM {f : α → Except ε (Option β)} {p : α → Bool}
    (hp : ∀ x found, f x = .ok found → p x = found.isSome) {xs : List α} {found : List β}
    (h : xs.filterMapM f = .ok found) : List.Forall₂ (fun x y => f x = .ok (some y)) (xs.filter p) found := by
  induction xs generalizing found with
  | nil =>
    cases h
    exact .nil
  | cons x rest ih =>
    obtain ⟨first, behind, hx, hrest, rfl⟩ := filterMapM_cons_eq_ok_iff.1 h
    rw [List.filter_cons, hp x first hx]
    rcases first with _ | y
    · exact ih hrest
    · exact .cons hx (ih hrest)

/-- what is found for the elements is found in order, if nothing fails -/
theorem filterMapM_map_of_forall {γ : Type} {f : α → Except ε (Option β)} {l : γ → α} {g : γ → Option β} {xs : List γ}
    (h : ∀ x ∈ xs, f (l x) = .ok (g x)) : (xs.map l).filterMapM f = .ok (xs.filterMap g) := by
  induction xs with
  | nil => rfl
  | cons x rest ih =>
    obtain ⟨hx, hrest⟩ := List.forall_mem_cons.1 h
    rw [List.map_cons, filterMapM_cons_of_ok hx, ih hrest, List.filterMap_cons]
    cases g x <;> rfl

/-- **The first failure decides**: what is computed for the elements fails exactly if it does for one, and as it does for
the first such one. -/
theorem filterMapM_eq_error_iff {f : α → Except ε (Option β)} {xs : List α} {e : ε} :
    xs.filterMapM f = .error e ↔ ∃ x, FirstOf (fun y => ∃ e', f y = .error e') xs x ∧ f x = .error e := by
  induction xs with
  | nil =>
    refine iff_of_false ?_ fun ⟨x, hx, _⟩ => not_firstOf_nil hx
    rw [List.filterMapM_nil]
    rintro ⟨⟩
  | cons x rest ih =>
    simp only [firstOf_cons]
    rcases hx : f x with e' | found
    · rw [filterMapM_cons_of_error hx]
      simp [hx]
    · rw [filterMapM_cons_of_ok hx]
      rcases hrest : rest.filterMapM f with e' | others
      · rw [hrest] at ih
        simpa [hx, Functor.map, Except.map] using ih
      · rw [hrest] at ih
        simpa [hx, Functor.map, Except.map] using ih

end DebugFind
