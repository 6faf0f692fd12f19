/-
Whole numbers in JSON. `Wholes P` says that a property holds of every whole number in a value, however deep. What the
reader accepts is short enough to be written again (`wholes_of_read`), since it refuses longer numbers where they
stand.
-/
import DebugFind.Json.Reader
import DebugFind.Proofs.Fallible
import DebugFind.Proofs.Numeral

namespace DebugFind

namespace Json

open DebugFind.Text DebugFind.Numeral

/-- every whole number in a value has a property -/
inductive Wholes (P : Int → Prop) : Json → Prop
  | null : Wholes P .null
  | bool (b : Bool) : Wholes P (.bool b)
  | int (n : Int) (h : P n) : Wholes P (.int n)
  | float (x : Binary64) : Wholes P (.float x)
  | string (s : String) : Wholes P (.string s)
  | array (items : List Json) (h : ∀ v ∈ items, Wholes P v) : Wholes P (.array items)
  | object (members : List (String × Json)) (h : ∀ m ∈ members, Wholes P m.2) : Wholes P (.object members)

variable {P : Int → Prop}

@[simp]
theorem wholes_bool {b : Bool} : Wholes P (.bool b) := .bool b

@[simp]
theorem wholes_int {n : Int} : Wholes P (.int n) ↔ P n :=
  ⟨fun h => by cases h; assumption, .int n⟩

@[simp]
theorem wholes_string {s : String} : Wholes P (.string s) := .string s

@[simp]
theorem wholes_array {items : List Json} : Wholes P (.array items) ↔ ∀ v ∈ items, Wholes P v :=
  ⟨fun h => by cases h; assumption, .array items⟩

@[simp]
theorem wholes_object {members : List (String × Json)} : Wholes P (.object members) ↔ ∀ m ∈ members, Wholes P m.2 :=
  ⟨fun h => by cases h; assumption, .object members⟩

theorem Wholes.of_member {members : List (String × Json)} {name : String} {v : Json} (h : Wholes P (.object members))
    (hv : member? members name = some v) : Wholes P v := by
  cases h with
  | object _ h =>
    obtain ⟨m, hm, rfl⟩ := Option.map_eq_some_iff.1 hv
    exact h m (List.mem_reverse.1 (List.mem_of_find?_eq_some hm))

theorem wholes_of_readNumber {s rest : List Char} {v : Json} (h : readNumber s = .ok (v, rest)) :
    Wholes Numeral.Writable v := by
  simp only [readNumber] at h
  split_ifs at h
  · split at h <;> cases h
    exact .int _ (writable_neg.2 (writable_of_ofDecimal (by assumption)))
  · split at h <;> cases h
    exact .int _ (writable_of_ofDecimal (by assumption))
  · cases h
    exact .float _

theorem wholes_of_readWord {s rest : List Char} {v : Json} (h : readWord? s = some (v, rest)) : Wholes P v := by
  obtain ⟨w, hw, heq⟩ := Option.map_eq_some_iff.1 h
  cases heq
  have hmem := List.mem_of_find?_eq_some hw
  simp only [List.mem_cons, List.not_mem_nil, or_false] at hmem
  rcases hmem with rfl | rfl | rfl | rfl | rfl | rfl
  · exact .null
  · exact .bool true
  · exact .bool false
  all_goals exact .float _

/-- the invariant of the reader: what it accepts with so many steps, as a value, as members after some and as items
after some -/
structure AcceptsWritable (fuel : Nat) : Prop where
  value {depth s v rest} (h : readValue fuel depth s = .ok (v, rest)) : Wholes Numeral.Writable v
  members {depth soFar s v rest} (hsoFar : ∀ m ∈ soFar, Wholes Numeral.Writable m.2)
    (h : readMembers fuel depth soFar s = .ok (v, rest)) : Wholes Numeral.Writable v
  items {depth soFar s v rest} (hsoFar : ∀ w ∈ soFar, Wholes Numeral.Writable w)
    (h : readItems fuel depth soFar s = .ok (v, rest)) : Wholes Numeral.Writable v

namespace AcceptsWritable

variable {fuel depth : Nat} {s rest : List Char} {v : Json}

theorem value_succ (ih : AcceptsWritable fuel) (h : readValue (fuel + 1) depth s = .ok (v, rest)) :
    Wholes Numeral.Writable v := by
  unfold readValue at h
  split at h
  · obtain ⟨⟨text, _⟩, -, h⟩ := exists_of_bind_eq_ok h
    cases h
    exact .string text
  · cases depth with
    | zero => cases h
    | succ depth =>
      simp only at h
      split at h
      · cases h
        exact .object [] fun m hm => absurd hm List.not_mem_nil
      · exact ih.members (fun m hm => absurd hm List.not_mem_nil) h
  · cases depth with
    | zero => cases h
    | succ depth =>
      simp only at h
      split at h
      · cases h
        exact .array [] fun w hw => absurd hw List.not_mem_nil
      · exact ih.items (fun w hw => absurd hw List.not_mem_nil) h
  · split at h
    · rename_i answer hword
      cases h
      exact wholes_of_readWord hword
    · exact wholes_of_readNumber h

theorem members_succ (ih : AcceptsWritable fuel) {soFar : List (String × Json)}
    (hsoFar : ∀ m ∈ soFar, Wholes Numeral.Writable m.2) (h : readMembers (fuel + 1) depth soFar s = .ok (v, rest)) :
    Wholes Numeral.Writable v := by
  unfold readMembers at h
  split at h
  · obtain ⟨⟨name, s₁⟩, -, h⟩ := exists_of_bind_eq_ok h
    simp only at h
    split at h
    · obtain ⟨⟨value, s₂⟩, hread, h⟩ := exists_of_bind_eq_ok h
      have hmore : ∀ m ∈ (name, value) :: soFar, Wholes Numeral.Writable m.2 :=
        List.forall_mem_cons.2 ⟨ih.value hread, hsoFar⟩
      simp only at h
      split at h
      · cases h
        exact .object _ fun m hm => hmore m (List.mem_reverse.1 hm)
      · exact ih.members hmore h
      · cases h
    · cases h
  · cases h

theorem items_succ (ih : AcceptsWritable fuel) {soFar : List Json} (hsoFar : ∀ w ∈ soFar, Wholes Numeral.Writable w)
    (h : readItems (fuel + 1) depth soFar s = .ok (v, rest)) : Wholes Numeral.Writable v := by
  unfold readItems at h
  obtain ⟨⟨value, s₁⟩, hread, h⟩ := exists_of_bind_eq_ok h
  have hmore : ∀ w ∈ value :: soFar, Wholes Numeral.Writable w := List.forall_mem_cons.2 ⟨ih.value hread, hsoFar⟩
  simp only at h
  split at h
  · cases h
    exact .array _ fun w hw => hmore w (List.mem_reverse.1 hw)
  · exact ih.items hmore h
  · cases h

end AcceptsWritable

theorem acceptsWritable (fuel : Nat) : AcceptsWritable fuel := by
  induction fuel with
  | zero =>
    refine ⟨fun h => ?_, fun _ h => ?_, fun _ h => ?_⟩
    · rw [readValue] at h
      cases h
    · rw [readMembers] at h
      cases h
    · rw [readItems] at h
      cases h
  | succ fuel ih => exact ⟨ih.value_succ, ih.members_succ, ih.items_succ⟩

/-- **Whole numbers that were read are short enough to be written.** -/
theorem wholes_of_read {overflow? : String → Option String} {text : String} {v : Json}
    (h : read overflow? text = .ok v) : Wholes Numeral.Writable v := by
  have hread : ∃ rest, readText text.toList.length text.toList = .ok (v, rest) := by
    simp only [read] at h
    split at h
    · cases h
    split at h <;> cases h
    exact ⟨_, by assumption⟩
  obtain ⟨rest, hread⟩ := hread
  obtain ⟨⟨value, s₁⟩, hvalue, hread⟩ := exists_of_bind_eq_ok hread
  simp only at hread
  split at hread
  · cases hread
    exact (acceptsWritable _).value hvalue
  · cases hread

end Json

end DebugFind
