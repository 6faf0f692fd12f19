/-
The classifier beside the assertions. A class has one marker that identifies it (`identifier?`). The classifier decides
for a class whose marker stands in a response unless the marker of another class does too (`ofText_of_identified`). An
assertion about a thread or an object asks for markers of that class and forbids none. So the two part where a response
that is accepted identifies another class as well: the classifier then calls it unknown.

- `ofText_of_accepted`: this is the only way in which they part, and it cannot happen where an address was refused.
- `accepted_yet_unknown`: it does happen with a thread.
-/
import DebugFind.Proofs.Classification

namespace DebugFind.Classification

open DebugFind.Text

variable {text : String} {expected : Classification} {verbose : Bool} {field : Option FieldExpectation}

/-! ## Identified classes -/

/-- the marker that identifies a class -/
def identifier? : Classification → Option String
  | .thread => some threadMarker
  | .managedObject => some objectMarker
  | .notSafe => some notSafeMarker
  | .unknown => none

/-- whether a text carries the marker that identifies a class -/
def identifiedIn (text : String) (c : Classification) : Bool := c.identifier?.any (contains text ·)

/-- whether a text identifies a class other than the one expected -/
def contradictedIn (text : String) (expected : Classification) : Bool :=
  all.any fun other => other ≠ expected && other.identifiedIn text

theorem contradictedIn_thread :
    contradictedIn text .thread = (contains text objectMarker || contains text notSafeMarker) := by
  simp [contradictedIn, all, identifiedIn, identifier?]

theorem contradictedIn_managedObject :
    contradictedIn text .managedObject = (contains text threadMarker || contains text notSafeMarker) := by
  simp [contradictedIn, all, identifiedIn, identifier?]

theorem contradictedIn_notSafe :
    contradictedIn text .notSafe = (contains text threadMarker || contains text objectMarker) := by
  simp [contradictedIn, all, identifiedIn, identifier?]

/-- the classifier decides for a class that is identified unless it is contradicted -/
theorem ofText_of_identified (h : identifiedIn text expected = true) :
    ofText text = if contradictedIn text expected then .unknown else expected := by
  cases expected with
  | thread =>
    have hthread : contains text threadMarker = true := h
    rw [contradictedIn_thread, ofText, hthread]
    cases contains text objectMarker <;> cases contains text notSafeMarker <;> rfl
  | managedObject =>
    have hobject : contains text objectMarker = true := h
    rw [contradictedIn_managedObject, ofText, hobject]
    cases contains text threadMarker <;> cases contains text notSafeMarker <;> rfl
  | notSafe =>
    have hnotSafe : contains text notSafeMarker = true := h
    rw [contradictedIn_notSafe, ofText, hnotSafe]
    cases contains text threadMarker <;> cases contains text objectMarker <;> rfl
  | unknown => cases h

/-! ## Accepted responses -/

theorem ne_unknown_of_check (h : check text expected verbose field = .ok ()) : expected ≠ .unknown := by
  intro hexpected
  rw [check, if_pos hexpected] at h
  cases h

/-- the marker that identifies a class is one that its assertion requires -/
theorem identifier_mem_required (hexpected : expected ≠ .unknown) (verbose : Bool) :
    ∃ marker ∈ expected.required verbose, expected.identifier? = some marker := by
  cases expected with
  | thread => exact ⟨threadMarker, by cases verbose <;> decide, rfl⟩
  | managedObject => exact ⟨objectMarker, List.mem_cons_self, rfl⟩
  | notSafe => exact ⟨notSafeMarker, List.mem_cons_self, rfl⟩
  | unknown => exact absurd rfl hexpected

theorem identified_of_check (h : check text expected verbose field = .ok ()) : identifiedIn text expected = true := by
  have hexpected := ne_unknown_of_check h
  obtain ⟨⟨hrequired, -⟩, -⟩ := (check_eq_ok_iff_marked hexpected).1 h
  obtain ⟨marker, hmarker, hidentifier⟩ := identifier_mem_required hexpected verbose
  rw [identifiedIn, hidentifier]
  exact hrequired marker hmarker

/-- an address that was refused is not identified in another way -/
theorem not_contradicted_of_refused (h : check text .notSafe verbose field = .ok ()) :
    contradictedIn text .notSafe = false := by
  obtain ⟨⟨-, hforbidden⟩, -⟩ := (check_eq_ok_iff_marked (by decide)).1 h
  have hthread : contains text threadMarker = false := hforbidden threadMarker (by decide)
  have hobject : contains text objectMarker = false := hforbidden objectMarker (by decide)
  rw [contradictedIn_notSafe, hthread, hobject]
  rfl

/-- **What is accepted is classified alike unless it is contradicted.** If an assertion accepts a response, the
classifier decides for the class that was expected, except for a response that identifies another class as well, which
it calls unknown. No response about a refused address is of that kind. -/
theorem ofText_of_accepted (h : check text expected verbose field = .ok ()) :
    ofText text = (if contradictedIn text expected then .unknown else expected) ∧
      (expected = .notSafe → ofText text = .notSafe) := by
  have hclass := ofText_of_identified (identified_of_check h)
  refine ⟨hclass, ?_⟩
  rintro rfl
  rw [hclass, not_contradicted_of_refused h]
  rfl

/-- an object with the field that is expected, and a line about another address -/
def objectAndRefusal : String :=
  "0x20 is an oop: MyLock\n - ---- fields (total size 2 words):\n - 'myInt' 'I' @12  12345 (0x00003039)\n" ++
    "0x0: address not safe"

/-- a response about an object that is accepted and contradicted -/
theorem ofText_of_accepted_object :
    check objectAndRefusal .managedObject false (some {}) = .ok () ∧ contradictedIn objectAndRefusal .managedObject ∧
      ofText objectAndRefusal = .unknown := by
  have hcheck : check objectAndRefusal .managedObject false (some {}) = .ok () := by
    decide +kernel
  have hcontradicted : contradictedIn objectAndRefusal .managedObject = true := by decide +kernel
  refine ⟨hcheck, hcontradicted, ?_⟩
  rw [(ofText_of_accepted hcheck).1, hcontradicted]
  rfl

/-- a thread, and a line about another address -/
def threadAndRefusal : String := "0x10 is a thread\n0x0: address not safe"

/-- **An assertion and the classifier may part**: a response is accepted as one about a thread, and called unknown. -/
theorem accepted_yet_unknown :
    check threadAndRefusal .thread = .ok () ∧ ofText threadAndRefusal = .unknown ∧
      ¬ ∀ (text : String) (expected : Classification) (verbose : Bool) (field : Option FieldExpectation),
        expected ∈ [.thread, .managedObject, .notSafe] → check text expected verbose field = .ok () →
          ofText text = expected := by
  have hcheck : check threadAndRefusal .thread = .ok () := by decide +kernel
  have hclass : ofText threadAndRefusal = .unknown := by decide +kernel
  refine ⟨hcheck, hclass, ?_⟩
  intro hagree
  have hthread := hagree threadAndRefusal .thread false none (by decide) hcheck
  rw [hclass] at hthread
  cases hthread

end DebugFind.Classification
