/-
Assertions beside the classifier, and what a failed one reports. An address that is not safe is asserted of the
responses that are classified so and have no fields section. No such response passes for a thread or an object. A thread
or an object that is classified as one passes for it, the object if its fields are there.

A failed assertion reports exactly what is wrong (`Faithful`): the required markers that are absent, an expected field
that is none of the fields, the forbidden markers that are present, and the response itself at the end of its message.

What a response says it keeps saying when text is put around it (`contains_around`): it may be contradicted then, and
its class unknown, but never another one.

- `faithful_of_check`: what a failed assertion reports.
- `refused_around`: a response that cannot be about an address that is not safe stays one that cannot.
- `assertions_exact`: how assertions, classifier and reports hang together, for every legible response.
-/
import DebugFind.Proofs.Classifier
import DebugFind.Proofs.Expectation
import DebugFind.Proofs.Text

namespace DebugFind.Classification

open DebugFind.Text DebugFind.Numeral

variable {text : String} {expected : Classification} {verbose : Bool} {field : Option FieldExpectation}

/-! ## Reports -/

/-- what an assertion says of an expected field, which counts only with an object -/
def fieldWords (expected : Classification) (field : Option FieldExpectation) (fields : List ObjectField) :
    List String :=
  if expected = .managedObject then missingWords field fields else []

/-- what a failed assertion says about a response in which these fields were found -/
structure Faithful (m : Mismatch) (text : String) (expected : Classification) (verbose : Bool)
    (field : Option FieldExpectation) (fields : List ObjectField) : Prop where
  class_eq : m.expected = expected
  text_eq : m.text = text
  /-- the markers in their order, and then the field -/
  missing : m.missing = (expected.required verbose).filter (!contains text ·) ++ fieldWords expected field fields
  unexpected : m.unexpected = expected.forbidden.filter (contains text ·)
  nonempty : m.missing ≠ [] ∨ m.unexpected ≠ []
  message : text.toList <:+ m.message.toList

theorem suffix_message (m : Mismatch) : m.text.toList <:+ m.message.toList := by
  unfold Mismatch.message
  generalize "Expected classification " ++ m.expected.name ++ ": " ++
    "; ".intercalate (Mismatch.part "missing" m.missing ++ Mismatch.part "unexpected" m.unexpected) ++
      ". Response:\n" = start
  exact ⟨start.toList, (String.toList_append ..).symm⟩

theorem absentField_eq {fields : List ObjectField} (hfields : ObjectField.ofText text = .ok fields)
    (hfield : ∀ e ∈ field, Numeral.Writable e.value) (expected : Classification) :
    absentField text expected field = .ok (fieldWords expected field fields) := by
  rw [absentField, fieldWords, missingField_eq hfields hfield]
  split_ifs <;> rfl

/-- an assertion that fails reports what is wrong -/
theorem faithful_of_check {fields : List ObjectField} (hfields : ObjectField.ofText text = .ok fields)
    (hfield : ∀ e ∈ field, Numeral.Writable e.value) (hexpected : expected ≠ .unknown) {err : Failure}
    (h : check text expected verbose field = .error err) :
    ∃ m, err = .mismatch m ∧ Faithful m text expected verbose field fields := by
  rw [check_eq hexpected (absentField_eq hfields hfield expected)] at h
  split_ifs at h with hnothing
  cases h
  exact ⟨_, rfl, rfl, rfl, rfl, rfl, not_and_or.1 hnothing, suffix_message (mismatchOf text expected verbose _)⟩

/-! ## Text put around a response -/

theorem contains_around {marker : String} (h : contains text marker = true) (before after : String) :
    contains (before ++ text ++ after) marker = true := by
  refine occurs_iff.2 ((occurs_iff.1 h).trans ?_)
  rw [String.toList_append, String.toList_append]
  exact List.infix_append _ _ _

/-- a marker that an address which is not safe forbids is reported, whatever stands around the response -/
theorem refused_around {marker : String} (hmarker : marker ∈ notSafe.forbidden) (h : contains text marker = true)
    (before after : String) (verbose : Bool) (field : Option FieldExpectation) :
    ∃ m, check (before ++ text ++ after) .notSafe verbose field = .error (.mismatch m) ∧ marker ∈ m.unexpected := by
  have hpresent : marker ∈ (mismatchOf (before ++ text ++ after) .notSafe verbose []).unexpected :=
    List.mem_filter.2 ⟨hmarker, contains_around h before after⟩
  refine ⟨_, ?_, hpresent⟩
  rw [check_eq (by decide) rfl, if_neg]
  rintro ⟨-, hnone⟩
  rw [hnone] at hpresent
  cases hpresent

theorem identifiedIn_around {c : Classification} (h : identifiedIn text c = true) (before after : String) :
    identifiedIn (before ++ text ++ after) c = true := by
  unfold identifiedIn at h ⊢
  cases hmarker : c.identifier? with
  | none =>
    rw [hmarker] at h
    cases h
  | some marker =>
    rw [hmarker] at h
    exact contains_around h before after

/-- a response that identifies a class is classified so, or is contradicted -/
theorem ofText_around {c : Classification} (h : identifiedIn text c = true) (before after : String) :
    ofText (before ++ text ++ after) = c ∨ ofText (before ++ text ++ after) = .unknown := by
  rw [ofText_of_identified (identifiedIn_around h before after)]
  split_ifs
  · exact Or.inr rfl
  · exact Or.inl rfl

/-- an assertion that forbids nothing and asks for no field passes for what is put around a response that passes -/
theorem check_around (hexpected : expected.forbidden = []) (h : check text expected verbose = .ok ())
    (before after : String) : check (before ++ text ++ after) expected verbose = .ok () := by
  have hclass := ne_unknown_of_check h
  obtain ⟨⟨hrequired, -⟩, -⟩ := (check_eq_ok_iff_marked hclass).1 h
  refine (check_eq_ok_iff_marked hclass).2 ⟨⟨?_, by simp [hexpected]⟩, fun _ => rfl⟩
  intro marker hmarker
  exact contains_around (hrequired marker hmarker) before after

/-! ## Assertions and classes -/

theorem check_notSafe_eq_ok_iff :
    check text .notSafe verbose field = .ok () ↔ ofText text = .notSafe ∧ contains text fieldsMarker = false := by
  rw [check_eq_ok_iff_marked (by decide)]
  simp only [Marked, required, forbidden, ofText, List.forall_mem_cons, List.not_mem_nil, false_imp_iff, implies_true,
    and_true, reduceCtorEq]
  cases contains text threadMarker <;> cases contains text objectMarker <;> cases contains text notSafeMarker <;> simp

/-- a response that passes for an address which is not safe identifies neither a thread nor an object -/
theorem not_identified_of_refused (h : check text .notSafe verbose field = .ok ()) {other : Classification}
    (hother : other ∈ [Classification.thread, .managedObject]) : identifiedIn text other = false := by
  have hclass := not_contradicted_of_refused h
  rw [contradictedIn_notSafe, Bool.or_eq_false_iff] at hclass
  simp only [List.mem_cons, List.not_mem_nil, or_false] at hother
  rcases hother with rfl | rfl
  · exact hclass.1
  · exact hclass.2

theorem check_of_thread (h : ofText text = .thread) : check text .thread false field = .ok () := by
  have hthread : contains text threadMarker = true := by
    revert h
    rw [ofText]
    cases contains text threadMarker <;> cases contains text objectMarker <;> cases contains text notSafeMarker <;> simp
  refine (check_eq_ok_iff_marked (by decide)).2 ⟨?_, by simp⟩
  simp [Marked, required, forbidden, hthread]

theorem check_of_managedObject {fields : List ObjectField} (hfields : ObjectField.ofText text = .ok fields)
    (hfield : ∀ e ∈ field, Numeral.Writable e.value) (h : ofText text = .managedObject)
    (hsection : contains text fieldsMarker = true) (hfound : ∀ e ∈ field, ∃ f ∈ fields, e.accepts f = .ok true) :
    check text .managedObject verbose field = .ok () := by
  have hobject : contains text objectMarker = true := by
    revert h
    rw [ofText]
    cases contains text threadMarker <;> cases contains text objectMarker <;> cases contains text notSafeMarker <;> simp
  refine (check_eq_ok_iff_marked (by decide)).2 ⟨by simp [Marked, required, forbidden, hobject, hsection], fun _ => ?_⟩
  rw [missingField_eq hfields hfield, missingWords_eq_nil_iff.2 hfound]

/-- **Assertions, classes and reports of a legible response.** An address is asserted not to be safe exactly of the
responses that are classified so and have no fields section, and these pass for nothing else. What is classified as a
thread passes for one, and so does an object with its fields. Every assertion that fails is a mismatch, which reports
exactly what is wrong. Whatever is put around the response: a marker that it has is held against it as before, and it
keeps the classes that it identifies, or becomes unknown. -/
theorem assertions_exact (hlegible : ObjectField.Legible (lines text.toList)) (verbose : Bool)
    (hfield : ∀ e ∈ field, IsWord e.value) :
    ∃ fields, ObjectField.ofText text = .ok fields ∧
      (check text .notSafe verbose field = .ok () ↔ ofText text = .notSafe ∧ contains text fieldsMarker = false) ∧
      (check text .notSafe verbose field = .ok () → ∀ other ∈ [Classification.thread, .managedObject],
        ∀ (verbose' : Bool) (field' : Option FieldExpectation), (∀ e ∈ field', IsWord e.value) →
          ∃ m, check text other verbose' field' = .error (.mismatch m)) ∧
      (ofText text = .thread → check text .thread false field = .ok ()) ∧
      (ofText text = .managedObject → contains text fieldsMarker = true →
        (∀ e ∈ field, ∃ f ∈ fields, e.accepts f = .ok true) → check text .managedObject verbose field = .ok ()) ∧
      (∀ expected, expected ≠ .unknown → ∀ err, check text expected verbose field = .error err →
        ∃ m, err = .mismatch m ∧ Faithful m text expected verbose field fields) ∧
      ∀ before after : String,
        (∀ marker ∈ notSafe.forbidden, contains text marker = true →
          ∃ m, check (before ++ text ++ after) .notSafe verbose field = .error (.mismatch m) ∧ marker ∈ m.unexpected) ∧
        (∀ c, identifiedIn text c = true →
          ofText (before ++ text ++ after) = c ∨ ofText (before ++ text ++ after) = .unknown) ∧
        ∀ expected, expected.forbidden = [] → check text expected verbose = .ok () →
          check (before ++ text ++ after) expected verbose = .ok () := by
  obtain ⟨fields, hfields⟩ := ObjectField.ofLines_of_legible false hlegible
  have hwritable {field : Option FieldExpectation} (hfield : ∀ e ∈ field, IsWord e.value) :
      ∀ e ∈ field, Numeral.Writable e.value := fun e he => writable_of_isWord (hfield e he)
  refine ⟨fields, hfields, check_notSafe_eq_ok_iff, ?_, check_of_thread,
    check_of_managedObject hfields (hwritable hfield), ?_, ?_⟩
  · intro hrefused other hother verbose' field' hfield'
    cases hcheck : check text other verbose' field' with
    | ok =>
      have hnot := not_identified_of_refused hrefused hother
      rw [identified_of_check hcheck] at hnot
      cases hnot
    | error err =>
      have hexpected : other ≠ .unknown := by
        rintro rfl
        simp at hother
      obtain ⟨m, rfl, -⟩ := faithful_of_check hfields (hwritable hfield') hexpected hcheck
      exact ⟨m, rfl⟩
  · intro expected hexpected err herr
    exact faithful_of_check hfields (hwritable hfield) hexpected herr
  · intro before after
    refine ⟨?_, ?_, ?_⟩
    · intro marker hmarker h
      exact refused_around hmarker h before after verbose field
    · intro c h
      exact ofText_around h before after
    · intro expected hforbidden h
      exact check_around hforbidden h before after

/-- an object whose field has another value than the one expected -/
def otherValue : String :=
  "0x20 is an oop: MyLock\n - ---- fields (total size 2 words):\n - 'myInt' 'I' @12  12346 (0x0000303a)"

/-- the assertion about that object fails with a faithful report -/
theorem assertions_exact_of_otherValue :
    ObjectField.Legible (lines otherValue.toList) ∧ IsWord ({} : FieldExpectation).value ∧
      ∃ fields m, ObjectField.ofText otherValue = .ok fields ∧
        check otherValue .managedObject false (some {}) = .error (.mismatch m) ∧
        Faithful m otherValue .managedObject false (some {}) fields := by
  have hlegible : ObjectField.Legible (lines otherValue.toList) := by decide +kernel
  have hword : IsWord ({} : FieldExpectation).value := by decide
  have hfails : check otherValue .managedObject false (some {}) ≠ .ok () := by decide +kernel
  refine ⟨hlegible, hword, ?_⟩
  obtain ⟨fields, hfields, -, -, -, -, hreport, -⟩ :=
    assertions_exact hlegible false (by simpa using hword : ∀ e ∈ some ({} : FieldExpectation), IsWord e.value)
  cases hcheck : check otherValue .managedObject false (some {}) with
  | ok => exact absurd hcheck hfails
  | error err =>
    obtain ⟨m, rfl, hm⟩ := hreport .managedObject (by decide) err hcheck
    exact ⟨fields, m, hfields, rfl, hm⟩

end DebugFind.Classification
