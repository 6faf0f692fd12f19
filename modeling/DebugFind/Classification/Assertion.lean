/-
Assertions about a response: it carries the markers of an expected class. A detailed response about a thread must also
show that the thread waits; a response about an object must have a fields section and, if a field is expected, that field;
a response about an address that is not safe must not identify anything. Nothing can be asserted to be unknown.
-/
import DebugFind.Failure
import DebugFind.Probe

namespace DebugFind.Classification

open DebugFind.Text

/-- the markers that a response of a class must carry -/
def required (verbose : Bool) : Classification → List String
  | .thread => if verbose then [threadMarker, waitingMarker] else [threadMarker]
  | .managedObject => [objectMarker, fieldsMarker]
  | .notSafe => [notSafeMarker]
  | .unknown => []

/-- the markers that a response of a class must not carry -/
def forbidden : Classification → List String
  | .notSafe => [threadMarker, objectMarker, fieldsMarker]
  | _ => []

/-- the description of an expected field that a response does not show -/
def missingField (text : String) : Option FieldExpectation → Except Numeral.Error (List String)
  | none => .ok []
  | some field => do
    let fields ← ObjectField.ofText text
    if ← field.isAmong fields then return [] else return [← field.describe]

/-- what an assertion finds wrong with a response -/
def differences (text : String) (expected : Classification) (verbose : Bool) (field : Option FieldExpectation) :
    Except Numeral.Error Mismatch := do
  let absent := (expected.required verbose).filter (!contains text ·)
  let fieldAbsent ← if expected = .managedObject then missingField text field else .ok []
  return ⟨expected, text, absent ++ fieldAbsent, expected.forbidden.filter (contains text ·)⟩

/-- asserts that a response is of a class -/
def check (text : String) (expected : Classification) (verbose : Bool := false)
    (field : Option FieldExpectation := none) : Except Failure Unit :=
  if expected = .unknown then .error .notAssertable
  else
    match differences text expected verbose field with
    | .error e => .error (.numeral e)
    | .ok m => if m.missing.isEmpty && m.unexpected.isEmpty then .ok () else .error (.mismatch m)

end Classification

/-- asserts that the answer to a question is of a class; unless it is said how detailed it should be, that follows from
the question -/
def ProbeResponse.check (response : ProbeResponse) (expected : Classification)
    (field : Option FieldExpectation := none) (verbose : Option Bool := none) : Except Failure Unit :=
  expected.check response.text (verbose.getD response.verbose) field

end DebugFind
