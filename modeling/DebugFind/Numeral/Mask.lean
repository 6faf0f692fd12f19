/-
Masks. A whole number has bits without end; those of a negative number are the ones that the number before its absolute
value does not have, so there is no end of ones in front of them.
-/

namespace DebugFind.Numeral

/-- the bits of a number that stand in a mask -/
def masked (n : Int) (mask : Nat) : Int :=
  match n with
  | .ofNat m => (m &&& mask : Nat)
  | .negSucc m => (mask ^^^ (m &&& mask) : Nat)

end DebugFind.Numeral
