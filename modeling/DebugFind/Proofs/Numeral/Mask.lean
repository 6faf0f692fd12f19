/-
Masks of ones. What a mask leaves of a number is the conjunction of their bits (`masked_eq_land`), and what `width` ones at
the low end leave is the remainder modulo the power of two (`masked_ones`). For a negative number these are the lowest
bits of the number before its absolute value, each turned over (`flip_ones`).
-/
import Mathlib.Tactic
import Mathlib.Data.Int.Bitwise
import DebugFind.Numeral.Mask

namespace DebugFind.Numeral

theorem masked_eq_land (n : Int) (mask : Nat) : masked n mask = Int.land n mask := by
  cases n with
  | ofNat m => rfl
  | negSucc m =>
    have hbits : mask ^^^ (m &&& mask) = Nat.ldiff mask m := by
      refine Nat.eq_of_testBit_eq fun i => ?_
      rw [Nat.testBit_xor, Nat.testBit_and, Nat.testBit_ldiff]
      cases m.testBit i <;> simp
    exact congrArg Int.ofNat hbits

/-- the lowest bits of a number, each turned over -/
theorem flip_ones (m width : Nat) : (2 ^ width - 1) ^^^ (m &&& (2 ^ width - 1)) = 2 ^ width - (m % 2 ^ width + 1) := by
  have hlt : m % 2 ^ width < 2 ^ width := Nat.mod_lt m (Nat.two_pow_pos width)
  refine Nat.eq_of_testBit_eq fun i => ?_
  rw [Nat.testBit_two_pow_sub_succ hlt, Nat.testBit_xor, Nat.testBit_and, Nat.testBit_two_pow_sub_one,
    Nat.testBit_mod_two_pow]
  cases decide (i < width) <;> cases m.testBit i <;> rfl

/-- **A mask of ones leaves the remainder modulo the power of two**, of a negative number too. -/
theorem masked_ones (n : Int) (width : Nat) : masked n (2 ^ width - 1) = n % 2 ^ width := by
  cases n with
  | ofNat m =>
    rw [masked, Nat.and_two_pow_sub_one_eq_mod, Int.ofNat_eq_natCast]
    push_cast
    rfl
  | negSucc m =>
    have hlt : m % 2 ^ width < 2 ^ width := Nat.mod_lt m (Nat.two_pow_pos width)
    rw [masked, flip_ones, Int.negSucc_emod m (by positivity)]
    push_cast [Nat.succ_le_of_lt hlt]
    omega

end DebugFind.Numeral
