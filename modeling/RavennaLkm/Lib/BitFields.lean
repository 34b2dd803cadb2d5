import Mathlib.Algebra.Group.Nat.Defs
import Mathlib.Tactic.Common

/-!
Fields of a word: a mask of adjacent bits takes a quotient and a remainder, and
fields that do not overlap are added by `|||`.
-/
namespace BitFields

theorem and_field (n w s : Nat) : n &&& ((2 ^ w - 1) <<< s) = n / 2 ^ s % 2 ^ w * 2 ^ s := by
  rw [← Nat.shiftRight_eq_div_pow, ← Nat.shiftLeft_eq]
  apply Nat.eq_of_testBit_eq
  intro i
  simp only [Nat.testBit_and, Nat.testBit_shiftLeft, Nat.testBit_two_pow_sub_one, Nat.testBit_mod_two_pow,
    Nat.testBit_shiftRight]
  by_cases low : i < s
  · simp [Nat.not_le.mpr low]
  · have above : s + (i - s) = i := by omega
    simp [above, Nat.not_lt.mp low, Bool.and_comm]

theorem and_low (n w : Nat) : n &&& (2 ^ w - 1) = n % 2 ^ w := Nat.and_two_pow_sub_one_eq_mod n w

theorem or_fields {low : Nat} (high s : Nat) (below : low < 2 ^ s) : high * 2 ^ s ||| low = high * 2 ^ s + low := by
  rw [Nat.mul_comm, Nat.two_pow_add_eq_or_of_lt below]

end BitFields
