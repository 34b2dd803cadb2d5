import Mathlib.Algebra.Group.Int.Defs
import Mathlib.Algebra.Group.Nat.Defs
import Mathlib.Order.Basic

/-!
Signed machine words as integers, where no operation wraps around: conversions
between the widths and the two signs, and a signed correction of an unsigned word.
-/
namespace SignedWords

theorem toInt_max (a b : Int64) : (max a b).toInt = max a.toInt b.toInt := by
  have step : max a b = if a ≤ b then b else a := rfl
  rw [step]
  split
  · rename_i le
    rw [Int64.le_iff_toInt_le] at le
    omega
  · rename_i gt
    rw [Int64.le_iff_toInt_le] at gt
    omega

theorem toInt_min (a b : Int64) : (min a b).toInt = min a.toInt b.toInt := by
  have step : min a b = if a ≤ b then a else b := rfl
  rw [step]
  split
  · rename_i le
    rw [Int64.le_iff_toInt_le] at le
    omega
  · rename_i gt
    rw [Int64.le_iff_toInt_le] at gt
    omega

/-- A division that rounds toward zero does not leave a symmetric range. -/
theorem tdiv_within {x d b : Int} (pos : 0 < d) (low : -b ≤ x) (high : x ≤ b) :
    -b ≤ x.tdiv d * d ∧ x.tdiv d * d ≤ b := by
  rcases Int.le_total 0 x with nonneg | neg
  · have below := Int.ediv_mul_le x (Int.ne_of_gt pos)
    have quotient : 0 ≤ x / d * d :=
      Int.mul_nonneg (Int.ediv_nonneg nonneg (Int.le_of_lt pos)) (Int.le_of_lt pos)
    rw [Int.tdiv_eq_ediv_of_nonneg nonneg]
    omega
  · have below := Int.ediv_mul_le (-x) (Int.ne_of_gt pos)
    have quotient : 0 ≤ -x / d * d :=
      Int.mul_nonneg (Int.ediv_nonneg (by omega) (Int.le_of_lt pos)) (Int.le_of_lt pos)
    have mirrored : x.tdiv d * d = -(-x / d * d) := by
      rw [← Int.tdiv_eq_ediv_of_nonneg (by omega), Int.neg_tdiv, Int.neg_mul, Int.neg_neg]
    omega

theorem toInt_neg {a : Int64} (low : -2 ^ 63 < a.toInt) : (-a).toInt = -a.toInt := by
  have high := a.toInt_lt
  rw [Int64.toInt_neg]
  exact Int.bmod_eq_of_le_mul_two (by omega) (by omega)

theorem toInt_mul {a b : Int64} (low : -2 ^ 63 ≤ a.toInt * b.toInt) (high : a.toInt * b.toInt < 2 ^ 63) :
    (a * b).toInt = a.toInt * b.toInt := by
  rw [Int64.toInt_mul]
  exact Int.bmod_eq_of_le_mul_two (by omega) (by omega)

theorem toInt_add {a b : Int64} (low : -2 ^ 63 ≤ a.toInt + b.toInt) (high : a.toInt + b.toInt < 2 ^ 63) :
    (a + b).toInt = a.toInt + b.toInt := by
  rw [Int64.toInt_add]
  exact Int.bmod_eq_of_le_mul_two (by omega) (by omega)

theorem toInt_toInt64 (x : UInt64) : x.toInt64.toInt = (x.toNat : Int).bmod (2 ^ 64) :=
  BitVec.toInt_eq_toNat_bmod x.toInt64.toBitVec

theorem toNat_toUInt64 (x : Int64) : (x.toUInt64.toNat : Int).bmod (2 ^ 64) = x.toInt :=
  (BitVec.toInt_eq_toNat_bmod x.toBitVec).symm

theorem toInt_toInt32 {x : UInt64} (small : x.toNat < 2 ^ 31) : x.toUInt32.toInt32.toInt = x.toNat := by
  have word : x.toUInt32.toInt32.toInt = (x.toUInt32.toNat : Int).bmod (2 ^ 32) :=
    BitVec.toInt_eq_toNat_bmod x.toUInt32.toInt32.toBitVec
  rw [word, UInt64.toNat_toUInt32, Nat.mod_eq_of_lt (by omega)]
  exact Int.bmod_eq_of_le_mul_two (by omega) (by omega)

theorem toInt_mul_toUInt64 {x : Int64} {y : UInt64} (low : -2 ^ 63 ≤ x.toInt * y.toNat)
    (high : x.toInt * y.toNat < 2 ^ 63) : (x.toUInt64 * y).toInt64.toInt = x.toInt * y.toNat := by
  have wrapped : (((x.toUInt64 * y).toNat : Int)).bmod (2 ^ 64) = (x.toInt * y.toNat).bmod (2 ^ 64) := by
    rw [UInt64.toNat_mul, Int.natCast_emod, Int.emod_bmod, Int.natCast_mul, ← Int.bmod_mul_bmod,
      toNat_toUInt64]
  rw [toInt_toInt64, wrapped]
  exact Int.bmod_eq_of_le_mul_two (by omega) (by omega)

theorem toNat_add_toUInt64_emod (x : UInt64) (a : Int64) :
    ((x + a.toUInt64).toNat : Int) = (x.toNat + a.toInt) % 2 ^ 64 := by
  have signed := toNat_toUInt64 a
  have bound := a.toUInt64.toNat_lt
  rw [Int.bmod_def] at signed
  rw [UInt64.toNat_add]
  omega

theorem toNat_add_toUInt64 {x : UInt64} {a : Int64} (low : 0 ≤ x.toNat + a.toInt)
    (high : x.toNat + a.toInt < 2 ^ 64) : ((x + a.toUInt64).toNat : Int) = x.toNat + a.toInt := by
  rw [toNat_add_toUInt64_emod]
  exact Int.emod_eq_of_lt low high

theorem toNat_sub_toUInt64 (x : UInt64) (a : Int64) :
    ((x - a.toUInt64).toNat : Int) = (x.toNat - a.toInt) % 2 ^ 64 := by
  have signed := toNat_toUInt64 a
  have bound := a.toUInt64.toNat_lt
  rw [Int.bmod_def] at signed
  rw [UInt64.toNat_sub]
  omega

theorem toInt_shiftRight_16 (a : Int64) : (a >>> 16).toInt = a.toInt / 2 ^ 16 := by
  change (a.toBitVec.sshiftRight 16).toInt = _
  rw [BitVec.toInt_sshiftRight, Int.shiftRight_eq_div_pow]
  rfl

end SignedWords
