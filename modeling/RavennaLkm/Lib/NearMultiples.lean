import Mathlib.Tactic.Common

/-!
Positions near a multiple of a length. A position that is closer to a multiple
than a tolerance is so from after it, by its remainder, or from before it; with
tolerances that do not overlap there is one such multiple at most.
-/
namespace NearMultiples

variable {length tolerance p k : Nat}

def Near (length tolerance p k : Nat) : Prop :=
  p < k * length + tolerance ∧ k * length < p + tolerance

theorem Near.cases (near : Near length tolerance p k) (apart : 2 * tolerance < length) :
    p % length < tolerance ∧ k = p / length ∨
      length < p % length + tolerance ∧ k = p / length + 1 := by
  obtain ⟨above, below⟩ := near
  have whole := Nat.div_add_mod' p length
  have remainder := Nat.mod_lt p (show 0 < length by omega)
  rcases Nat.lt_trichotomy k (p / length) with less | rfl | more
  · have step := Nat.mul_le_mul_right length less
    rw [Nat.succ_mul] at step
    omega
  · left
    omega
  · by_cases next : k = p / length + 1
    · subst next
      rw [Nat.succ_mul] at below
      right
      omega
    · have step := Nat.mul_le_mul_right length (show p / length + 2 ≤ k by omega)
      rw [Nat.add_mul] at step
      omega

end NearMultiples
