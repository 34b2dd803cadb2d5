import Mathlib.Algebra.Order.Group.Nat
import Mathlib.Data.Int.ModEq
import Mathlib.Data.Nat.Init
import Mathlib.Logic.Function.Iterate
import Mathlib.Tactic.Common

/-!
A position in a ring that is moved on by one step at a time and wrapped with a
single subtraction. As long as a step is not longer than the ring, this is
addition modulo the length; a step never reaches over the end of the ring exactly
when both the length and the first position are multiples of it.
-/
namespace RingCursor

variable {length step start : Nat}

def advance (length step pos : Nat) : Nat := if pos + step ≥ length then pos + step - length else pos + step

theorem advance_eq_mod {pos : Nat} (inside : pos < length) (short : step ≤ length) :
    advance length step pos = (pos + step) % length := by
  unfold advance
  split
  · rw [Nat.mod_eq_sub_mod ‹_›, Nat.mod_eq_of_lt (by omega)]
  · rw [Nat.mod_eq_of_lt (by omega)]

/-- The position after `n` steps. -/
def after (length step start n : Nat) : Nat := (start + n * step) % length

@[simp] theorem after_zero (inside : start < length) : after length step start 0 = start := by
  rw [after, Nat.zero_mul, Nat.add_zero, Nat.mod_eq_of_lt inside]

theorem after_lt (positive : 0 < length) (n : Nat) : after length step start n < length := Nat.mod_lt _ positive

theorem advance_after (positive : 0 < length) (short : step ≤ length) (n : Nat) :
    advance length step (after length step start n) = after length step start (n + 1) := by
  rw [advance_eq_mod (after_lt positive n) short, after, after, Nat.mod_add_mod, Nat.succ_mul, Nat.add_assoc]

theorem after_mod_start (n : Nat) : after length step (start % length) n = after length step start n :=
  Nat.mod_add_mod ..

/-- Two cursors that started together are at one place when the steps between them are whole turns. -/
theorem after_eq_after_iff {a b : Nat} (behind : a ≤ b) :
    after length step start a = after length step start b ↔ length ∣ (b - a) * step := by
  have steps : start + a * step ≤ start + b * step := Nat.add_le_add_left (Nat.mul_le_mul_right step behind) start
  calc after length step start a = after length step start b
    _ ↔ length ∣ start + b * step - (start + a * step) := Nat.modEq_iff_dvd' steps
    _ ↔ length ∣ (b - a) * step := by rw [Nat.add_sub_add_left, ← Nat.sub_mul]

theorem add_mod_of_lt {pos more : Nat} (inside : pos % length + more < length) :
    (pos + more) % length = pos % length + more := by
  rw [← Nat.mod_add_mod, Nat.mod_eq_of_lt inside]

def Fits (length step start : Nat) : Prop := ∀ n, after length step start n + step ≤ length

theorem dvd_after (ring : step ∣ length) (aligned : step ∣ start) (n : Nat) : step ∣ after length step start n := by
  rw [after]
  exact (Nat.dvd_mod_iff ring).mpr (Nat.dvd_add aligned (Nat.dvd_mul_left step n))

theorem fits_of_dvd (positive : 0 < length) (ring : step ∣ length) (aligned : step ∣ start) :
    Fits length step start := by
  intro n
  obtain ⟨steps, isSteps⟩ := dvd_after ring aligned n
  obtain ⟨turns, isTurns⟩ := ring
  have below : after length step start n < length := after_lt positive n
  rw [isSteps] at below ⊢
  rw [isTurns] at below ⊢
  have more : steps + 1 ≤ turns := Nat.lt_of_mul_lt_mul_left below
  calc step * steps + step = step * (steps + 1) := (Nat.mul_succ step steps).symm
    _ ≤ step * turns := Nat.mul_le_mul_left step more

theorem Fits.last (fits : Fits length step start) (inside : start < length) (moves : 0 < step) :
    start + ((length - start - 1) / step + 1) * step = length := by
  let turns := (length - start - 1) / step
  have bounds := Nat.div_add_mod (length - start - 1) step
  have rest := Nat.mod_lt (length - start - 1) moves
  have commutes : step * turns = turns * step := Nat.mul_comm step turns
  change start + (turns + 1) * step = length
  have before : start + turns * step < length := by
    change step * turns + _ = _ at bounds
    omega
  have here := fits turns
  rw [after, Nat.mod_eq_of_lt before] at here
  rw [Nat.succ_mul]
  change step * turns + _ = _ at bounds
  omega

theorem fits_iff (inside : start < length) (moves : 0 < step) :
    Fits length step start ↔ step ∣ length ∧ step ∣ start := by
  constructor
  · intro fits
    have reached := fits.last inside moves
    generalize (length - start - 1) / step + 1 = first at reached
    -- after the first turn the cursor starts again from zero
    have again : Fits length step 0 := by
      intro n
      have here := fits (first + n)
      have turned : after length step start (first + n) = after length step 0 n := by
        rw [after, after, Nat.add_mul, ← Nat.add_assoc, reached, Nat.add_mod_left, Nat.zero_add]
      rwa [turned] at here
    have whole := again.last (by omega) moves
    have ring : step ∣ length := by
      rw [← whole, Nat.zero_add]
      exact Nat.dvd_mul_left step _
    refine ⟨ring, ?_⟩
    rw [← reached] at ring
    exact (Nat.dvd_add_left (Nat.dvd_mul_left step first)).mp ring
  · rintro ⟨ring, aligned⟩
    exact fits_of_dvd (by omega) ring aligned

theorem exists_step_over (ring : step ∣ length) (aligned : step ∣ start) {pos : Nat} (inside : pos < length) :
    ∃ n < length / step, after length step start n ≤ pos ∧ pos < after length step start n + step := by
  obtain ⟨turns, rfl⟩ := ring
  obtain ⟨first, rfl⟩ := aligned
  have moves : 0 < step := Nat.pos_of_mul_pos_right (Nat.zero_lt_of_lt inside)
  have steps : step * turns / step = turns := Nat.mul_div_cancel_left turns moves
  have below : pos / step < turns := Nat.div_lt_of_lt_mul inside
  have phase : first % turns < turns := Nat.mod_lt first (Nat.zero_lt_of_lt below)
  refine ⟨(pos / step + (turns - first % turns)) % turns, ?_, ?_⟩
  · rw [steps]
    exact Nat.mod_lt _ (Nat.zero_lt_of_lt below)
  · have reached : (first + (pos / step + (turns - first % turns)) % turns) % turns = pos / step := by
      have parts := Nat.div_add_mod first turns
      calc (first + (pos / step + (turns - first % turns)) % turns) % turns
        _ = (first + (pos / step + (turns - first % turns))) % turns := Nat.add_mod_mod ..
        _ = (pos / step + turns * (first / turns + 1)) % turns := by
          congr 1
          rw [Nat.mul_succ]
          omega
        _ = pos / step := by rw [Nat.add_mul_mod_self_left, Nat.mod_eq_of_lt below]
    have place : after (step * turns) step (step * first) ((pos / step + (turns - first % turns)) % turns) =
        step * (pos / step) := by
      unfold after
      rw [Nat.mul_comm _ step, ← Nat.mul_add, Nat.mul_mod_mul_left, reached]
    have parts := Nat.div_add_mod pos step
    have rest := Nat.mod_lt pos moves
    rw [place]
    omega

end RingCursor
