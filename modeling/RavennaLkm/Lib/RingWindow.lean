import Mathlib.Data.Nat.ModEq
import Mathlib.Tactic.Common

/-!
A stream of values that is written to a ring in blocks, value `p` to the slot of
`start + p`. However long the blocks are, the ring has the last turn of the stream.
-/
namespace RingWindow

variable {α : Type} {length start n m : Nat} {value ring ring' : Nat → α}

def Keeps (length start : Nat) (value : Nat → α) (n : Nat) (ring : Nat → α) : Prop :=
  ∀ p < n, n ≤ p + length → ring ((start + p) % length) = value p

theorem keeps_zero (value : Nat → α) : Keeps length start value 0 ring :=
  fun _ below _ => absurd below (Nat.not_lt_zero _)

theorem Keeps.same (keeps : Keeps length start value n ring) (same : ∀ slot < length, ring' slot = ring slot) :
    Keeps length start value n ring' := by
  intro p below recent
  have positive : 0 < length := by omega
  rw [same _ (Nat.mod_lt _ positive)]
  exact keeps p below recent

theorem slot_unique {p q : Nat} (before : p < q) (near : q < p + length) :
    (start + p) % length ≠ (start + q) % length := by
  intro same
  have turn := (Nat.modEq_iff_dvd' (by omega)).mp same
  rw [Nat.add_sub_add_left] at turn
  exact absurd (Nat.le_of_dvd (by omega) turn) (by omega)

theorem Keeps.write (keeps : Keeps length start value n ring)
    (written : ∀ i < m, ring' ((start + (n + i)) % length) = value (n + i))
    (kept : ∀ slot < length, (∀ i < m, slot ≠ (start + (n + i)) % length) → ring' slot = ring slot) :
    Keeps length start value (n + m) ring' := by
  intro p below recent
  by_cases old : p < n
  · have positive : 0 < length := by omega
    rw [kept _ (Nat.mod_lt _ positive) fun i inBlock => slot_unique (by omega) (by omega)]
    exact keeps p old (by omega)
  · have inBlock := written (p - n) (by omega)
    rwa [Nat.add_sub_cancel' (by omega)] at inBlock

end RingWindow
