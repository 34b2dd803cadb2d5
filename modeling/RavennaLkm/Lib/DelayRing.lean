import Mathlib.Tactic.Common

/-!
A ring of slots of which each step reads one and then overwrites it, going around.
A step reads what was written one turn before, and in the first turn what the ring
held at the start.
-/
namespace DelayRing

variable {α : Type} {turn : Nat} {initial value ring ring' : Nat → α} {n : Nat}

def delayed (turn : Nat) (initial value : Nat → α) (n : Nat) : α :=
  if n < turn then initial n else value (n - turn)

def Holds (turn : Nat) (initial value : Nat → α) (n : Nat) (ring : Nat → α) : Prop :=
  ∀ m, n ≤ m → m < n + turn → ring (m % turn) = delayed turn initial value m

theorem holds_start (value : Nat → α) : Holds turn ring value 0 ring := by
  intro m _ below
  rw [Nat.zero_add] at below
  rw [Nat.mod_eq_of_lt below, delayed, if_pos below]

theorem Holds.read (holds : Holds turn initial value n ring) (positive : 0 < turn) :
    ring (n % turn) = delayed turn initial value n :=
  holds n (Nat.le_refl n) (by omega)

theorem Holds.write (holds : Holds turn initial value n ring) (written : ring' (n % turn) = value n)
    (kept : ∀ slot < turn, slot ≠ n % turn → ring' slot = ring slot) :
    Holds turn initial value (n + 1) ring' := by
  intro m after below
  by_cases last : m = n + turn
  · rw [last, Nat.add_mod_right, written, delayed, if_neg (by omega), Nat.add_sub_cancel]
  · have other : m % turn ≠ n % turn := by
      intro same
      have whole := Nat.sub_mod_eq_zero_of_mod_eq same
      rw [Nat.mod_eq_of_lt (by omega)] at whole
      omega
    rw [kept _ (Nat.mod_lt _ (by omega)) other]
    exact holds m (by omega) (by omega)

end DelayRing
