import Mathlib.Algebra.GroupWithZero.Nat
import Mathlib.Tactic.Common

/-!
One's-complement sums: an addition gives its carry back at the low end, so that
the words up to `top` stand for their residues modulo `top`, with `top` itself for
every sum that is a multiple of it and not zero. The sum with its complement is
`top`.
-/
namespace OnesComplement

variable {top x s : Nat}

def add (top a b : Nat) : Nat := if a + b ≤ top then a + b else a + b - top

def sum (top : Nat) (words : List Nat) : Nat := words.foldl (add top) 0

/-- `x` is the word for the sum `s`. -/
structure Represents (top x s : Nat) : Prop where
  word : x ≤ top
  residue : x % top = s % top
  zero : x = 0 ↔ s = 0

theorem Represents.unique {y : Nat} (first : Represents top x s) (second : Represents top y s) :
    x = y := by
  have same : x % top = y % top := first.residue.trans second.residue.symm
  by_cases none : s = 0
  · rw [first.zero.mpr none, second.zero.mpr none]
  · have above := mt first.zero.mp none
    have above' := mt second.zero.mp none
    have word := first.word
    have word' := second.word
    rcases Nat.lt_or_eq_of_le word with below | rfl
    · rcases Nat.lt_or_eq_of_le word' with below' | rfl
      · rwa [Nat.mod_eq_of_lt below, Nat.mod_eq_of_lt below'] at same
      · rw [Nat.mod_self, Nat.mod_eq_of_lt below] at same
        omega
    · rcases Nat.lt_or_eq_of_le word' with below' | same'
      · rw [Nat.mod_self, Nat.mod_eq_of_lt below'] at same
        omega
      · exact same'.symm

theorem represents_self (word : x ≤ top) : Represents top x x := ⟨word, rfl, Iff.rfl⟩

theorem Represents.add {w : Nat} (represents : Represents top x s) (word : w ≤ top) :
    Represents top (add top x w) (s + w) := by
  have bound := represents.word
  have zero := represents.zero
  unfold OnesComplement.add
  split
  · rename_i fits
    refine ⟨fits, ?_, by omega⟩
    rw [Nat.add_mod, represents.residue, ← Nat.add_mod]
  · rename_i carries
    refine ⟨by omega, ?_, by omega⟩
    rw [← Nat.mod_eq_sub_mod (by omega), Nat.add_mod, represents.residue, ← Nat.add_mod]

theorem foldl_represents {words : List Nat} (bounded : ∀ w ∈ words, w ≤ top)
    (represents : Represents top x s) :
    Represents top (words.foldl (OnesComplement.add top) x) (s + words.sum) := by
  induction words generalizing x s with
  | nil => exact represents
  | cons w rest ih =>
    rw [List.foldl_cons, List.sum_cons, ← Nat.add_assoc]
    exact ih (fun v isIn => bounded v (List.mem_cons_of_mem w isIn)) (represents.add (bounded w List.mem_cons_self))

theorem sum_represents {words : List Nat} (bounded : ∀ w ∈ words, w ≤ top) :
    Represents top (sum top words) words.sum := by
  have whole := foldl_represents bounded (represents_self (Nat.zero_le top))
  rwa [Nat.zero_add] at whole

theorem Represents.eq_sum {words : List Nat} (bounded : ∀ w ∈ words, w ≤ top)
    (represents : Represents top x words.sum) : x = sum top words :=
  represents.unique (sum_represents bounded)

def fold (top s : Nat) : Nat := s / (top + 1) + s % (top + 1)

theorem Represents.of_fold (represents : Represents top x (fold top s)) : Represents top x s := by
  have split := Nat.div_add_mod' s (top + 1)
  rw [Nat.mul_succ] at split
  have folded : s = fold top s + s / (top + 1) * top := by
    unfold fold
    omega
  have residue : s % top = fold top s % top := by
    conv_lhs => rw [folded]
    exact Nat.add_mul_mod_self_right ..
  refine ⟨represents.word, represents.residue.trans residue.symm, ?_⟩
  rw [represents.zero]
  unfold fold
  constructor
  · intro none
    obtain ⟨quotient, remainder⟩ := Nat.add_eq_zero_iff.mp none
    rw [quotient, remainder, Nat.zero_mul] at split
    exact split.symm
  · intro same
    subst same
    simp

theorem Represents.complement (represents : Represents top x s) (positive : 0 < top) :
    Represents top top (s + (top - x)) := by
  have word := represents.word
  have zero := represents.zero
  refine ⟨Nat.le_refl _, ?_, by omega⟩
  rw [Nat.add_mod, ← represents.residue, ← Nat.add_mod, Nat.add_sub_cancel' word]

theorem Represents.eq_top_iff (represents : Represents top x s) (positive : 0 < s) : x = top ↔ s % top = 0 := by
  have word := represents.word
  have zero := represents.zero
  rw [← represents.residue]
  constructor
  · intro same
    subst same
    exact Nat.mod_self _
  · intro multiple
    rcases Nat.lt_or_eq_of_le word with below | same
    · rw [Nat.mod_eq_of_lt below] at multiple
      omega
    · exact same

end OnesComplement
