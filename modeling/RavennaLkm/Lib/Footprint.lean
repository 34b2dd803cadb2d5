import Mathlib.Logic.Function.Basic
import RavennaLkm.Lib.CheckedLoop

/-!
What code writes at most. `Within region free before after`: a cell outside of the
region is as it was, or holds one of the values that may be written anywhere. Any
number of steps in any order keeps this.
-/
namespace Footprint
open CheckedLoop

variable {ε α : Type} {region larger : Nat → Prop} {free : α → Prop} {before middle after : Nat → α}

def Within (region : Nat → Prop) (free : α → Prop) (before after : Nat → α) : Prop :=
  ∀ a, ¬ region a → after a = before a ∨ free (after a)

theorem Within.refl (region : Nat → Prop) (free : α → Prop) (memory : Nat → α) :
    Within region free memory memory := fun _ _ => .inl rfl

theorem Within.trans (first : Within region free before middle) (later : Within region free middle after) :
    Within region free before after := by
  intro a outside
  rcases later a outside with kept | isFree
  · rw [kept]
    exact first a outside
  · exact .inr isFree

theorem Within.mono (within : Within region free before after) (le : ∀ a, region a → larger a) :
    Within larger free before after := fun a outside => within a fun inside => outside (le a inside)

theorem Within.update {a : Nat} (inside : region a) (memory : Nat → α) (value : α) :
    Within region free memory (Function.update memory a value) := by
  intro b outside
  left
  apply Function.update_of_ne
  intro same
  rw [same] at outside
  exact outside inside

theorem Within.fill {value : α} (isFree : free value) (chosen : Nat → Prop) [DecidablePred chosen] (memory : Nat → α) :
    Within region free memory fun a => if chosen a then value else memory a := by
  intro a _
  dsimp only
  split
  · exact .inr isFree
  · exact .inl rfl

theorem Within.iterUp {f : Nat → (Nat → α) → Nat → α} {n : Nat} (memory : Nat → α)
    (each : ∀ k < n, ∀ mem, Within region free mem (f k mem)) : Within region free memory (iterUp f n memory) := by
  apply iterUp_invariant fun _ mem => Within region free memory mem
  · exact .refl _ _ _
  · intro k below mem within
    exact within.trans (each k below mem)

theorem Within.forUp {body : Nat → (Nat → α) → Except ε (Nat → α)} {n : Nat}
    (each : ∀ k < n, ∀ mem mem', body k mem = .ok mem' → Within region free mem mem')
    (done : forUp body n before = .ok after) : Within region free before after := by
  apply forUp_kept (fun _ mem => Within region free before mem) (.refl _ _ _) _ done
  intro k mem mem' below within ran
  exact within.trans (each k below mem mem' ran)

end Footprint
