import Mathlib.Logic.Function.Basic
import Mathlib.Data.Nat.ModEq
import Mathlib.Tactic.Common
import RavennaLkm.Lib.CheckedLoop

/-!
What a set of writes leaves in a memory: every written cell has its value and
every other cell is as it was. The cells are named by keys of some type, so that
writes done piece by piece join to one set; and the cells of a ring, whose index
runs through its end.
-/
namespace CellWrites
open CheckedLoop

variable {κ ι β : Type}

structure Writes (inside : κ → Prop) (cell : κ → Nat) (value : κ → β) (before after : Nat → β) :
    Prop where
  written : ∀ k, inside k → after (cell k) = value k
  other : ∀ a, (∀ k, inside k → a ≠ cell k) → after a = before a

namespace Writes

variable {inside more : κ → Prop} {cell : κ → Nat} {value : κ → β} {before middle after : Nat → β}

theorem none (nothing : ∀ k, ¬ inside k) : Writes inside cell value before before :=
  ⟨fun k isInside => absurd isInside (nothing k), fun _ _ => rfl⟩

theorem update (k : κ) : Writes (· = k) cell value before (Function.update before (cell k) (value k)) := by
  constructor
  · rintro k rfl
    exact Function.update_self ..
  · intro a outside
    exact Function.update_of_ne (outside k rfl) ..

theorem congr {same : κ → Prop} (writes : Writes inside cell value before after)
    (iff : ∀ k, same k ↔ inside k) : Writes same cell value before after :=
  ⟨fun k isSame => writes.written k ((iff k).mp isSame), fun a outside =>
    writes.other a fun k isInside => outside k ((iff k).mpr isInside)⟩

/-- Writes in two steps, the second of which writes no other value to a cell of the first. -/
theorem append (first : Writes inside cell value before middle)
    (then_ : Writes more cell value middle after)
    (agree : ∀ j k, inside j → more k → cell j = cell k → value j = value k) :
    Writes (fun k => inside k ∨ more k) cell value before after := by
  constructor
  · rintro k (isInside | isMore)
    · by_cases again : ∃ j, more j ∧ cell k = cell j
      · obtain ⟨j, isMore, same⟩ := again
        rw [same, agree k j isInside isMore same]
        exact then_.written j isMore
      · rw [then_.other _ fun j isMore same => again ⟨j, isMore, same⟩]
        exact first.written k isInside
    · exact then_.written k isMore
  · intro a outside
    rw [then_.other a fun k isMore => outside k (.inr isMore)]
    exact first.other a fun k isInside => outside k (.inl isInside)

theorem reindex (writes : Writes inside cell value before after) (name : κ → ι) (cell' : ι → Nat)
    (value' : ι → β) (sameCell : ∀ k, inside k → cell' (name k) = cell k)
    (sameValue : ∀ k, inside k → value' (name k) = value k) :
    Writes (fun i => ∃ k, inside k ∧ name k = i) cell' value' before after := by
  constructor
  · rintro i ⟨k, isInside, rfl⟩
    rw [sameCell k isInside, sameValue k isInside]
    exact writes.written k isInside
  · intro a outside
    apply writes.other
    intro k isInside
    rw [← sameCell k isInside]
    exact outside _ ⟨k, isInside, rfl⟩

theorem agree {cell' : κ → Nat} {value' : κ → β} (writes : Writes inside cell value before after)
    (sameCell : ∀ k, inside k → cell' k = cell k) (sameValue : ∀ k, inside k → value' k = value k) :
    Writes inside cell' value' before after :=
  (writes.reindex id cell' value' sameCell sameValue).congr fun k =>
    ⟨fun isInside => ⟨k, isInside, rfl⟩, by rintro ⟨j, isInside, rfl⟩; exact isInside⟩

/-- Two loops, one in the other, that never write two values to one cell. -/
theorem grid {m n : Nat} {cell : Nat × Nat → Nat} {value : Nat × Nat → β} (before : Nat → β)
    (agree : ∀ r < m, ∀ i < n, ∀ r' < m, ∀ i' < n,
      cell (r, i) = cell (r', i') → value (r, i) = value (r', i')) :
    Writes (fun k => k.1 < m ∧ k.2 < n) cell value before
      (iterUp (fun r => iterUp (fun i mem => Function.update mem (cell (r, i)) (value (r, i))) n) m before) := by
  apply iterUp_invariant fun r after => Writes (fun k => k.1 < r ∧ k.2 < n) cell value before after
  · exact .none fun k isInside => by omega
  · intro r rBelow middle writes
    have row := iterUp_invariant (fun i after =>
        Writes (fun k => (k.1 < r ∧ k.2 < n) ∨ (k.1 = r ∧ k.2 < i)) cell value before after)
      (f := fun i mem => Function.update mem (cell (r, i)) (value (r, i)))
      (writes.congr fun k => by omega) (by
        intro i iBelow after written
        refine (written.append (.update (r, i)) ?_).congr ?_
        · rintro ⟨r', i'⟩ k isInside rfl same
          exact agree r' (by omega) i' (by omega) r rBelow i iBelow same
        · rintro ⟨r', i'⟩
          simp only [Prod.mk.injEq]
          omega)
    exact row.congr fun k => by omega

theorem grid_other {m n : Nat} (cell : Nat × Nat → Nat) (value : Nat × Nat → β) (before : Nat → β) {a : Nat}
    (outside : ∀ r < m, ∀ i < n, a ≠ cell (r, i)) :
    iterUp (fun r => iterUp (fun i mem => Function.update mem (cell (r, i)) (value (r, i))) n) m before a =
      before a := by
  apply iterUp_invariant (fun _ (after : Nat → β) => after a = before a)
  · rfl
  · intro r row middle kept
    apply iterUp_invariant (fun _ (after : Nat → β) => after a = before a)
    · exact kept
    · intro i column after kept
      rw [← kept]
      exact Function.update_of_ne (outside r row i column) ..

theorem grid_distinct {m n : Nat} {cell : Nat × Nat → Nat} {value : Nat × Nat → β} (before : Nat → β)
    (distinct : ∀ r < m, ∀ i < n, ∀ r' < m, ∀ i' < n, cell (r, i) = cell (r', i') → r = r' ∧ i = i') :
    Writes (fun k => k.1 < m ∧ k.2 < n) cell value before
      (iterUp (fun r => iterUp (fun i mem => Function.update mem (cell (r, i)) (value (r, i))) n) m before) := by
  apply grid
  intro r row i column r' row' i' column' same
  obtain ⟨rfl, rfl⟩ := distinct r row i column r' row' i' column' same
  rfl

end Writes

theorem ring_index {offset length i : Nat} (inside : offset < length) (once : i < length) :
    (offset + i) % length = if i < length - offset then offset + i else i - (length - offset) := by
  split
  · exact Nat.mod_eq_of_lt (by omega)
  · have past : offset + i = i - (length - offset) + length := by omega
    rw [past, Nat.add_mod_right, Nat.mod_eq_of_lt (by omega)]

theorem ring_index_injective {start length i j : Nat} (small : i < length) (small' : j < length)
    (same : (start + i) % length = (start + j) % length) : i = j := by
  have modEq : i % length = j % length := Nat.ModEq.add_left_cancel' start same
  rwa [Nat.mod_eq_of_lt small, Nat.mod_eq_of_lt small'] at modEq

end CellWrites
