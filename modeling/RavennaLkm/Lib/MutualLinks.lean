import Mathlib.Tactic.Common

/-!
Links between the living members of a set that changes. `Mutual alive fits link`
says that every link of a living member leads to a living one it fits and that
leads back. The rules say which changes keep this.
-/
namespace MutualLinks

variable {α : Type} {alive alive' : α → Prop} {fits fits' : α → α → Prop}
  {link link' : α → Option α} {a b : α}

def Mutual (alive : α → Prop) (fits : α → α → Prop) (link : α → Option α) : Prop :=
  ∀ x, alive x → ∀ y, link x = some y → alive y ∧ fits x y ∧ link y = some x

theorem Mutual.of_none_alive (none : ∀ x, ¬ alive x) : Mutual alive fits link :=
  fun x living => absurd living (none x)

theorem Mutual.congr (mutual_ : Mutual alive fits link) (sameAlive : ∀ x, alive' x ↔ alive x)
    (sameLink : ∀ x, link' x = link x) (keeps : ∀ x y, fits x y → fits' x y) :
    Mutual alive' fits' link' := by
  intro x living y linked
  rw [sameAlive] at living
  rw [sameLink] at linked
  obtain ⟨livingY, fit, back⟩ := mutual_ x living y linked
  exact ⟨(sameAlive y).mpr livingY, keeps x y fit, (sameLink y).trans back⟩

theorem Mutual.admit (mutual_ : Mutual alive fits link) (fresh : ¬ alive a)
    (aliveOr : ∀ x, alive' x ↔ alive x ∨ x = a) (unlinked : link' a = none)
    (sameLink : ∀ x, x ≠ a → link' x = link x)
    (keeps : ∀ x y, x ≠ a → y ≠ a → fits x y → fits' x y) : Mutual alive' fits' link' := by
  intro x living y linked
  have other : x ≠ a := by
    intro same
    subst same
    rw [unlinked] at linked
    cases linked
  have living := ((aliveOr x).mp living).resolve_right other
  rw [sameLink x other] at linked
  obtain ⟨livingY, fit, back⟩ := mutual_ x living y linked
  have otherY : y ≠ a := by
    intro same
    subst same
    exact fresh livingY
  exact ⟨(aliveOr y).mpr (.inl livingY), keeps x y other otherY fit, (sameLink y otherY).trans back⟩

theorem Mutual.join (mutual_ : Mutual alive fits link) (fresh : ¬ alive a) (living : alive b)
    (free : link b = none) (aliveOr : ∀ x, alive' x ↔ alive x ∨ x = a)
    (here : link' a = some b) (there : link' b = some a)
    (sameLink : ∀ x, x ≠ a → x ≠ b → link' x = link x) (fit : fits' a b) (fitBack : fits' b a)
    (keeps : ∀ x y, x ≠ a → y ≠ a → fits x y → fits' x y) : Mutual alive' fits' link' := by
  intro x livingX y linked
  by_cases isA : x = a
  · subst isA
    cases here.symm.trans linked
    exact ⟨(aliveOr b).mpr (.inl living), fit, there⟩
  by_cases isB : x = b
  · subst isB
    cases there.symm.trans linked
    exact ⟨(aliveOr a).mpr (.inr rfl), fitBack, here⟩
  have livingX := ((aliveOr x).mp livingX).resolve_right isA
  rw [sameLink x isA isB] at linked
  obtain ⟨livingY, fitXY, back⟩ := mutual_ x livingX y linked
  have notA : y ≠ a := by
    intro same
    subst same
    exact fresh livingY
  have notB : y ≠ b := by
    intro same
    subst same
    rw [free] at back
    cases back
  exact ⟨(aliveOr y).mpr (.inl livingY), keeps x y isA notA fitXY, (sameLink y notA notB).trans back⟩

theorem Mutual.retire (mutual_ : Mutual alive fits link) (unlinked : link a = none)
    (aliveAnd : ∀ x, alive' x ↔ alive x ∧ x ≠ a) (sameLink : ∀ x, link' x = link x)
    (keeps : ∀ x y, x ≠ a → y ≠ a → fits x y → fits' x y) : Mutual alive' fits' link' := by
  intro x livingX y linked
  obtain ⟨livingX, notA⟩ := (aliveAnd x).mp livingX
  rw [sameLink] at linked
  obtain ⟨livingY, fit, back⟩ := mutual_ x livingX y linked
  have otherY : y ≠ a := by
    intro same
    subst same
    rw [unlinked] at back
    cases back
  exact ⟨(aliveAnd y).mpr ⟨livingY, otherY⟩, keeps x y notA otherY fit, (sameLink y).trans back⟩

/-- Two members that are linked with each other or with nobody lose their links. -/
theorem Mutual.unlink (mutual_ : Mutual alive fits link) (living : alive a)
    (pair : link a = some b ∨ (link a = none ∧ link b = none)) (here : link' a = none)
    (there : link' b = none) (sameLink : ∀ x, x ≠ a → x ≠ b → link' x = link x) :
    Mutual alive fits link' := by
  intro x livingX y linked
  by_cases isA : x = a
  · rw [isA, here] at linked
    cases linked
  by_cases isB : x = b
  · rw [isB, there] at linked
    cases linked
  rw [sameLink x isA isB] at linked
  obtain ⟨livingY, fit, back⟩ := mutual_ x livingX y linked
  have notA : y ≠ a := by
    intro same
    subst same
    rcases pair with joined | ⟨free, -⟩
    · exact isB (Option.some.inj (back.symm.trans joined))
    · rw [free] at back
      cases back
  have notB : y ≠ b := by
    intro same
    subst same
    rcases pair with joined | ⟨-, free⟩
    · have joinedBack := (mutual_ a living y joined).2.2
      exact isA (Option.some.inj (back.symm.trans joinedBack))
    · rw [free] at back
      cases back
  exact ⟨livingY, fit, (sameLink y notA notB).trans back⟩

end MutualLinks
