import Mathlib.Tactic.Common

/-!
Two legs deliver events that carry packets, each leg any packet at most once. An
event either takes effect or is passed over. Passing over is harmless exactly
when the other leg has delivered the packet before.
-/
namespace RedundantLegs

variable {α ι : Type} (leg : α → Bool) (packet : α → ι) (effective : α → Prop) {l : List α}

def Covered (l : List α) : Prop :=
  ∀ before a after, l = before ++ a :: after →
    effective a ∨ ∃ b ∈ before, packet b = packet a ∧ effective b

def Excused (l : List α) : Prop :=
  ∀ before a after, l = before ++ a :: after → ¬ effective a →
    ∃ b ∈ before, leg b ≠ leg a ∧ packet b = packet a

theorem covered_iff_excused (once : l.Pairwise fun a b => leg a = leg b → packet a ≠ packet b) :
    Covered packet effective l ↔ Excused leg packet effective l := by
  have earlier : ∀ {before a after b}, l = before ++ a :: after → b ∈ before →
      leg b = leg a → packet b ≠ packet a := by
    intro before a after b split isBefore
    rw [split, List.pairwise_append] at once
    exact once.2.2 b isBefore a (List.mem_cons_self ..)
  constructor
  · intro covered before a after split skipped
    obtain ⟨b, isBefore, same, -⟩ := (covered before a after split).resolve_left skipped
    exact ⟨b, isBefore, fun sameLeg => earlier split isBefore sameLeg same, same⟩
  · intro excused before a after split
    by_cases took : effective a
    · exact .inl took
    · obtain ⟨b, isBefore, otherLeg, same⟩ := excused before a after split took
      refine .inr ⟨b, isBefore, same, ?_⟩
      -- an earlier delivery of `a`'s packet would be the second one of its own leg
      by_contra skipped
      obtain ⟨first, between, rfl⟩ := List.append_of_mem isBefore
      obtain ⟨c, isFirst, thirdLeg, sameAgain⟩ :=
        excused first b (between ++ a :: after) (by rw [split]; simp) skipped
      have back : leg c = leg a := by
        cases isC : leg c <;> cases isB : leg b <;> cases isA : leg a <;> simp_all
      exact earlier split (List.mem_append_left _ isFirst) back (sameAgain.trans same)

end RedundantLegs
