import Mathlib.Data.List.Basic

/-!
A ledger of resources that are obtained and released. Replaying it fails at a
resource that is released while nobody holds it, or obtained while it is held; a
settled ledger replays and leaves nothing held: each resource in it is released
exactly once for each time that it was obtained.
-/
namespace Ledger

inductive Entry (ρ : Type*) where
  | obtained (r : ρ)
  | released (r : ρ)
  deriving DecidableEq, Repr

variable {ρ : Type*} [DecidableEq ρ]

def replay : List (Entry ρ) → List ρ → Option (List ρ)
  | [], held => some held
  | .obtained r :: rest, held => if r ∈ held then none else replay rest (r :: held)
  | .released r :: rest, held => if r ∈ held then replay rest (held.erase r) else none

def Settled (log : List (Entry ρ)) : Prop := replay log [] = some []

instance (log : List (Entry ρ)) : Decidable (Settled log) := inferInstanceAs (Decidable (_ = _))

theorem replay_append (log later : List (Entry ρ)) (held : List ρ) :
    replay (log ++ later) held = (replay log held).bind (replay later) := by
  induction log generalizing held with
  | nil => rfl
  | cons entry rest ih =>
    cases entry with
    | obtained r =>
      simp only [List.cons_append, replay]
      split
      · rfl
      · exact ih _
    | released r =>
      simp only [List.cons_append, replay]
      split
      · exact ih _
      · rfl

theorem settled_nil : Settled ([] : List (Entry ρ)) := rfl

theorem Settled.append {log later : List (Entry ρ)} (first : Settled log) (second : Settled later) :
    Settled (log ++ later) := by
  rw [Settled, replay_append, first]
  exact second

theorem settled_once (r : ρ) : Settled [Entry.obtained r, .released r] := by simp [Settled, replay]

theorem not_settled_kept (r : ρ) : ¬ Settled [Entry.obtained r] := by simp [Settled, replay]

theorem not_settled_twice (r : ρ) : ¬ Settled [Entry.obtained r, .released r, .released r] := by
  simp [Settled, replay]

end Ledger
