import Mathlib.Data.List.Induction
import RavennaLkm.Lib.CheckedLoop

/-!
Runs of a system whose steps may fail. `Run step allowed s ops t` is a run from
`s` to `t` that performs `ops`, each in a state that allows it; every prefix of
a run is a run, so that what holds at the end of all runs holds all along them.
-/
namespace GuardedRun
open CheckedLoop

variable {ε σ Op : Type}

inductive Run (step : σ → Op → Except ε σ) (allowed : σ → Op → Prop) : σ → List Op → σ → Prop where
  | nil (s : σ) : Run step allowed s [] s
  | snoc {s t u : σ} {ops : List Op} {op : Op} (front : Run step allowed s ops t)
      (ok : allowed t op) (next : step t op = .ok u) : Run step allowed s (ops ++ [op]) u

variable {step : σ → Op → Except ε σ} {allowed : σ → Op → Prop} {s t : σ} {ops : List Op}

theorem Run.invariant (inv : σ → Prop) (run : Run step allowed s ops t) (start : inv s)
    (preserves : ∀ t op u, inv t → allowed t op → step t op = .ok u → inv u) : inv t := by
  induction run with
  | nil => exact start
  | snoc front ok next ih => exact preserves _ _ _ ih ok next

theorem Run.append {u : σ} {more : List Op} (run : Run step allowed s ops t) (rest : Run step allowed t more u) :
    Run step allowed s (ops ++ more) u := by
  induction rest with
  | nil => rwa [List.append_nil]
  | snoc front ok next ih =>
    rw [← List.append_assoc]
    exact ih.snoc ok next

theorem Run.one {op : Op} (ok : allowed s op) (next : step s op = .ok t) : Run step allowed s [op] t :=
  .snoc (.nil s) ok next

theorem Run.of_nil (run : Run step allowed s [] t) : t = s := by
  generalize noOps : ([] : List Op) = ops at run
  cases run with
  | nil => rfl
  | snoc front ok next => simp at noOps

theorem Run.of_snoc {op : Op} (run : Run step allowed s (ops ++ [op]) t) :
    ∃ u, Run step allowed s ops u ∧ allowed u op ∧ step u op = .ok t := by
  generalize more : ops ++ [op] = all at run
  cases run with
  | nil => simp at more
  | snoc front ok next =>
    obtain ⟨rfl, same⟩ := List.append_inj' more rfl
    cases same
    exact ⟨_, front, ok, next⟩

/-- Guards that ask nothing of the state are met by the operations alone. -/
theorem Run.of_all {more : σ → Op → Prop} (run : Run step allowed s ops t) (all : ∀ op ∈ ops, ∀ u, more u op) :
    Run step more s ops t := by
  induction run with
  | nil => exact .nil _
  | snoc front ok next ih =>
    have earlier := ih fun op member => all op (List.mem_append_left _ member)
    exact earlier.snoc (all _ List.mem_concat_self _) next

def guarded (refused : ε) (step : σ → Op → Except ε σ) (allowed : σ → Op → Prop)
    [∀ s op, Decidable (allowed s op)] (s : σ) (op : Op) : Except ε σ :=
  if allowed s op then step s op else .error refused

theorem Run.of_guarded [∀ s op, Decidable (allowed s op)] (refused : ε) (ops : List Op) :
    ∀ {t : σ}, ops.foldlM (guarded refused step allowed) s = .ok t → Run step allowed s ops t := by
  induction ops using List.reverseRecOn with
  | nil =>
    intro t done
    cases done
    exact .nil s
  | append_singleton front op ih =>
    intro t done
    rw [List.foldlM_append] at done
    obtain ⟨u, before, last⟩ := bind_eq_ok.mp done
    obtain ⟨v, next, same⟩ := bind_eq_ok.mp last
    cases same
    rw [guarded] at next
    split at next
    · rename_i ok
      exact .snoc (ih before) ok next
    · cases next

theorem exists_run {α : Type} (refused : ε) (step : σ → Op → Except ε σ) (allowed : σ → Op → Prop)
    [∀ s op, Decidable (allowed s op)] (s : σ) (ops : List Op) (view : σ → α) (seen : α)
    (done : view <$> ops.foldlM (guarded refused step allowed) s = .ok seen) :
    ∃ t, Run step allowed s ops t ∧ view t = seen := by
  obtain ⟨t, ran, same⟩ := map_eq_ok.mp done
  exact ⟨t, .of_guarded refused ops ran, same⟩

end GuardedRun
