import RavennaLkm.Lib.GuardedRun

/-!
Two computations side by side. `Agree R x y` relates what `x` and `y` return,
when both return; two runs that perform the same operations from related states
stay related all along.
-/
namespace PairedRuns
open CheckedLoop GuardedRun

variable {ε α β γ δ σ τ Op : Type}

structure Agree (R : α → β → Prop) (x : Except ε α) (y : Except ε β) : Prop where
  both : ∀ a b, x = .ok a → y = .ok b → R a b

variable {R : α → β → Prop} {S : γ → δ → Prop} {x : Except ε α} {y : Except ε β}

theorem agree_ok {a : α} {b : β} (related : R a b) : Agree R (.ok a : Except ε α) (.ok b : Except ε β) := by
  constructor
  intro a' b' first second
  cases first
  cases second
  exact related

theorem agree_error (e : ε) (y : Except ε β) : Agree R (.error e : Except ε α) y := by
  constructor
  intro a b first
  cases first

theorem agree_same {x y : Except ε α} (same : y = x) : Agree (fun a b => b = a) x y := by
  constructor
  intro a b first second
  rw [same, first] at second
  exact (Except.ok.inj second).symm

theorem Agree.bind {f : α → Except ε γ} {g : β → Except ε δ} (first : Agree R x y)
    (rest : ∀ a b, R a b → Agree S (f a) (g b)) : Agree S (x >>= f) (y >>= g) := by
  constructor
  intro c d left right
  obtain ⟨a, isA, fromA⟩ := bind_eq_ok.mp left
  obtain ⟨b, isB, fromB⟩ := bind_eq_ok.mp right
  exact (rest a b (first.both a b isA isB)).both c d fromA fromB

theorem Agree.map {f : α → γ} {g : β → δ} (first : Agree R x y) (rest : ∀ a b, R a b → S (f a) (g b)) :
    Agree S (f <$> x) (g <$> y) := by
  constructor
  intro c d left right
  obtain ⟨a, isA, rfl⟩ := map_eq_ok.mp left
  obtain ⟨b, isB, rfl⟩ := map_eq_ok.mp right
  exact rest a b (first.both a b isA isB)

theorem agree_ite {p q : Prop} [Decidable p] [Decidable q] {x' : Except ε α} {y' : Except ε β}
    (same : q ↔ p) (yes : p → Agree R x y) (no : ¬ p → Agree R x' y') :
    Agree R (if p then x else x') (if q then y else y') := by
  by_cases holds : p
  · rw [if_pos holds, if_pos (same.mpr holds)]
    exact yes holds
  · rw [if_neg holds, if_neg (mt same.mp holds)]
    exact no holds

theorem run_related {step : σ → Op → Except ε σ} {step' : τ → Op → Except ε τ} {allowed : σ → Op → Prop}
    {allowed' : τ → Op → Prop} {R : σ → τ → Prop} {s s₁ : σ} {t t₁ : τ} {ops : List Op}
    (first : Run step allowed s ops s₁) (second : Run step' allowed' t ops t₁) (start : R s t)
    (each : ∀ u v op, R u v → allowed u op → Agree R (step u op) (step' v op)) : R s₁ t₁ := by
  induction first generalizing t₁ with
  | nil =>
    rw [second.of_nil]
    exact start
  | snoc front ok next ih =>
    obtain ⟨v, front', -, next'⟩ := second.of_snoc
    exact (each _ v _ (ih front') ok).both _ _ next next'

end PairedRuns
