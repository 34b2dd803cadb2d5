import RavennaLkm.Lib.CheckedLoop
import RavennaLkm.Lib.Gather

/-!
Computations that read from a memory of `size` cells and log every address they
read. `Accesses log size body chunk` says that `body` reads the addresses `chunk`
from any state, and succeeds exactly when all of them are inside.
-/
namespace AccessLog
open CheckedLoop Gather

variable {ε σ τ : Type} {log : σ → List Nat} {size : Nat}

structure Accesses (log : σ → List Nat) (size : Nat) (body : σ → Except ε σ) (chunk : List Nat) : Prop where
  succeeds : (∀ a ∈ chunk, a < size) → ∀ s, Succeeds (body s)
  logged : ∀ s t, body s = .ok t → (∀ a ∈ chunk, a < size) ∧ log t = log s ++ chunk

theorem Accesses.nothing : Accesses (ε := ε) log size (.ok ·) [] where
  succeeds := fun _ s => succeeds_ok s
  logged := by
    intro s t same
    cases same
    simp

theorem Accesses.forUp {body : Nat → σ → Except ε σ} {chunk : Nat → List Nat} {n : Nat}
    (round : ∀ k < n, Accesses log size (body k) (chunk k)) :
    Accesses log size (forUp body n) (gather chunk n) := by
  induction n with
  | zero => exact .nothing
  | succ n ih =>
    have front := ih fun k below => round k (by omega)
    have last := round n (by omega)
    constructor
    · intro inside s
      rw [forUp_succ, succeeds_bind]
      obtain ⟨t, ran⟩ := front.succeeds (fun a isIn => inside a (List.mem_append_left _ isIn)) s
      exact ⟨t, ran, last.succeeds (fun a isIn => inside a (List.mem_append_right _ isIn)) t⟩
    · intro s t done
      obtain ⟨u, ran, ended⟩ := bind_eq_ok.mp done
      obtain ⟨frontInside, frontLog⟩ := front.logged s u ran
      obtain ⟨lastInside, lastLog⟩ := last.logged u t ended
      constructor
      · intro a isIn
        exact (List.mem_append.mp isIn).elim (frontInside a) (lastInside a)
      · rw [lastLog, frontLog, gather_succ, List.append_assoc]

theorem Accesses.within {inner : τ → Except ε τ} {innerLog : τ → List Nat} {chunk : List Nat} (into : σ → τ)
    (out : τ → σ) (accesses : Accesses innerLog size inner chunk) (enters : ∀ s, innerLog (into s) = log s)
    (leaves : ∀ t, log (out t) = innerLog t) : Accesses log size (fun s => out <$> inner (into s)) chunk where
  succeeds := by
    intro inside s
    obtain ⟨t, ran⟩ := accesses.succeeds inside (into s)
    exact ⟨out t, map_eq_ok.mpr ⟨t, ran, rfl⟩⟩
  logged := by
    intro s u done
    obtain ⟨t, ran, same⟩ := map_eq_ok.mp done
    obtain ⟨inside, isLog⟩ := accesses.logged (into s) t ran
    refine ⟨inside, ?_⟩
    rw [← same, leaves, isLog, enters]

end AccessLog
