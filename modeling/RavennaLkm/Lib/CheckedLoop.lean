import Mathlib.Logic.Function.Basic

/-!
Computations that may fail with an `ε`, and counted loops over them. A loop is
the C form `for (k = 0; k < n; ++k) body`; the state after `n + 1` rounds is the
body applied to the state after `n`, so that facts are proved by induction on
the number of rounds.
-/
namespace CheckedLoop

variable {ε σ α β : Type}

def Succeeds (x : Except ε α) : Prop := ∃ a, x = .ok a

@[simp] theorem ok_bind (a : α) (f : α → Except ε β) : ((Except.ok a : Except ε α) >>= f) = f a := rfl

@[simp] theorem error_bind (e : ε) (f : α → Except ε β) :
    ((Except.error e : Except ε α) >>= f) = .error e := rfl

theorem bind_eq_ok {run : Except ε α} {next : α → Except ε β} {b : β} :
    (run >>= next) = .ok b ↔ ∃ a, run = .ok a ∧ next a = .ok b := by
  rcases run with e | a <;> simp

@[simp] theorem map_ok (f : α → β) (a : α) : f <$> (Except.ok a : Except ε α) = .ok (f a) := rfl

theorem map_eq_ok {run : Except ε α} {f : α → β} {b : β} :
    f <$> run = .ok b ↔ ∃ a, run = .ok a ∧ f a = b := by
  cases run with
  | error e => simp [Functor.map, Except.map]
  | ok a => simp [Functor.map, Except.map]

@[simp] theorem succeeds_ok (a : α) : Succeeds (Except.ok a : Except ε α) := ⟨a, rfl⟩

@[simp] theorem succeeds_pure (a : α) : Succeeds (pure a : Except ε α) := ⟨a, rfl⟩

@[simp] theorem not_succeeds_error (e : ε) : ¬ Succeeds (Except.error e : Except ε α) := by
  rintro ⟨a, h⟩
  cases h

theorem succeeds_bind {x : Except ε α} {f : α → Except ε β} :
    Succeeds (x >>= f) ↔ ∃ a, x = .ok a ∧ Succeeds (f a) := by
  cases x with
  | error e => simp
  | ok a => simp

theorem succeeds_guard {c : Prop} [Decidable c] {e : ε} {x : Except ε α} :
    Succeeds (if c then x else .error e) ↔ c ∧ Succeeds x := by
  split <;> simp_all

theorem Succeeds.bind {x : Except ε α} {f : α → Except ε β} (first : Succeeds x)
    (rest : ∀ a, x = .ok a → Succeeds (f a)) : Succeeds (x >>= f) := by
  obtain ⟨a, rfl⟩ := first
  exact rest a rfl

@[simp] theorem succeeds_map {x : Except ε α} (f : α → β) : Succeeds (f <$> x) ↔ Succeeds x := by
  cases x with
  | error e => exact iff_of_false (not_succeeds_error e) (not_succeeds_error e)
  | ok a => exact iff_of_true (succeeds_ok _) (succeeds_ok a)

theorem Succeeds.map {x : Except ε α} (f : α → β) (first : Succeeds x) : Succeeds (f <$> x) :=
  (succeeds_map f).mpr first

theorem succeeds_ite {c : Prop} [Decidable c] {x y : Except ε α} (yes : c → Succeeds x)
    (no : ¬ c → Succeeds y) : Succeeds (if c then x else y) := by
  split
  · rename_i holds
    exact yes holds
  · rename_i fails
    exact no fails

theorem succeeds_unless {c : Prop} [Decidable c] {a : α} {x : Except ε α} (otherwise : ¬ c → Succeeds x) :
    Succeeds (if c then .ok a else x) := succeeds_ite (fun _ => succeeds_ok a) otherwise

theorem succeeds_when {c : Prop} [Decidable c] {a : α} {x : Except ε α} (holds : c → Succeeds x) :
    Succeeds (if c then x else .ok a) := succeeds_ite holds fun _ => succeeds_ok a

def Avoids (e : ε) (x : Except ε α) : Prop := x ≠ .error e

@[simp] theorem avoids_ok (e : ε) (a : α) : Avoids e (Except.ok a : Except ε α) := fun same => nomatch same

theorem avoids_error {e e' : ε} (other : e' ≠ e) : Avoids e (Except.error e' : Except ε α) :=
  fun same => other (Except.error.inj same)

theorem Succeeds.avoids {x : Except ε α} (done : Succeeds x) (e : ε) : Avoids e x := by
  obtain ⟨a, rfl⟩ := done
  exact avoids_ok e a

theorem avoids_bind {e : ε} {x : Except ε α} {f : α → Except ε β} (first : Avoids e x)
    (rest : ∀ a, x = .ok a → Avoids e (f a)) : Avoids e (x >>= f) := by
  cases x with
  | error e' => exact fun same => first (congrArg Except.error (Except.error.inj same))
  | ok a => exact rest a rfl

theorem avoids_bind_iff {e : ε} {x : Except ε α} {f : α → Except ε β} (rest : ∀ a, Avoids e (f a)) :
    Avoids e (x >>= f) ↔ Avoids e x := by
  constructor
  · intro both first
    apply both
    rw [first]
    rfl
  · intro first
    exact avoids_bind first fun a _ => rest a

theorem avoids_guard_iff {e : ε} {c : Prop} [Decidable c] {x : Except ε α} :
    Avoids e (if c then x else .error e) ↔ c ∧ Avoids e x := by
  by_cases holds : c
  · rw [if_pos holds]
    simp [holds]
  · rw [if_neg holds]
    simp [holds, Avoids]

theorem avoids_map {e : ε} {x : Except ε α} (f : α → β) (first : Avoids e x) : Avoids e (f <$> x) := by
  cases x with
  | error e' => exact fun same => first (congrArg Except.error (Except.error.inj same))
  | ok a => exact avoids_ok e (f a)

theorem avoids_ite {e : ε} {c : Prop} [Decidable c] {x y : Except ε α} (yes : c → Avoids e x)
    (no : ¬ c → Avoids e y) : Avoids e (if c then x else y) := by
  split
  · rename_i holds
    exact yes holds
  · rename_i fails
    exact no fails

theorem avoids_unless {e : ε} {c : Prop} [Decidable c] {a : α} {x : Except ε α} (otherwise : ¬ c → Avoids e x) :
    Avoids e (if c then .ok a else x) := avoids_ite (fun _ => avoids_ok e a) otherwise

theorem avoids_when {e : ε} {c : Prop} [Decidable c] {a : α} {x : Except ε α} (holds : c → Avoids e x) :
    Avoids e (if c then x else .ok a) := avoids_ite holds fun _ => avoids_ok e a

def forUp (body : Nat → σ → Except ε σ) : Nat → σ → Except ε σ
  | 0, s => .ok s
  | n + 1, s => forUp body n s >>= body n

def iterUp (f : Nat → σ → σ) : Nat → σ → σ
  | 0, s => s
  | n + 1, s => f n (iterUp f n s)

@[simp] theorem forUp_zero (body : Nat → σ → Except ε σ) (s : σ) : forUp body 0 s = .ok s := rfl

theorem forUp_succ (body : Nat → σ → Except ε σ) (n : Nat) (s : σ) :
    forUp body (n + 1) s = forUp body n s >>= body n := rfl

@[simp] theorem iterUp_zero (f : Nat → σ → σ) (s : σ) : iterUp f 0 s = s := rfl

theorem iterUp_succ (f : Nat → σ → σ) (n : Nat) (s : σ) :
    iterUp f (n + 1) s = f n (iterUp f n s) := rfl

theorem forUp_congr {body other : Nat → σ → Except ε σ} {n : Nat} (s : σ)
    (same : ∀ k < n, ∀ t, body k t = other k t) : forUp body n s = forUp other n s := by
  induction n with
  | zero => rfl
  | succ n ih =>
    rw [forUp_succ, forUp_succ, ih fun k below => same k (by omega)]
    congr 1
    funext t
    exact same n (by omega) t

theorem forUp_add (body : Nat → σ → Except ε σ) (m n : Nat) (s : σ) :
    forUp body (m + n) s = forUp body m s >>= forUp (fun k => body (m + k)) n := by
  induction n with
  | zero => cases forUp body m s <;> rfl
  | succ n ih =>
    rw [← Nat.add_assoc, forUp_succ, ih]
    cases forUp body m s <;> rfl

theorem forUp_map {τ : Type} {body : Nat → σ → Except ε σ} {seen : Nat → τ → Except ε τ} {view : σ → τ} {n : Nat}
    (s : σ) (same : ∀ k t, view <$> body k t = seen k (view t)) : view <$> forUp body n s = forUp seen n (view s) := by
  induction n with
  | zero => rfl
  | succ n ih =>
    rw [forUp_succ, forUp_succ, ← ih]
    cases forUp body n s with
    | ok t => exact same n t
    | error fault => rfl

theorem forUp_eq_iterUp {body : Nat → σ → Except ε σ} {f : Nat → σ → σ} {n : Nat} (s : σ)
    (total : ∀ k < n, ∀ t, body k t = .ok (f k t)) : forUp body n s = .ok (iterUp f n s) := by
  induction n with
  | zero => rfl
  | succ n ih =>
    rw [forUp_succ, ih fun k below => total k (by omega), iterUp_succ]
    exact total n (by omega) _

theorem forUp_invariant (inv : Nat → σ → Prop) {body : Nat → σ → Except ε σ} {n : Nat} {s : σ}
    (start : inv 0 s)
    (step : ∀ k < n, ∀ t, inv k t → ∃ t', body k t = .ok t' ∧ inv (k + 1) t') :
    ∃ t, forUp body n s = .ok t ∧ inv n t := by
  induction n with
  | zero => exact ⟨s, rfl, start⟩
  | succ n ih =>
    obtain ⟨t, run, held⟩ := ih fun k below => step k (by omega)
    obtain ⟨t', next, held'⟩ := step n (by omega) t held
    exact ⟨t', by rw [forUp_succ, run]; exact next, held'⟩

theorem forUp_kept (inv : Nat → σ → Prop) {body : Nat → σ → Except ε σ} {n : Nat} {s t : σ} (start : inv 0 s)
    (step : ∀ k u v, k < n → inv k u → body k u = .ok v → inv (k + 1) v) (done : forUp body n s = .ok t) :
    inv n t := by
  induction n generalizing t with
  | zero =>
    cases done
    exact start
  | succ n ih =>
    obtain ⟨u, run, last⟩ := bind_eq_ok.mp done
    have held := ih (fun k u v below => step k u v (by omega)) run
    exact step n u t (by omega) held last

theorem forUp_view {τ : Type} (view : σ → τ) {body : Nat → σ → Except ε σ} {f : Nat → τ → τ}
    (step : ∀ k s t, body k s = .ok t → view t = f k (view s)) {n : Nat} {s t : σ} (done : forUp body n s = .ok t) :
    view t = iterUp f n (view s) := by
  induction n generalizing t with
  | zero =>
    cases done
    rfl
  | succ n ih =>
    obtain ⟨before, ran, last⟩ := bind_eq_ok.mp done
    rw [iterUp_succ, ← ih ran]
    exact step n before t last

/-- A loop whose rounds each ask for a condition on their number, as long as all of them were met. -/
theorem forUp_succeeds_iff (inv : Nat → σ → Prop) {cond : Nat → Prop} {body : Nat → σ → Except ε σ} {s : σ}
    (start : inv 0 s)
    (step : ∀ k t, inv k t → (cond k → Succeeds (body k t)) ∧ ∀ u, body k t = .ok u → cond k ∧ inv (k + 1) u) :
    (∀ n, ∃ t, forUp body n s = .ok t ∧ inv n t) ↔ ∀ k, cond k := by
  constructor
  · intro runs k
    obtain ⟨u, ran, -⟩ := runs (k + 1)
    rw [forUp_succ] at ran
    obtain ⟨t, front, last⟩ := bind_eq_ok.mp ran
    have held : inv k t :=
      forUp_kept inv start (fun j v w _ held next => ((step j v held).2 w next).2) front
    exact ((step k t held).2 u last).1
  · intro met n
    apply forUp_invariant inv start
    intro k _ t held
    obtain ⟨u, next⟩ := (step k t held).1 (met k)
    exact ⟨u, next, ((step k t held).2 u next).2⟩

theorem forUp_round_succeeds {body : Nat → σ → Except ε σ} {n k : Nat} {s : σ}
    (done : Succeeds (forUp body n s)) (below : k < n) :
    ∃ t, forUp body k s = .ok t ∧ Succeeds (body k t) := by
  induction n with
  | zero => omega
  | succ n ih =>
    obtain ⟨t, run, last⟩ := succeeds_bind.mp done
    by_cases same : k = n
    · subst same
      exact ⟨t, run, last⟩
    · exact ih ⟨t, run⟩ (by omega)

theorem avoids_forUp {e : ε} {body : Nat → σ → Except ε σ} (round : ∀ k s, Avoids e (body k s)) (n : Nat)
    (s : σ) : Avoids e (forUp body n s) := by
  induction n with
  | zero => exact avoids_ok e s
  | succ n ih => exact avoids_bind ih fun t _ => round n t

theorem avoids_foldlM {e : ε} {body : σ → α → Except ε σ} (round : ∀ s a, Avoids e (body s a)) (l : List α)
    (s : σ) : Avoids e (l.foldlM body s) := by
  induction l generalizing s with
  | nil => exact avoids_ok e s
  | cons a rest ih => exact avoids_bind (round s a) fun t _ => ih t

/-- A fold whose rounds all succeed from where the ones before them arrived. -/
theorem foldlM_invariant (inv : σ → Prop) {body : σ → α → Except ε σ} {l : List α} {s : σ} (start : inv s)
    (step : ∀ a ∈ l, ∀ t, inv t → ∃ t', body t a = .ok t' ∧ inv t') : ∃ t, l.foldlM body s = .ok t ∧ inv t := by
  induction l generalizing s with
  | nil => exact ⟨s, rfl, start⟩
  | cons a rest ih =>
    obtain ⟨t, first, held⟩ := step a (List.mem_cons_self ..) s start
    obtain ⟨u, run, last⟩ := ih held fun b later => step b (List.mem_cons_of_mem _ later)
    rw [List.foldlM_cons, first]
    exact ⟨u, run, last⟩

theorem mapM_ok {f : α → Except ε σ} {g : α → σ} {l : List α} (each : ∀ a ∈ l, f a = .ok (g a)) :
    l.mapM f = .ok (l.map g) := by
  induction l with
  | nil => rfl
  | cons a rest ih =>
    rw [List.mapM_cons, each a List.mem_cons_self, ok_bind, ih fun b later => each b (List.mem_cons_of_mem a later)]
    rfl

theorem iterUp_congr {f g : Nat → σ → σ} {n : Nat} (s : σ) (same : ∀ k < n, ∀ t, f k t = g k t) :
    iterUp f n s = iterUp g n s := by
  induction n with
  | zero => rfl
  | succ n ih =>
    rw [iterUp_succ, iterUp_succ, ih fun k below => same k (by omega)]
    exact same n (by omega) _

theorem iterUp_invariant (inv : Nat → σ → Prop) {f : Nat → σ → σ} {n : Nat} {s : σ}
    (start : inv 0 s) (step : ∀ k < n, ∀ t, inv k t → inv (k + 1) (f k t)) :
    inv n (iterUp f n s) := by
  induction n with
  | zero => exact start
  | succ n ih => exact step n (by omega) _ (ih fun k below => step k (by omega))

end CheckedLoop
