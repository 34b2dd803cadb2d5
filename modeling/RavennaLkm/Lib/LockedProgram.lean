import Mathlib.Data.List.Basic
import RavennaLkm.Lib.CheckedLoop

/-!
Programs that take locks. A program transforms a state, may fail, and leaves a
trace of the locks it takes and gives back and of its accesses to what they
protect. The trace is judged by replaying it: a lock is taken while it is free,
given back while it is held, and what it protects is touched while it is held.
-/
namespace LockedProgram
open CheckedLoop

variable {ι ε σ α β γ : Type}

inductive LockEvent (ι : Type) where
  | lock (l : ι)
  | unlock (l : ι)
  | touch (l : ι)
  deriving DecidableEq, Repr

/-- The locks held after an event; `none` is a deadlock, or an access that nothing protects. -/
def after [DecidableEq ι] (held : List ι) : LockEvent ι → Option (List ι)
  | .lock l => if l ∈ held then none else some (l :: held)
  | .unlock l => if l ∈ held then some (held.erase l) else none
  | .touch l => if l ∈ held then some held else none

def follow [DecidableEq ι] (held : List ι) (trace : List (LockEvent ι)) : Option (List ι) :=
  trace.foldlM after held

def Disciplined [DecidableEq ι] (trace : List (LockEvent ι)) : Prop := follow [] trace = some []

instance [DecidableEq ι] (trace : List (LockEvent ι)) : Decidable (Disciplined trace) :=
  inferInstanceAs (Decidable (_ = _))

structure Outcome (ι σ α : Type) where
  trace : List (LockEvent ι)
  value : α
  state : σ

def Program (ι ε σ α : Type) : Type := σ → Except ε (Outcome ι σ α)

namespace Program

instance : Monad (Program ι ε σ) where
  pure a := fun s => .ok ⟨[], a, s⟩
  bind p f := fun s => do
    let first ← p s
    let rest ← f first.value first.state
    .ok ⟨first.trace ++ rest.trace, rest.value, rest.state⟩

def lock (l : ι) : Program ι ε σ Unit := fun s => .ok ⟨[.lock l], (), s⟩
def unlock (l : ι) : Program ι ε σ Unit := fun s => .ok ⟨[.unlock l], (), s⟩

def touching (l : ι) (f : σ → σ) : Program ι ε σ Unit := fun s => .ok ⟨[.touch l], (), f s⟩

def read : Program ι ε σ σ := fun s => .ok ⟨[], s, s⟩

def work (f : σ → Except ε (α × σ)) : Program ι ε σ α := fun s => do
  let done ← f s
  .ok ⟨[], done.1, done.2⟩

def forEach (body : γ → Program ι ε σ Unit) : List γ → Program ι ε σ Unit
  | [] => pure ()
  | x :: rest => do
    body x
    forEach body rest

/-- The program without its trace. -/
def erase (p : Program ι ε σ α) (s : σ) : Except ε (α × σ) := (fun out => (out.value, out.state)) <$> p s

@[simp] theorem erase_pure (a : α) (s : σ) : (pure a : Program ι ε σ α).erase s = .ok (a, s) := rfl

@[simp] theorem erase_bind (p : Program ι ε σ α) (f : α → Program ι ε σ β) (s : σ) :
    (p >>= f).erase s = p.erase s >>= fun done => (f done.1).erase done.2 := by
  simp only [erase, Bind.bind, Except.bind, Functor.map, Except.map]
  cases p s with
  | error e => rfl
  | ok first =>
    simp only
    cases f first.value first.state <;> rfl

@[simp] theorem erase_lock (l : ι) (s : σ) : (lock l : Program ι ε σ Unit).erase s = .ok ((), s) := rfl
@[simp] theorem erase_unlock (l : ι) (s : σ) : (unlock l : Program ι ε σ Unit).erase s = .ok ((), s) := rfl
@[simp] theorem erase_touching (l : ι) (f : σ → σ) (s : σ) :
    (touching l f : Program ι ε σ Unit).erase s = .ok ((), f s) := rfl
@[simp] theorem erase_read (s : σ) : (read : Program ι ε σ σ).erase s = .ok (s, s) := rfl

@[simp] theorem erase_work (f : σ → Except ε (α × σ)) (s : σ) :
    (work f : Program ι ε σ α).erase s = f s := by
  simp only [erase, work, Bind.bind, Except.bind, Functor.map, Except.map]
  cases f s <;> rfl

theorem erase_forEach_touching (l : γ → ι) (f : γ → σ → σ) (xs : List γ) (s : σ) :
    (forEach (fun x => touching (l x) (f x)) xs : Program ι ε σ Unit).erase s =
      .ok ((), xs.foldl (fun s x => f x s) s) := by
  induction xs generalizing s with
  | nil => rfl
  | cons x rest ih =>
    rw [forEach, erase_bind, erase_touching]
    exact ih (f x s)

theorem bind_eq_ok {p : Program ι ε σ α} {f : α → Program ι ε σ β} {s : σ} {out : Outcome ι σ β}
    (done : (p >>= f) s = .ok out) :
    ∃ first rest, p s = .ok first ∧ f first.value first.state = .ok rest ∧
      out = ⟨first.trace ++ rest.trace, rest.value, rest.state⟩ := by
  obtain ⟨first, run, later⟩ := CheckedLoop.bind_eq_ok.mp done
  obtain ⟨rest, run', last⟩ := CheckedLoop.bind_eq_ok.mp later
  cases last
  exact ⟨first, rest, run, run', rfl⟩

end Program

section Rules

variable [DecidableEq ι] {P : σ → Prop} {held held' before : List ι} {l : ι} {p : Program ι ε σ α}
  {f : α → Program ι ε σ β} {Q : α → σ → Prop} {R : β → σ → Prop}
open Program

theorem follow_append (held : List ι) (t u : List (LockEvent ι)) :
    follow held (t ++ u) = follow held t >>= fun held => follow held u := List.foldlM_append ..

/-- Run with the locks `before` from a state with `P`, `p` follows the discipline and returns with the
locks `held`; `Q` is about its value and the state it leaves. -/
def Keeps (P : σ → Prop) (before : List ι) (p : Program ι ε σ α) (held : List ι) (Q : α → σ → Prop) : Prop :=
  ∀ s out, P s → p s = .ok out → follow before out.trace = some held ∧ Q out.value out.state

/-- Run with the locks `before` from a state with `P`, `p` violates the discipline when it returns. -/
def Breaks (P : σ → Prop) (before : List ι) (p : Program ι ε σ α) : Prop :=
  ∀ s out, P s → p s = .ok out → follow before out.trace = none

theorem Keeps.pure {a : α} (post : ∀ s, P s → Q a s) :
    Keeps P held (Pure.pure a : Program ι ε σ α) held Q := by
  intro s out start done
  cases done
  exact ⟨rfl, post s start⟩

theorem Keeps.bind (first : Keeps P before p held Q) (rest : ∀ a, Keeps (Q a) held (f a) held' R) :
    Keeps P before (p >>= f) held' R := by
  intro s out start done
  obtain ⟨one, two, run, run', rfl⟩ := Program.bind_eq_ok done
  obtain ⟨kept, mid⟩ := first s one start run
  rw [follow_append, kept]
  exact rest one.value one.state two mid run'

theorem Keeps.lock (free : l ∉ held) : Keeps P held (lock l : Program ι ε σ Unit) (l :: held) fun _ => P := by
  intro s out start done
  cases done
  exact ⟨by simp [follow, after, free], start⟩

theorem Keeps.unlock : Keeps P (l :: held) (unlock l : Program ι ε σ Unit) held fun _ => P := by
  intro s out start done
  cases done
  exact ⟨by simp [follow, after], start⟩

theorem Keeps.touching {g : σ → σ} {R : Unit → σ → Prop} (mine : l ∈ held) (post : ∀ s, P s → R () (g s)) :
    Keeps P held (touching l g : Program ι ε σ Unit) held R := by
  intro s out start done
  cases done
  exact ⟨by simp [follow, after, mine], post s start⟩

theorem Keeps.read : Keeps P held (read : Program ι ε σ σ) held fun a s => a = s ∧ P s := by
  intro s out start done
  cases done
  exact ⟨rfl, rfl, start⟩

theorem Keeps.work {g : σ → Except ε (α × σ)} (post : ∀ s a t, P s → g s = .ok (a, t) → Q a t) :
    Keeps P held (work g : Program ι ε σ α) held Q := by
  intro s out start done
  obtain ⟨⟨a, t⟩, run, last⟩ := CheckedLoop.bind_eq_ok.mp done
  cases last
  exact ⟨rfl, post s a t start run⟩

theorem Keeps.conseq {P' : σ → Prop} {Q' : α → σ → Prop} (kept : Keeps P before p held Q)
    (pre : ∀ s, P' s → P s) (post : ∀ a s, Q a s → Q' a s) : Keeps P' before p held Q' := by
  intro s out start done
  obtain ⟨follows, reached⟩ := kept s out (pre s start) done
  exact ⟨follows, post _ _ reached⟩

theorem Keeps.forget (kept : Keeps (fun _ => True) before p held Q) : Keeps P before p held Q :=
  kept.conseq (fun _ _ => trivial) fun _ _ post => post

theorem Keeps.ite {c : Prop} [Decidable c] {q : Program ι ε σ α} (yes : c → Keeps P before p held Q)
    (no : ¬ c → Keeps P before q held Q) : Keeps P before (if c then p else q) held Q := by
  split
  · rename_i holds
    exact yes holds
  · rename_i fails
    exact no fails

theorem Keeps.forEach {body : γ → Program ι ε σ Unit} (xs : List γ)
    (each : ∀ x ∈ xs, Keeps P held (body x) held fun _ => P) :
    Keeps P held (forEach body xs) held fun _ => P := by
  induction xs with
  | nil => exact .pure fun s start => start
  | cons x rest ih =>
    apply Keeps.bind (each x (List.mem_cons_self ..))
    intro _
    exact ih fun y inRest => each y (List.mem_cons_of_mem _ inRest)

/-- What holds of every state it starts from may be assumed of the program. -/
theorem Keeps.given (fact : Prop) (holds : ∀ s, P s → fact) (kept : fact → Keeps P before p held Q) :
    Keeps P before p held Q :=
  fun s out start done => kept (holds s start) s out start done

theorem Breaks.given (fact : Prop) (holds : ∀ s, P s → fact) (breaks : fact → Breaks P before p) :
    Breaks P before p :=
  fun s out start done => breaks (holds s start) s out start done

def Balanced (held : List ι) (p : Program ι ε σ α) : Prop :=
  Keeps (fun _ => True) held p held fun _ _ => True

theorem Keeps.balanced (kept : Keeps (fun _ => True) held p held Q) : Balanced held p :=
  kept.conseq (fun _ start => start) fun _ _ _ => trivial

theorem Balanced.bind (first : Balanced held p) (rest : ∀ a, Balanced held (f a)) :
    Balanced held (p >>= f) := Keeps.bind first rest

theorem Balanced.pure (a : α) : Balanced held (Pure.pure a : Program ι ε σ α) := Keeps.pure fun _ _ => trivial

theorem Balanced.read : Balanced held (read : Program ι ε σ σ) := Keeps.read.balanced

theorem Balanced.work (g : σ → Except ε (α × σ)) : Balanced held (work g : Program ι ε σ α) :=
  Keeps.work fun _ _ _ _ _ => trivial

theorem Balanced.touching (g : σ → σ) (mine : l ∈ held) :
    Balanced held (touching l g : Program ι ε σ Unit) := Keeps.touching mine fun _ _ => trivial

theorem Balanced.ite {c : Prop} [Decidable c] {q : Program ι ε σ α} (yes : Balanced held p)
    (no : Balanced held q) : Balanced held (if c then p else q) := Keeps.ite (fun _ => yes) fun _ => no

theorem Balanced.forEach {body : γ → Program ι ε σ Unit} (xs : List γ)
    (each : ∀ x ∈ xs, Balanced held (body x)) : Balanced held (forEach body xs) := Keeps.forEach xs each

theorem Balanced.region (free : l ∉ held) (inside : Balanced (l :: held) p)
    (rest : ∀ a, Balanced held (f a)) :
    Balanced held (lock l >>= fun _ => p >>= fun a => unlock l >>= fun _ => f a) :=
  Keeps.bind (.lock free) fun _ => Keeps.bind inside fun a => Keeps.bind .unlock fun _ => rest a

theorem Breaks.after (first : Keeps P before p held Q) (rest : ∀ a, Breaks (Q a) held (f a)) :
    Breaks P before (p >>= f) := by
  intro s out start done
  obtain ⟨one, two, run, run', rfl⟩ := Program.bind_eq_ok done
  obtain ⟨kept, mid⟩ := first s one start run
  rw [follow_append, kept]
  exact rest one.value one.state two mid run'

theorem Breaks.first (first : Breaks P before p) (f : α → Program ι ε σ β) : Breaks P before (p >>= f) := by
  intro s out start done
  obtain ⟨one, two, run, -, rfl⟩ := Program.bind_eq_ok done
  rw [follow_append, first s one start run]
  rfl

theorem Breaks.touching (g : σ → σ) (notMine : l ∉ before) :
    Breaks P before (touching l g : Program ι ε σ Unit) := by
  intro s out start done
  cases done
  simp [follow, LockedProgram.after, notMine]

end Rules

end LockedProgram
