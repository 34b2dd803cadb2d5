import RavennaLkm.Lib.GuardedRun

/-!
Runs of a system that are seen as runs of a part of it. A step of the system is a run
of the part, of any length; what the part keeps in its runs is then kept in those of
the system.
-/
namespace GuardedRun

variable {ε ε' σ τ Op Call : Type} {step : σ → Op → Except ε σ} {allowed : σ → Op → Prop} {s t u : σ} {ops : List Op}

theorem Run.mono {more : σ → Op → Prop} (run : Run step allowed s ops t) (weaker : ∀ s op, allowed s op → more s op) :
    Run step more s ops t := by
  induction run with
  | nil => exact .nil _
  | snoc front ok next ih => exact ih.snoc (weaker _ _ ok) next

/-- Some run goes from one state to the other. -/
def Leads (step : σ → Op → Except ε σ) (allowed : σ → Op → Prop) (s t : σ) : Prop := ∃ ops, Run step allowed s ops t

theorem Leads.refl (s : σ) : Leads step allowed s s := ⟨[], .nil s⟩

theorem Leads.trans (first : Leads step allowed s t) (then_ : Leads step allowed t u) : Leads step allowed s u := by
  obtain ⟨front, before⟩ := first
  obtain ⟨back, after⟩ := then_
  exact ⟨front ++ back, before.append after⟩

theorem Leads.one {op : Op} (ok : allowed s op) (next : step s op = .ok t) : Leads step allowed s t :=
  ⟨[op], .one ok next⟩

theorem Leads.mono {more : σ → Op → Prop} (leads : Leads step allowed s t)
    (weaker : ∀ s op, allowed s op → more s op) : Leads step more s t := by
  obtain ⟨ops, run⟩ := leads
  exact ⟨ops, run.mono weaker⟩

theorem Leads.invariant (inv : σ → Prop) (leads : Leads step allowed s t) (start : inv s)
    (preserves : ∀ t op u, inv t → allowed t op → step t op = .ok u → inv u) : inv t := by
  obtain ⟨ops, run⟩ := leads
  exact run.invariant inv start preserves

variable {view : σ → τ} {inner : τ → Call → Except ε' τ} {causes : σ → Op → τ → Call → Prop}

/-- Each step of the system is a run of the part that `view` shows, of calls which that step causes. -/
def Simulates (step : σ → Op → Except ε σ) (allowed : σ → Op → Prop) (view : σ → τ)
    (inner : τ → Call → Except ε' τ) (causes : σ → Op → τ → Call → Prop) : Prop :=
  ∀ s op s', allowed s op → step s op = .ok s' → Leads inner (causes s op) (view s) (view s')

/-- Some step of the run causes the call. -/
def CausedIn (step : σ → Op → Except ε σ) (allowed : σ → Op → Prop) (causes : σ → Op → τ → Call → Prop) (s : σ)
    (ops : List Op) (part : τ) (call : Call) : Prop :=
  ∃ front op back between, ops = front ++ op :: back ∧ Run step allowed s front between ∧ allowed between op ∧
    causes between op part call

theorem CausedIn.more {part : τ} {call : Call} (caused : CausedIn step allowed causes s ops part call) (op : Op) :
    CausedIn step allowed causes s (ops ++ [op]) part call := by
  obtain ⟨front, here, back, between, same, before, ok, asked⟩ := caused
  exact ⟨front, here, back ++ [op], between, by simp [same], before, ok, asked⟩

theorem Simulates.run (simulates : Simulates step allowed view inner causes) (run : Run step allowed s ops t) :
    Leads inner (CausedIn step allowed causes s ops) (view s) (view t) := by
  induction run with
  | nil => exact .refl _
  | @snoc t u ops op front ok next ih =>
    have earlier := ih.mono fun part call caused => caused.more op
    have here := (simulates _ _ _ ok next).mono fun part call asked =>
      (⟨ops, op, [], t, rfl, front, ok, asked⟩ : CausedIn step allowed causes s (ops ++ [op]) part call)
    exact earlier.trans here

end GuardedRun
