import Mathlib.Algebra.Group.Nat.Defs
import Mathlib.Data.List.Count
import Mathlib.Data.List.Induction
import Mathlib.Tactic.Common

/-!
A sticky flag over a counter that wraps. Events count up; a tick raises the flag
if the counter has moved since the last tick, and lowers it before if it was read
since then. Readings are counted in the same way. The flag answers for every
event as long as no counter goes all the way around between two ticks.
-/
namespace StickyFlag

section History

variable {α : Type} {clears raises : α → Prop} {history : List α} {now : α}

def Since (clears raises : α → Prop) (history : List α) : Prop :=
  ∃ before v after, history = before ++ v :: after ∧ raises v ∧ ∀ w ∈ after, ¬ clears w

theorem not_since_nil : ¬ Since clears raises [] := by
  intro ⟨before, v, after, whole, _⟩
  simp at whole

theorem since_concat : Since clears raises (history ++ [now]) ↔
    raises now ∨ (¬ clears now ∧ Since clears raises history) := by
  constructor
  · intro ⟨before, v, after, whole, raised, uncleared⟩
    cases after using List.reverseRecOn with
    | nil =>
      have same := (List.append_inj' whole rfl).2
      rw [List.singleton_inj] at same
      rw [same]
      exact .inl raised
    | append_singleton after last =>
      rw [← List.cons_append, ← List.append_assoc] at whole
      obtain ⟨earlier, same⟩ := List.append_inj' whole rfl
      rw [List.singleton_inj] at same
      subst same
      right
      constructor
      · exact uncleared now (by simp)
      · exact ⟨before, v, after, earlier, raised, fun w isIn => uncleared w (by simp [isIn])⟩
  · intro raised
    rcases raised with isNow | ⟨kept, before, v, after, rfl, raised, uncleared⟩
    · exact ⟨history, now, [], rfl, isNow, by simp⟩
    · refine ⟨before, v, after ++ [now], by simp, raised, ?_⟩
      intro w isIn
      rcases List.mem_append.mp isIn with earlier | last
      · exact uncleared w earlier
      · rw [List.mem_singleton.mp last]
        exact kept

end History

inductive Happening where
  | event | quiet | tick | read
  deriving DecidableEq, Repr

structure Latch (w : Nat) where
  counter : BitVec w
  lastCounter : BitVec w
  readings : BitVec w
  lastReadings : BitVec w
  flag : Bool
  deriving DecidableEq

namespace Latch

variable {w : Nat} {l : Latch w} {ops : List Happening}

def tick (l : Latch w) : Latch w where
  counter := l.counter
  lastCounter := l.counter
  readings := l.readings
  lastReadings := l.readings
  flag := (if l.readings ≠ l.lastReadings then false else l.flag) || decide (l.counter ≠ l.lastCounter)

def step (l : Latch w) : Happening → Latch w
  | .event => { l with counter := l.counter + 1 }
  | .quiet => l
  | .tick => l.tick
  | .read => { l with readings := l.readings + 1 }

/-- Nothing has happened since the last tick. -/
structure Settled (l : Latch w) : Prop where
  counter : l.counter = l.lastCounter
  readings : l.readings = l.lastReadings

theorem add_one_add_ofNat (x : BitVec w) (n : Nat) : x + 1#w + BitVec.ofNat w n = x + BitVec.ofNat w (n + 1) := by
  rw [BitVec.ofNat_add, BitVec.add_assoc]
  exact congrArg (x + ·) (BitVec.add_comm 1#w _)

theorem foldl_of_no_tick (noTick : .tick ∉ ops) :
    ops.foldl step l = { l with
      counter := l.counter + BitVec.ofNat w (ops.count .event)
      readings := l.readings + BitVec.ofNat w (ops.count .read) } := by
  induction ops generalizing l with
  | nil => simp
  | cons op rest ih =>
    rw [List.mem_cons, not_or] at noTick
    rw [List.foldl_cons, ih noTick.2]
    cases op with
    | event => simp [step, add_one_add_ofNat]
    | quiet => simp [step]
    | tick => exact absurd rfl noTick.1
    | read => simp [step, add_one_add_ofNat]

theorem add_ofNat_ne_self {x : BitVec w} {n : Nat} (few : n < 2 ^ w) : x + BitVec.ofNat w n ≠ x ↔ n ≠ 0 := by
  constructor
  · rintro moved rfl
    exact moved (BitVec.add_zero x)
  · intro some same
    have none : BitVec.ofNat w n = 0#w := by
      calc BitVec.ofNat w n = x + BitVec.ofNat w n - x := by rw [BitVec.add_comm, BitVec.add_sub_cancel]
        _ = 0#w := by rw [same, BitVec.sub_self]
    have value := congrArg BitVec.toNat none
    rw [BitVec.toNat_ofNat, Nat.mod_eq_of_lt few] at value
    exact some value

theorem count_ne_zero {op : Happening} : ops.count op ≠ 0 ↔ op ∈ ops := by
  rw [← Nat.pos_iff_ne_zero, List.count_pos_iff]

/-- The flag after a tick: what it was, unless it was read, and the events since the tick before. -/
theorem tick_flag (settled : l.Settled) (noTick : .tick ∉ ops) (few : ops.length < 2 ^ w) :
    (ops.foldl step l).tick.flag = true ↔ (l.flag = true ∧ .read ∉ ops) ∨ .event ∈ ops := by
  have events := add_ofNat_ne_self (x := l.lastCounter) (n := ops.count .event)
    (Nat.lt_of_le_of_lt List.count_le_length few)
  have readings := add_ofNat_ne_self (x := l.lastReadings) (n := ops.count .read)
    (Nat.lt_of_le_of_lt List.count_le_length few)
  rw [count_ne_zero] at events readings
  rw [foldl_of_no_tick noTick]
  simp only [tick, settled.counter, settled.readings, events, Bool.or_eq_true, decide_eq_true_eq]
  by_cases wasRead : .read ∈ ops
  · rw [if_pos (readings.mpr wasRead)]
    simp [wasRead]
  · rw [if_neg (mt readings.mp wasRead)]
    simp [wasRead]

theorem flag_stays (up : l.flag = true) (unread : l.readings = l.lastReadings) (noRead : .read ∉ ops) :
    (ops.foldl step l).flag = true := by
  induction ops generalizing l with
  | nil => exact up
  | cons op rest ih =>
    rw [List.mem_cons, not_or] at noRead
    rw [List.foldl_cons]
    cases op with
    | event => exact ih up unread noRead.2
    | quiet => exact ih up unread noRead.2
    | tick =>
      apply ih _ _ noRead.2
      · simp [step, tick, unread, up]
      · rfl
    | read => exact absurd rfl noRead.1

/-- An event is shown from the next tick to the first reading after it. -/
theorem event_shown {later : List Happening} (settled : l.Settled) (noTick : .tick ∉ ops)
    (few : ops.length < 2 ^ w) (occurred : .event ∈ ops) (noRead : .read ∉ later) :
    (later.foldl step (ops.foldl step l).tick).flag = true := by
  apply flag_stays
  · exact (tick_flag settled noTick few).mpr (.inr occurred)
  · rfl
  · exact noRead

/-- The first tick after a reading shows what has occurred since the tick before. -/
theorem flag_after_reading (settled : l.Settled) (noTick : .tick ∉ ops) (few : ops.length < 2 ^ w)
    (wasRead : .read ∈ ops) : (ops.foldl step l).tick.flag = true ↔ .event ∈ ops := by
  rw [tick_flag settled noTick few]
  simp [wasRead]

end Latch

end StickyFlag
