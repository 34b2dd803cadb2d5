import Mathlib.Tactic.Common

/-!
A counter that goes on by a fixed step modulo a bound, and is set anew where it
has an anchor. Whether its values increase is decided by the anchors and by how
many steps lie between them.
-/
namespace AnchoredCounter

variable {step modulus start : Nat} {anchor anchor' : Nat → Option Nat} {i j n x : Nat}

def value (step modulus start : Nat) (anchor : Nat → Option Nat) : Nat → Nat
  | 0 => (anchor 0).getD start
  | i + 1 => (anchor (i + 1)).getD ((value step modulus start anchor i + step) % modulus)

def Unanchored (anchor : Nat → Option Nat) (j i : Nat) : Prop := ∀ k, j < k → k ≤ i → anchor k = none

/-- Value `i` is so many steps past the last anchor, or past the start where there was none. -/
def Reaches (step start : Nat) (anchor : Nat → Option Nat) (i x : Nat) : Prop :=
  (∃ j ≤ i, ∃ b, anchor j = some b ∧ Unanchored anchor j i ∧ x = b + (i - j) * step) ∨
    ((∀ j ≤ i, anchor j = none) ∧ x = start + i * step)

/-- The anchor after value `i` is past what was reached, or the step from there stays below the bound. -/
def Advances (step modulus start : Nat) (anchor : Nat → Option Nat) (i : Nat) : Prop :=
  ∀ x, Reaches step start anchor i x →
    match anchor (i + 1) with
    | some a => x < a
    | none => x + step < modulus

theorem value_congr (same : ∀ j ≤ i, anchor' j = anchor j) :
    value step modulus start anchor' i = value step modulus start anchor i := by
  induction i with
  | zero => rw [value, value, same 0 (Nat.le_refl 0)]
  | succ i ih => rw [value, value, same _ (Nat.le_refl _), ih fun j below => same j (by omega)]

theorem reaches_zero_iff : Reaches step start anchor 0 x ↔ x = (anchor 0).getD start := by
  constructor
  · rintro (⟨j, atMost, b, isAnchor, -, rfl⟩ | ⟨free, rfl⟩)
    · obtain rfl := Nat.le_zero.mp atMost
      simp [isAnchor]
    · simp [free]
  · rintro rfl
    cases isAnchor : anchor 0 with
    | none => exact .inr ⟨fun j atMost => by rwa [Nat.le_zero.mp atMost], by simp⟩
    | some b => exact .inl ⟨0, Nat.le_refl 0, b, isAnchor, fun k after atMost => by omega, by simp⟩

theorem reaches_of_anchor {a : Nat} (isAnchor : anchor i = some a) : Reaches step start anchor i x ↔ x = a := by
  constructor
  · rintro (⟨j, atMost, b, isB, free, rfl⟩ | ⟨free, -⟩)
    · rcases Nat.lt_or_eq_of_le atMost with before | rfl
      · rw [free i before (Nat.le_refl i)] at isAnchor
        cases isAnchor
      · cases isAnchor.symm.trans isB
        simp
    · rw [free i (Nat.le_refl i)] at isAnchor
      cases isAnchor
  · rintro rfl
    exact .inl ⟨i, Nat.le_refl i, x, isAnchor, fun k after atMost => by omega, by simp⟩

theorem reaches_of_free (isFree : anchor (i + 1) = none) :
    Reaches step start anchor (i + 1) x ↔ ∃ y, Reaches step start anchor i y ∧ x = y + step := by
  constructor
  · rintro (⟨j, atMost, b, isB, free, rfl⟩ | ⟨free, rfl⟩)
    · have before : j ≤ i := by
        rcases Nat.lt_or_eq_of_le atMost with before | rfl
        · omega
        · rw [isFree] at isB
          cases isB
      refine ⟨b + (i - j) * step, .inl ⟨j, before, b, isB, fun k after below => free k after (by omega), rfl⟩, ?_⟩
      rw [show i + 1 - j = i - j + 1 by omega, Nat.succ_mul, Nat.add_assoc]
    · exact ⟨start + i * step, .inr ⟨fun j below => free j (by omega), rfl⟩, by rw [Nat.succ_mul, Nat.add_assoc]⟩
  · rintro ⟨y, ⟨j, atMost, b, isB, free, rfl⟩ | ⟨free, rfl⟩, rfl⟩
    · refine .inl ⟨j, by omega, b, isB, fun k after below => ?_, ?_⟩
      · rcases Nat.lt_or_eq_of_le below with before | rfl
        · exact free k after (by omega)
        · exact isFree
      · rw [show i + 1 - j = i - j + 1 by omega, Nat.succ_mul, Nat.add_assoc]
    · refine .inr ⟨fun j below => ?_, by rw [Nat.succ_mul, Nat.add_assoc]⟩
      rcases Nat.lt_or_eq_of_le below with before | rfl
      · exact free j (by omega)
      · exact isFree

/-- As long as each value advanced, the counter is where its last anchor and the steps since put it. -/
theorem reaches_iff (advances : ∀ k < i, Advances step modulus start anchor k) :
    Reaches step start anchor i x ↔ x = value step modulus start anchor i := by
  induction i generalizing x with
  | zero => exact reaches_zero_iff
  | succ i ih =>
    have before := fun y => @ih y fun k below => advances k (by omega)
    cases isAnchor : anchor (i + 1) with
    | some a => rw [reaches_of_anchor isAnchor, value, isAnchor, Option.getD_some]
    | none =>
      have fits := advances i (Nat.lt_succ_self i) _ ((before _).mpr rfl)
      simp only [isAnchor] at fits
      rw [reaches_of_free isAnchor, value, isAnchor, Option.getD_none, Nat.mod_eq_of_lt fits]
      simp [before]

theorem lt_mod_iff (positive : 0 < step) (small : step < modulus) (below : x < modulus) :
    x < (x + step) % modulus ↔ x + step < modulus := by
  constructor
  · intro more
    by_contra past
    rw [Nat.mod_eq_sub_mod (by omega), Nat.mod_eq_of_lt (by omega)] at more
    omega
  · intro fits
    rw [Nat.mod_eq_of_lt fits]
    omega

section

variable (positive : 0 < step) (small : step < modulus) (startBelow : start < modulus)
  (anchorsBelow : ∀ i b, anchor i = some b → b < modulus)

include startBelow anchorsBelow in
theorem value_lt (bound : 0 < modulus) (i : Nat) : value step modulus start anchor i < modulus := by
  have below : ∀ i x, x < modulus → (anchor i).getD x < modulus := by
    intro i x small
    cases isAnchor : anchor i with
    | none => exact small
    | some b => exact anchorsBelow i b isAnchor
  cases i with
  | zero => exact below 0 start startBelow
  | succ i => exact below _ _ (Nat.mod_lt _ bound)

include positive small startBelow anchorsBelow

/-- After values that advanced, the next one is greater exactly when it advances too. -/
theorem lt_succ_iff (advances : ∀ k < i, Advances step modulus start anchor k) :
    value step modulus start anchor i < value step modulus start anchor (i + 1) ↔
      Advances step modulus start anchor i := by
  have below : value step modulus start anchor i < modulus := value_lt startBelow anchorsBelow (by omega) i
  have reached : Advances step modulus start anchor i ↔
      match anchor (i + 1) with
      | some a => value step modulus start anchor i < a
      | none => value step modulus start anchor i + step < modulus := by
    simp only [Advances, reaches_iff advances, forall_eq]
  rw [reached]
  cases isAnchor : anchor (i + 1) with
  | some a => rw [value, isAnchor, Option.getD_some]
  | none => rw [value, isAnchor, Option.getD_none, lt_mod_iff positive small below]

theorem increasing_iff (n : Nat) :
    (∀ i < n, ∀ j < i, value step modulus start anchor j < value step modulus start anchor i) ↔
      ∀ i, i + 1 < n → Advances step modulus start anchor i := by
  have next := fun i => lt_succ_iff (i := i) positive small startBelow anchorsBelow
  constructor
  · intro increasing i
    induction i using Nat.strongRecOn with
    | ind i ih =>
      intro below
      exact (next i fun k earlier => ih k earlier (by omega)).mp (increasing _ below i (Nat.lt_succ_self i))
  · intro advances i below j before
    induction i with
    | zero => omega
    | succ i ih =>
      have last := (next i fun k earlier => advances k (by omega)).mpr (advances i below)
      rcases Nat.lt_or_eq_of_le (Nat.le_of_lt_succ before) with earlier | rfl
      · exact Nat.lt_trans (ih (by omega) earlier) last
      · exact last

end

end AnchoredCounter
