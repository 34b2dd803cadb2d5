import Mathlib.Tactic.Common

/-!
The best of several values by a scan, group after group. A scan that starts anew
with every group gives the best of the last group that has a value; over two
groups that is the best of all of them exactly when it stands in the second.
-/
namespace GroupScan

variable {α : Type} {le : α → α → Prop} {pick : α → α → α} {l near far : List α} {x : α}

structure Picks (le : α → α → Prop) (pick : α → α → α) : Prop where
  refl : ∀ x, le x x
  trans : ∀ x y z, le x y → le y z → le x z
  either : ∀ x y, pick x y = x ∨ pick x y = y
  left : ∀ x y, le (pick x y) x
  right : ∀ x y, le (pick x y) y

def scan (pick : α → α → α) : List α → Bool → α → α
  | [], _, best => best
  | x :: rest, first, best => scan pick rest false (if first then x else pick best x)

def Best (le : α → α → Prop) (l : List α) (x : α) : Prop := x ∈ l ∧ ∀ y ∈ l, le x y

def Reported (le : α → α → Prop) (none : α) (l : List α) (x : α) : Prop :=
  (l = [] → x = none) ∧ (l ≠ [] → Best le l x)

theorem scan_continued (picks : Picks le pick) (l : List α) (best : α) :
    Best le (best :: l) (scan pick l false best) := by
  induction l generalizing best with
  | nil =>
    refine ⟨List.mem_cons_self, fun y isIn => ?_⟩
    rw [List.mem_singleton.mp isIn]
    exact picks.refl best
  | cons x rest ih =>
    obtain ⟨member, least⟩ := ih (pick best x)
    have below := least (pick best x) List.mem_cons_self
    change Best le (best :: x :: rest) (scan pick rest false (pick best x))
    constructor
    · rcases List.mem_cons.mp member with same | later
      · rw [same]
        rcases picks.either best x with kept | replaced
        · simp [kept]
        · simp [replaced]
      · simp [later]
    · intro y isIn
      rcases List.mem_cons.mp isIn with rfl | isIn
      · exact picks.trans _ _ _ below (picks.left y x)
      · rcases List.mem_cons.mp isIn with rfl | later
        · exact picks.trans _ _ _ below (picks.right best y)
        · exact least y (List.mem_cons_of_mem _ later)

theorem scan_best (picks : Picks le pick) (some : l ≠ []) (before : α) : Best le l (scan pick l true before) := by
  cases l with
  | nil => exact absurd rfl some
  | cons x rest => exact scan_continued picks rest x

theorem scan_reported (picks : Picks le pick) (l : List α) (none : α) :
    Reported le none l (scan pick l true none) := by
  constructor
  · intro same
    subst same
    rfl
  · intro some
    exact scan_best picks some none

theorem groups_reported_iff (picks : Picks le pick) (near far : List α) (none : α) :
    Reported le none (near ++ far) (scan pick far true (scan pick near true none)) ↔
      far = [] ∨ ∃ y ∈ far, ∀ x ∈ near, le y x := by
  by_cases empty : far = []
  · subst empty
    rw [List.append_nil]
    exact ⟨fun _ => .inl rfl, fun _ => scan_reported picks near none⟩
  · have best := scan_best picks empty (scan pick near true none)
    have some : near ++ far ≠ [] := by simp [empty]
    constructor
    · intro reported
      refine .inr ⟨_, best.1, fun x isIn => ?_⟩
      exact (reported.2 some).2 x (List.mem_append_left far isIn)
    · rintro (nothing | ⟨y, isIn, least⟩)
      · exact absurd nothing empty
      · refine ⟨fun nothing => absurd nothing some, fun _ => ⟨List.mem_append_right near best.1, ?_⟩⟩
        intro x among
        rcases List.mem_append.mp among with isNear | isFar
        · exact picks.trans _ _ _ (best.2 y isIn) (least x isNear)
        · exact best.2 x isFar

end GroupScan
