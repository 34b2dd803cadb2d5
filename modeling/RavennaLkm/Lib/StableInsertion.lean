import Mathlib.Order.Lattice
import Mathlib.Tactic.Common

/-!
A list kept in descending order of a key, elements with one key in the order of
their insertion. `Stable key order l` says that `l` is such a list of the
elements of `order`, oldest first; it is kept by inserting a new element before
the first one with a smaller key, and by erasing an element from both lists.
-/
namespace StableInsertion

variable {α κ : Type} [LinearOrder κ] {key : α → κ} {a : α} {l order : List α}

def insertBy (key : α → κ) (a : α) : List α → List α
  | [] => [a]
  | b :: rest => if key b < key a then a :: b :: rest else b :: insertBy key a rest

structure Stable (key : α → κ) (order l : List α) : Prop where
  descending : l.Pairwise fun x y => key y ≤ key x
  among : ∀ n, l.filter (key · = n) = order.filter (key · = n)

theorem Stable.mem_iff (stable : Stable key order l) (x : α) : x ∈ l ↔ x ∈ order := by
  have here : x ∈ l.filter (key · = key x) ↔ x ∈ order.filter (key · = key x) := by
    rw [stable.among (key x)]
  simpa using here

theorem length_insertBy (key : α → κ) (a : α) (l : List α) :
    (insertBy key a l).length = l.length + 1 := by
  induction l with
  | nil => rfl
  | cons b rest ih =>
    rw [insertBy]
    split
    · rfl
    · rw [List.length_cons, ih, List.length_cons]

theorem mem_insertBy {x : α} : x ∈ insertBy key a l ↔ x = a ∨ x ∈ l := by
  induction l with
  | nil => simp [insertBy]
  | cons b rest ih =>
    rw [insertBy]
    split
    · simp
    · simp only [List.mem_cons, ih]
      tauto

theorem insertBy_descending (descending : l.Pairwise fun x y => key y ≤ key x) :
    (insertBy key a l).Pairwise fun x y => key y ≤ key x := by
  induction l with
  | nil => simp [insertBy]
  | cons b rest ih =>
    obtain ⟨first, later⟩ := List.pairwise_cons.mp descending
    rw [insertBy]
    split
    · rename_i smaller
      refine List.pairwise_cons.mpr ⟨fun x member => ?_, descending⟩
      rcases List.mem_cons.mp member with rfl | inRest
      · exact le_of_lt smaller
      · exact le_trans (first x inRest) (le_of_lt smaller)
    · rename_i notSmaller
      refine List.pairwise_cons.mpr ⟨fun x member => ?_, ih later⟩
      rcases mem_insertBy.mp member with rfl | inRest
      · exact le_of_not_gt notSmaller
      · exact first x inRest

theorem insertBy_among (descending : l.Pairwise fun x y => key y ≤ key x) (n : κ) :
    (insertBy key a l).filter (key · = n) = (l ++ [a]).filter (key · = n) := by
  induction l with
  | nil => rfl
  | cons b rest ih =>
    obtain ⟨first, later⟩ := List.pairwise_cons.mp descending
    rw [insertBy]
    split
    · rename_i smaller
      by_cases same : key a = n
      · have none : (b :: rest).filter (key · = n) = [] := by
          refine List.filter_eq_nil_iff.mpr fun x member => ?_
          have below : key x ≤ key b := by
            rcases List.mem_cons.mp member with rfl | inRest
            · exact le_refl _
            · exact first x inRest
          have apart : key x ≠ n := ne_of_lt (lt_of_le_of_lt below (same ▸ smaller))
          simpa using apart
        rw [List.filter_append, none, List.filter_cons_of_pos (by simpa using same), none]
        simp [same]
      · rw [List.filter_append, List.filter_cons_of_neg (by simpa using same)]
        simp [same]
    · rw [List.cons_append, List.filter_cons, List.filter_cons, ih later]

theorem Stable.insert (stable : Stable key order l) : Stable key (order ++ [a]) (insertBy key a l) where
  descending := insertBy_descending stable.descending
  among n := by
    rw [insertBy_among stable.descending, List.filter_append, stable.among n, List.filter_append]

theorem filter_erase [DecidableEq α] (p : α → Bool) (nodup : l.Nodup) :
    (l.erase a).filter p = (l.filter p).erase a := by
  have filtered : (l.filter p).Nodup := nodup.filter p
  rw [List.Nodup.erase_eq_filter nodup, List.Nodup.erase_eq_filter filtered, List.filter_filter,
    List.filter_filter]
  exact List.filter_congr fun x _ => Bool.and_comm _ _

theorem Stable.erase [DecidableEq α] (stable : Stable key order l) (nodup : l.Nodup)
    (orderNodup : order.Nodup) (a : α) : Stable key (order.erase a) (l.erase a) where
  descending := stable.descending.sublist List.erase_sublist
  among n := by
    rw [filter_erase _ nodup, filter_erase _ orderNodup, stable.among n]

theorem Stable.congr {other : α → κ} (stable : Stable key order l) (same : ∀ x ∈ l, other x = key x)
    (sameOrder : ∀ x ∈ order, other x = key x) : Stable other order l where
  descending := by
    refine stable.descending.imp_of_mem fun x y before => ?_
    rw [same _ x, same _ y]
    exact before
  among n := by
    have left : l.filter (other · = n) = l.filter (key · = n) :=
      List.filter_congr fun x member => by rw [same x member]
    have right : order.filter (other · = n) = order.filter (key · = n) :=
      List.filter_congr fun x member => by rw [sameOrder x member]
    rw [left, right, stable.among n]

end StableInsertion
