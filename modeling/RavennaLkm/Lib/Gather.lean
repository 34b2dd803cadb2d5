import Mathlib.Tactic.Common

/-!
The concatenation of `chunk 0, …, chunk (n - 1)`, and its elements when all the
chunks have one length.
-/
namespace Gather

variable {α : Type}

def gather (chunk : Nat → List α) : Nat → List α
  | 0 => []
  | n + 1 => gather chunk n ++ chunk n

@[simp] theorem gather_zero (chunk : Nat → List α) : gather chunk 0 = [] := rfl

theorem gather_succ (chunk : Nat → List α) (n : Nat) :
    gather chunk (n + 1) = gather chunk n ++ chunk n := rfl

theorem gather_congr {chunk other : Nat → List α} {n : Nat} (same : ∀ k < n, chunk k = other k) :
    gather chunk n = gather other n := by
  induction n with
  | zero => rfl
  | succ n ih => rw [gather_succ, gather_succ, ih fun k below => same k (by omega), same n (by omega)]

theorem gather_add (chunk : Nat → List α) (m n : Nat) :
    gather chunk (m + n) = gather chunk m ++ gather (fun k => chunk (m + k)) n := by
  induction n with
  | zero => simp
  | succ n ih => rw [← Nat.add_assoc, gather_succ, gather_succ, ih, List.append_assoc]

theorem mem_gather {chunk : Nat → List α} {n : Nat} {a : α} : a ∈ gather chunk n ↔ ∃ k < n, a ∈ chunk k := by
  induction n with
  | zero => simp
  | succ n ih =>
    rw [gather_succ, List.mem_append, ih]
    constructor
    · rintro (⟨k, below, isIn⟩ | isLast)
      · exact ⟨k, by omega, isIn⟩
      · exact ⟨n, by omega, isLast⟩
    · rintro ⟨k, below, isIn⟩
      by_cases last : k = n
      · subst last
        exact .inr isIn
      · exact .inl ⟨k, by omega, isIn⟩

theorem gather_mul (chunk : Nat → List α) (m n : Nat) :
    gather chunk (m * n) = gather (fun k => gather (fun r => chunk (k * n + r)) n) m := by
  induction m with
  | zero => simp
  | succ m ih => rw [Nat.succ_mul, gather_add, ih, gather_succ]

theorem gather_singleton (g : Nat → α) (n : Nat) : gather (fun k => [g k]) n = (List.range n).map g := by
  induction n with
  | zero => rfl
  | succ n ih => rw [gather_succ, ih, List.range_succ, List.map_append, List.map_singleton]

theorem block_lt {rows cols width r c i : Nat} (row : r < rows) (col : c < cols) (inside : i < width) :
    (r * cols + c) * width + i < rows * (cols * width) := by
  have block : r * cols + (c + 1) ≤ rows * cols := by
    calc r * cols + (c + 1) ≤ r * cols + cols := by omega
      _ = (r + 1) * cols := (Nat.succ_mul r cols).symm
      _ ≤ rows * cols := Nat.mul_le_mul_right cols row
  calc (r * cols + c) * width + i
    _ < (r * cols + (c + 1)) * width := by
      rw [← Nat.add_assoc (r * cols), Nat.succ_mul]
      omega
    _ ≤ rows * cols * width := Nat.mul_le_mul_right width block
    _ = rows * (cols * width) := Nat.mul_assoc ..

theorem map_range_blocks (g : Nat → α) (rows cols width : Nat) :
    (List.range (rows * (cols * width))).map g =
      gather (fun r => gather (fun c => gather (fun i => [g ((r * cols + c) * width + i)]) width) cols) rows := by
  rw [← gather_singleton, gather_mul]
  apply gather_congr
  intro r _
  rw [gather_mul]
  apply gather_congr
  intro c _
  apply gather_congr
  intro i _
  rw [← Nat.add_assoc, ← Nat.mul_assoc, ← Nat.add_mul]

theorem gather_perm {chunk other : Nat → List α} {n : Nat} (same : ∀ k < n, (chunk k).Perm (other k)) :
    (gather chunk n).Perm (gather other n) := by
  induction n with
  | zero => exact .refl _
  | succ n ih => exact (ih fun k below => same k (by omega)).append (same n (by omega))

theorem gather_append_perm (chunk other : Nat → List α) (n : Nat) :
    (gather (fun k => chunk k ++ other k) n).Perm (gather chunk n ++ gather other n) := by
  induction n with
  | zero => exact .refl _
  | succ n ih =>
    rw [gather_succ, gather_succ, gather_succ]
    apply (ih.append_right _).trans
    simp only [List.append_assoc]
    exact (List.perm_append_comm_assoc ..).append_left _

theorem gather_nil (n : Nat) : gather (fun _ => ([] : List α)) n = [] := by
  induction n with
  | zero => rfl
  | succ n ih => rw [gather_succ, ih, List.append_nil]

theorem gather_comm_perm (chunk : Nat → Nat → List α) (m n : Nat) :
    (gather (fun r => gather (chunk r) n) m).Perm (gather (fun i => gather (fun r => chunk r i) m) n) := by
  induction m with
  | zero =>
    change ([] : List α).Perm (gather (fun _ => []) n)
    rw [gather_nil]
  | succ m ih =>
    rw [gather_succ]
    exact (ih.append_right _).trans (gather_append_perm ..).symm

theorem length_gather {chunk : Nat → List α} {width n : Nat}
    (uniform : ∀ k < n, (chunk k).length = width) : (gather chunk n).length = n * width := by
  induction n with
  | zero => simp
  | succ n ih =>
    rw [gather_succ, List.length_append, ih fun k below => uniform k (by omega),
      uniform n (by omega), Nat.succ_mul]

theorem getElem?_gather {chunk : Nat → List α} {width n : Nat}
    (uniform : ∀ k < n, (chunk k).length = width) {k r : Nat} (below : k < n) (inside : r < width) :
    (gather chunk n)[k * width + r]? = (chunk k)[r]? := by
  induction n with
  | zero => omega
  | succ n ih =>
    have front := length_gather fun j (small : j < n) => uniform j (by omega)
    rw [gather_succ]
    by_cases last : k = n
    · subst last
      rw [List.getElem?_append_right (by omega), front]
      congr 1
      omega
    · have earlier : k * width + r < (gather chunk n).length := by
        have : (k + 1) * width ≤ n * width := Nat.mul_le_mul_right width (by omega)
        rw [Nat.succ_mul] at this
        omega
      rw [List.getElem?_append_left earlier]
      exact ih (fun j small => uniform j (by omega)) (by omega)

theorem getElem?_gather_blocks {cell : Nat → Nat → List α} {rows cols width r c i : Nat}
    (uniform : ∀ r c, (cell r c).length = width) (row : r < rows) (col : c < cols) (inside : i < width) :
    (gather (fun r => gather (cell r) cols) rows)[(r * cols + c) * width + i]? = (cell r c)[i]? := by
  have index : (r * cols + c) * width + i = r * (cols * width) + (c * width + i) := by
    rw [Nat.add_mul, Nat.mul_assoc, Nat.add_assoc]
  have inRow : c * width + i < cols * width := by
    have inside := block_lt Nat.one_pos col inside
    rwa [Nat.zero_mul, Nat.zero_add, Nat.one_mul] at inside
  rw [index, getElem?_gather (fun r _ => length_gather fun c _ => uniform r c) row inRow]
  exact getElem?_gather (fun c _ => uniform r c) col inside

end Gather
