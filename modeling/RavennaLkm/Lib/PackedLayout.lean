import Mathlib.Algebra.GroupWithZero.Nat
import Mathlib.Tactic.Common

/-!
Structures without padding: a layout is a list of fields, each of which takes
`size` cells, one after the other. A field that comes into the layout between
two others moves only those behind it.
-/
namespace PackedLayout

variable {φ β : Type} [DecidableEq φ] {size : φ → Nat} {layout front back : List φ} {f g : φ}
  {cells value : List β} {pos : Nat}

def sizeof (size : φ → Nat) (layout : List φ) : Nat := (layout.map size).sum

def offsetof (size : φ → Nat) : List φ → φ → Nat
  | [], _ => 0
  | g :: rest, f => if g = f then 0 else size g + offsetof size rest f

def readField (size : φ → Nat) (layout : List φ) (cells : List β) (f : φ) : List β :=
  (cells.drop (offsetof size layout f)).take (size f)

/-- `memcpy` of `value` to `pos`. -/
def patch (cells : List β) (pos : Nat) (value : List β) : List β :=
  cells.take pos ++ value ++ cells.drop (pos + value.length)

omit [DecidableEq φ] in
theorem sizeof_cons (size : φ → Nat) (g : φ) (layout : List φ) :
    sizeof size (g :: layout) = size g + sizeof size layout := by simp [sizeof]

theorem offsetof_end (size : φ → Nat) (isIn : f ∈ layout) :
    offsetof size layout f + size f ≤ sizeof size layout := by
  induction layout with
  | nil => simp at isIn
  | cons g rest ih =>
    rw [sizeof_cons, offsetof]
    split
    · rename_i same
      rw [same]
      omega
    · rename_i other
      have later := ih ((List.mem_cons.mp isIn).resolve_left (Ne.symm other))
      omega

theorem offsetof_front (isIn : f ∈ front) : offsetof size (front ++ back) f = offsetof size front f := by
  induction front with
  | nil => simp at isIn
  | cons g rest ih =>
    rw [List.cons_append, offsetof, offsetof]
    split
    · rfl
    · rename_i other
      rw [ih ((List.mem_cons.mp isIn).resolve_left (Ne.symm other))]

theorem offsetof_back (notIn : f ∉ front) :
    offsetof size (front ++ back) f = sizeof size front + offsetof size back f := by
  induction front with
  | nil => simp [sizeof]
  | cons g rest ih =>
    rw [List.mem_cons, not_or] at notIn
    rw [List.cons_append, offsetof, if_neg (Ne.symm notIn.1), ih notIn.2, sizeof_cons, Nat.add_assoc]

theorem apart (size : φ → Nat) (first : f ∈ layout) (second : g ∈ layout) (other : f ≠ g) :
    offsetof size layout f + size f ≤ offsetof size layout g ∨
      offsetof size layout g + size g ≤ offsetof size layout f := by
  induction layout with
  | nil => simp at first
  | cons h rest ih =>
    rw [offsetof, offsetof]
    by_cases isFirst : h = f
    · rw [if_pos isFirst, if_neg (by rw [isFirst]; exact other), isFirst]
      omega
    · rw [if_neg isFirst]
      by_cases isSecond : h = g
      · rw [if_pos isSecond, isSecond]
        omega
      · rw [if_neg isSecond]
        have later := ih ((List.mem_cons.mp first).resolve_left (Ne.symm isFirst))
          ((List.mem_cons.mp second).resolve_left (Ne.symm isSecond))
        omega

theorem patch_append {before old : List β} (after : List β) (isPos : before.length = pos)
    (same : old.length = value.length) :
    patch (before ++ old ++ after) pos value = before ++ value ++ after := by
  unfold patch
  rw [← isPos, ← same, ← List.length_append, List.drop_left]
  simp

theorem read_patched (isSize : value.length = size g) (inside : offsetof size layout g ≤ cells.length) :
    readField size layout (patch cells (offsetof size layout g) value) g = value := by
  unfold readField patch
  rw [List.append_assoc, List.drop_append_of_le_length (by simp [inside]), ← isSize]
  simp

omit [DecidableEq φ] in
theorem length_patch (inside : pos + value.length ≤ cells.length) : (patch cells pos value).length = cells.length := by
  simp only [patch, List.length_append, List.length_take, List.length_drop]
  omega

theorem getElem?_patch (inside : pos ≤ cells.length) (k : Nat) : (patch cells pos value)[k]? =
    if pos ≤ k ∧ k < pos + value.length then value[k - pos]? else cells[k]? := by
  unfold patch
  rw [List.append_assoc, List.getElem?_append, List.getElem?_append, List.length_take_of_le inside]
  split
  · rename_i before
    rw [if_neg (by omega), List.getElem?_take_of_lt before]
  · rename_i notBefore
    by_cases here : k < pos + value.length
    · rw [if_pos (by omega), if_pos ⟨by omega, here⟩]
    · rw [if_neg (by omega), if_neg (by omega), List.getElem?_drop]
      congr 1
      omega

theorem getElem?_readField (size : φ → Nat) (layout : List φ) (cells : List β) (f : φ) (k : Nat) :
    (readField size layout cells f)[k]? = if k < size f then cells[offsetof size layout f + k]? else none := by
  unfold readField
  rw [List.getElem?_take]
  split
  · rw [List.getElem?_drop]
  · rfl

theorem read_patch_other (first : f ∈ layout) (second : g ∈ layout) (other : f ≠ g)
    (isSize : value.length = size g) (inside : offsetof size layout g ≤ cells.length) :
    readField size layout (patch cells (offsetof size layout g) value) f = readField size layout cells f := by
  apply List.ext_getElem?
  intro k
  have distinct := apart size first second other
  rw [getElem?_readField, getElem?_readField, getElem?_patch inside, isSize]
  split
  · rw [if_neg (by omega)]
  · rfl

def insertAt (size : φ → Nat) (front : List φ) (cells value : List β) : List β :=
  cells.take (sizeof size front) ++ value ++ cells.drop (sizeof size front)

theorem read_inserted (new : g ∉ front) (isSize : value.length = size g)
    (inside : sizeof size front ≤ cells.length) :
    readField size (front ++ g :: back) (insertAt size front cells value) g = value := by
  unfold readField insertAt
  have start : offsetof size (front ++ g :: back) g = sizeof size front := by
    rw [offsetof_back new, offsetof, if_pos rfl, Nat.add_zero]
  rw [start, List.append_assoc, List.drop_append_of_le_length (by simp [inside]), ← isSize]
  simp

theorem read_insert (other : f ≠ g) (isSize : value.length = size g)
    (inside : sizeof size front ≤ cells.length) :
    readField size (front ++ g :: back) (insertAt size front cells value) f =
      readField size (front ++ back) cells f := by
  apply List.ext_getElem?
  intro k
  rw [getElem?_readField, getElem?_readField]
  split
  · rename_i below
    unfold insertAt
    rw [List.append_assoc, List.getElem?_append, List.getElem?_append, List.length_take_of_le inside, isSize]
    by_cases isFront : f ∈ front
    · have ends := offsetof_end size isFront
      rw [offsetof_front isFront, offsetof_front isFront, if_pos (by omega), List.getElem?_take_of_lt (by omega)]
    · rw [offsetof_back isFront, offsetof_back isFront, offsetof, if_neg (Ne.symm other), if_neg (by omega),
        if_neg (by omega), List.getElem?_drop]
      congr 1
      omega
  · rfl

end PackedLayout
