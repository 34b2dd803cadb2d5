import Mathlib.Tactic.Common

/-!
Little-endian words in byte memory. `Holds b pos l` says that the memory `b` has
the bytes `l` from `pos` on; it splits along appends, so that a packed record is
read back field by field.
-/
namespace LittleEndian

def load16 (b : Nat → UInt8) (pos : Nat) : UInt16 :=
  UInt16.ofNat ((b pos).toNat + 256 * (b (pos + 1)).toNat)

def load32 (b : Nat → UInt8) (pos : Nat) : UInt32 :=
  UInt32.ofNat ((b pos).toNat + 256 * (b (pos + 1)).toNat + 65536 * (b (pos + 2)).toNat +
    16777216 * (b (pos + 3)).toNat)

def load64 (b : Nat → UInt8) (pos : Nat) : UInt64 :=
  (load32 b pos).toUInt64 ||| (load32 b (pos + 4)).toUInt64 <<< 32

def store16 (x : UInt16) : List UInt8 := [UInt8.ofNat x.toNat, UInt8.ofNat (x.toNat / 256)]

def store32 (x : UInt32) : List UInt8 :=
  [UInt8.ofNat x.toNat, UInt8.ofNat (x.toNat / 256), UInt8.ofNat (x.toNat / 65536),
    UInt8.ofNat (x.toNat / 16777216)]

def Holds (b : Nat → UInt8) : Nat → List UInt8 → Prop
  | _, [] => True
  | pos, x :: xs => b pos = x ∧ Holds b (pos + 1) xs

variable {b : Nat → UInt8} {pos : Nat}

@[simp] theorem length_store16 (x : UInt16) : (store16 x).length = 2 := rfl

@[simp] theorem length_store32 (x : UInt32) : (store32 x).length = 4 := rfl

theorem holds_cons (x : UInt8) (xs : List UInt8) :
    Holds b pos (x :: xs) ↔ b pos = x ∧ Holds b (pos + 1) xs := Iff.rfl

theorem holds_append (xs ys : List UInt8) :
    Holds b pos (xs ++ ys) ↔ Holds b pos xs ∧ Holds b (pos + xs.length) ys := by
  induction xs generalizing pos with
  | nil => simp [Holds]
  | cons x xs ih =>
    have shift : pos + 1 + xs.length = pos + (xs.length + 1) := by omega
    simp only [List.cons_append, holds_cons, ih, List.length_cons, shift, and_assoc]

theorem holds_of_getElem {l : List UInt8} (same : ∀ k (below : k < l.length), b (pos + k) = l[k]) :
    Holds b pos l := by
  induction l generalizing pos with
  | nil => trivial
  | cons x xs ih =>
    refine ⟨same 0 (by simp), ih fun k below => ?_⟩
    have tail := same (k + 1) (by simpa using below)
    have shift : pos + 1 + k = pos + (k + 1) := by omega
    rw [shift, tail]
    rfl

theorem holds_between (front l back : List UInt8) :
    Holds (fun k => (front ++ l ++ back).getD k 0) front.length l := by
  apply holds_of_getElem
  intro k below
  have inside : front.length + k < (front ++ l).length := by
    rw [List.length_append]
    omega
  rw [List.getD_eq_getElem?_getD, List.getElem?_append_left inside, List.getElem?_append_right (Nat.le_add_right ..),
    Nat.add_sub_cancel_left, List.getElem?_eq_getElem below, Option.getD_some]

theorem holds_store16 {x : UInt16} : Holds b pos (store16 x) ↔ load16 b pos = x := by
  have low := (b pos).toNat_lt
  have high := (b (pos + 1)).toNat_lt
  have bound := x.toNat_lt
  simp only [store16, Holds, load16, ← UInt8.toNat_inj, ← UInt16.toNat_inj, UInt8.toNat_ofNat',
    UInt16.toNat_ofNat', and_true]
  omega

theorem holds_store32 {x : UInt32} : Holds b pos (store32 x) ↔ load32 b pos = x := by
  have byte0 := (b pos).toNat_lt
  have byte1 := (b (pos + 1)).toNat_lt
  have byte2 := (b (pos + 2)).toNat_lt
  have byte3 := (b (pos + 3)).toNat_lt
  have bound := x.toNat_lt
  simp only [store32, Holds, load32, ← UInt8.toNat_inj, ← UInt32.toNat_inj, UInt8.toNat_ofNat',
    UInt32.toNat_ofNat', Nat.add_assoc, Nat.reduceAdd, and_true]
  omega

end LittleEndian
