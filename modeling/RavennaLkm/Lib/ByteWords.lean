import Mathlib.Algebra.Group.Nat.Defs
import Mathlib.Data.List.TakeWhile
import Mathlib.Tactic.Common

/-!
Little-endian words and zero-terminated strings at offsets of a list of bytes,
what they depend on, and what a change of single bytes does to them.
-/
namespace ByteWords

variable {d d' : List UInt8} {off n p e x : Nat} {b c : UInt8}

def word (d : List UInt8) : Nat → Nat → Nat
  | _, 0 => 0
  | off, n + 1 => (d[off]?.getD 0).toNat + 256 * word d (off + 1) n

def wordBytes : Nat → Nat → List UInt8
  | 0, _ => []
  | n + 1, x => UInt8.ofNat x :: wordBytes n (x / 256)

def string (d : List UInt8) (off : Nat) : List UInt8 := (d.drop off).takeWhile (· ≠ 0)

@[simp] theorem length_wordBytes (n x : Nat) : (wordBytes n x).length = n := by
  induction n generalizing x with
  | zero => rfl
  | succ n ih => simp [wordBytes, ih]

theorem word_congr (same : ∀ i, off ≤ i → i < off + n → d'[i]? = d[i]?) : word d' off n = word d off n := by
  induction n generalizing off with
  | zero => rfl
  | succ n ih =>
    rw [word, word, same off (Nat.le_refl off) (by omega), ih fun i from_ below => same i (by omega) (by omega)]

theorem word_of_stored (stored : ∀ i < n, d[off + i]? = (wordBytes n x)[i]?) (fits : x < 256 ^ n) :
    word d off n = x := by
  induction n generalizing off x with
  | zero =>
    rw [Nat.pow_zero] at fits
    rw [word]
    omega
  | succ n ih =>
    have first : d[off]? = some (UInt8.ofNat x) := stored 0 (by omega)
    have rest : word d (off + 1) n = x / 256 := by
      apply ih
      · intro i below
        have next := stored (i + 1) (by omega)
        rw [Nat.add_right_comm, ← Nat.add_assoc] at *
        simpa [wordBytes] using next
      · rw [Nat.pow_succ] at fits
        omega
    rw [word, first, rest, Option.getD_some, UInt8.toNat_ofNat']
    omega

theorem string_ne_zero (isIn : c ∈ string d off) : c ≠ 0 := by
  simpa using List.mem_takeWhile_imp isIn

theorem getElem?_string {i : Nat} (below : i < (string d off).length) : d[off + i]? = some (string d off)[i] := by
  rw [← List.getElem?_drop]
  exact List.prefix_iff_getElem?.mp (List.takeWhile_prefix _) i below

theorem string_before (ends : d[e]? = some 0) (from_ : off ≤ e) : off + (string d off).length ≤ e := by
  by_contra past
  have inside : e - off < (string d off).length := by omega
  have here := getElem?_string inside
  rw [Nat.add_sub_cancel' from_, ends] at here
  exact string_ne_zero (List.getElem_mem inside) (Option.some.inj here).symm

theorem takeWhile_ended {l : List UInt8} {k : Nat} (ends : l[k]? = some 0) :
    l[(l.takeWhile (· ≠ 0)).length]? = some 0 := by
  induction l generalizing k with
  | nil => cases ends
  | cons b rest ih =>
    by_cases zero : b = 0
    · simp [zero]
    · cases k with
      | zero => simp_all
      | succ k => simpa [zero] using ih (k := k) (by simpa using ends)

theorem string_ended (ends : d[e]? = some 0) (from_ : off ≤ e) : d[off + (string d off).length]? = some 0 := by
  rw [← List.getElem?_drop]
  apply takeWhile_ended (k := e - off)
  rw [List.getElem?_drop, Nat.add_sub_cancel' from_]
  exact ends

theorem takeWhile_congr {l l' : List UInt8} {k : Nat} (ends : l[k]? = some 0) (same : ∀ i ≤ k, l'[i]? = l[i]?) :
    l'.takeWhile (· ≠ 0) = l.takeWhile (· ≠ 0) := by
  induction k generalizing l l' with
  | zero =>
    have first := same 0 (Nat.le_refl 0)
    cases l with
    | nil => cases ends
    | cons b rest =>
      cases l' with
      | nil => cases first
      | cons b' rest' => simp_all
  | succ k ih =>
    have first := same 0 (by omega)
    cases l with
    | nil => cases ends
    | cons b rest =>
      cases l' with
      | nil => cases first
      | cons b' rest' =>
        have tail : rest'.takeWhile (· ≠ 0) = rest.takeWhile (· ≠ 0) :=
          ih ends fun i below => same (i + 1) (by omega)
        have equal : b' = b := by simpa using first
        simp only [List.takeWhile_cons, equal, tail]

theorem string_congr (ends : d[e]? = some 0) (from_ : off ≤ e)
    (same : ∀ i, off ≤ i → i ≤ e → d'[i]? = d[i]?) : string d' off = string d off := by
  apply takeWhile_congr (k := e - off)
  · rw [List.getElem?_drop, Nat.add_sub_cancel' from_]
    exact ends
  · intro i below
    rw [List.getElem?_drop, List.getElem?_drop]
    exact same (off + i) (by omega) (by omega)

theorem takeWhile_set {l : List UInt8} {k : Nat} (old : l[k]? = some b) (isText : b ≠ 0) (staysText : c ≠ 0) :
    (l.set k c).takeWhile (· ≠ 0) = (l.takeWhile (· ≠ 0)).set k c := by
  induction l generalizing k with
  | nil => rfl
  | cons a rest ih =>
    cases k with
    | zero =>
      have equal : a = b := by simpa using old
      simp [equal, isText, staysText]
    | succ k =>
      have tail := ih (k := k) (by simpa using old)
      by_cases zero : a = 0
      · simp [zero]
      · simp only [List.set_cons_succ, List.takeWhile_cons, tail]
        simp [zero]

/-- One character changed to another one, in every string that is read through it. -/
theorem string_set (old : d[p]? = some b) (isText : b ≠ 0) (staysText : c ≠ 0) (off : Nat) :
    string (d.set p c) off = if off ≤ p then (string d off).set (p - off) c else string d off := by
  unfold string
  rw [List.drop_set]
  split
  · rw [if_neg (by omega)]
  · rw [if_pos (by omega)]
    apply takeWhile_set _ isText staysText
    rw [List.getElem?_drop, Nat.add_sub_cancel' (by omega)]
    exact old

def Through (d : List UInt8) (off p : Nat) : Prop := off ≤ p ∧ p < off + (string d off).length

instance (d : List UInt8) (off p : Nat) : Decidable (Through d off p) := inferInstanceAs (Decidable (_ ∧ _))

theorem string_set_other (old : d[p]? = some b) (isText : b ≠ 0) (staysText : c ≠ 0) (other : ¬ Through d off p) :
    string (d.set p c) off = string d off := by
  unfold Through at other
  rw [string_set old isText staysText]
  split
  · rw [List.set_eq_of_length_le (by omega)]
  · rfl

theorem string_set_through (old : d[p]? = some b) (isText : b ≠ 0) (staysText : c ≠ 0) (through : Through d off p) :
    string (d.set p c) off = (string d off).set (p - off) c := by
  rw [string_set old isText staysText, if_pos through.1]

/-- Strings that are read through their last character differ in it only. -/
theorem string_set_last (old : d[p]? = some b) (isText : b ≠ 0) (staysText : c ≠ 0) (through : Through d off p)
    (last : d[p + 1]? = some 0) :
    ∃ front, string d off = front ++ [b] ∧ string (d.set p c) off = front ++ [c] := by
  obtain ⟨from_, below⟩ := through
  have before := string_before last (Nat.le_succ_of_le from_)
  have length : (string d off).length = p - off + 1 := by omega
  have inside : p - off < (string d off).length := by omega
  have here := getElem?_string inside
  rw [Nat.add_sub_cancel' from_, old] at here
  have setLast : ∀ x, (string d off).set (p - off) x = (string d off).take (p - off) ++ [x] := by
    intro x
    rw [List.set_eq_take_append_cons_drop, if_pos inside, ← length, List.drop_length]
  refine ⟨(string d off).take (p - off), ?_, ?_⟩
  · rw [← setLast b, Option.some.inj here, List.set_getElem_self inside]
  · rw [string_set_through old isText staysText ⟨from_, below⟩, setLast c]

end ByteWords
