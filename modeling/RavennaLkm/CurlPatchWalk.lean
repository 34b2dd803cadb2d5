import RavennaLkm.ElfImage

/-!
The walk through a chain of version requirements: a round for each record, one
after the other, and what it does where nothing or exactly one Vernaux is sought.
-/
namespace RavennaLkm.CurlPatch
open CheckedLoop ByteWords

variable {data data' libname : Bytes} {off dynstrOff patched a t : Nat} {auxs front back : List Nat}

def Terminated (data : Bytes) (off : Nat) : Prop := ∃ e, off ≤ e ∧ data[e]? = some 0

theorem cstring_ok (terminated : Terminated data off) : cstring data off = .ok (string data off) := by
  obtain ⟨e, from_, ends⟩ := terminated
  have zero : (0 : UInt8) ∈ data.drop off := by
    apply List.mem_of_getElem? (i := e - off)
    rw [List.getElem?_drop, Nat.add_sub_cancel' from_]
    exact ends
  unfold cstring string
  cases found : (data.drop off).findIdx? (· = 0) with
  | none =>
    have absent := List.findIdx?_eq_none_iff.mp found 0 zero
    simp at absent
  | some length =>
    have index := (List.findIdx?_eq_some_iff_findIdx_eq.mp found).2
    simp [List.takeWhile_eq_take_findIdx_not, ← index]

theorem unpackFrom_ok {α : Type} {size : Nat} (read : Bytes → Nat → α) (inside : off + size ≤ data.length) :
    unpackFrom size read data off = .ok (read data off) := if_pos inside

structure AuxReadable (data : Bytes) (dynstrOff a : Nat) : Prop where
  inside : a + sizeofVernaux ≤ data.length
  named : Terminated data (dynstrOff + (readVernaux data a).name)

structure NeedReadable (data : Bytes) (dynstrOff : Nat) (n : Need) : Prop where
  inside : n.off + sizeofVerneed ≤ data.length
  named : Terminated data (dynstrOff + (readVerneed data n.off).file)
  auxs : ∀ a ∈ n.auxs, AuxReadable data dynstrOff a

theorem patchEntry_quiet {version : Bytes} {aux : Vernaux} {st : PatchState}
    (quiet : ¬ (libname = libcurl ∧ version = old)) : patchEntry dynstrOff a libname version aux st = .ok st :=
  if_neg quiet

theorem patchEntry_hit {aux : Vernaux} {st : PatchState} (hash : aux.hash = elfHash old) :
    patchEntry dynstrOff a libcurl old aux st =
      .ok ⟨rewrite st.data a (dynstrOff + aux.name), st.patched + 1⟩ := by
  rw [patchEntry, if_pos ⟨rfl, rfl⟩, if_neg (not_not.mpr hash)]

theorem patchAux_round (readable : AuxReadable data dynstrOff a)
    (last : (readVernaux data a).next = 0 ↔ auxs = []) : patchAux dynstrOff libname (a :: auxs).length a ⟨data, patched⟩ =
      patchEntry dynstrOff a libname (versionName data dynstrOff a) (readVernaux data a) ⟨data, patched⟩ >>=
        patchAux dynstrOff libname auxs.length (a + (readVernaux data a).next) := by
  have read := unpackFrom_ok readVernaux readable.inside
  have named := cstring_ok readable.named
  unfold sizeofVernaux at read
  rw [List.length_cons, patchAux]
  dsimp only
  rw [read, ok_bind, named, ok_bind]
  congr 1
  funext st
  by_cases stops : auxs = []
  · rw [if_pos (last.mpr stops), stops]
    rfl
  · rw [if_neg (mt last.mp stops)]

theorem patchAux_quiet (patched : Nat) (chain : AuxChain data off auxs)
    (readable : ∀ a ∈ auxs, AuxReadable data dynstrOff a)
    (quiet : ∀ a ∈ auxs, ¬ (libname = libcurl ∧ versionName data dynstrOff a = old)) :
    patchAux dynstrOff libname auxs.length off ⟨data, patched⟩ = .ok ⟨data, patched⟩ := by
  induction auxs generalizing off with
  | nil => rfl
  | cons a rest ih =>
    obtain ⟨rfl, last, chain⟩ := chain
    rw [patchAux_round (readable a List.mem_cons_self) last, patchEntry_quiet (quiet a List.mem_cons_self), ok_bind]
    exact ih chain (fun b isIn => readable b (List.mem_cons_of_mem a isIn)) fun b isIn =>
      quiet b (List.mem_cons_of_mem a isIn)

theorem AuxChain.behind (chain : AuxChain data off (front ++ t :: back)) :
    ((readVernaux data t).next = 0 ↔ back = []) ∧ AuxChain data (t + (readVernaux data t).next) back := by
  induction front generalizing off with
  | nil => exact ⟨chain.2.1, chain.2.2⟩
  | cons a rest ih => exact ih chain.2.2

/-- The chain of a Verneed with the sought Vernaux `t`, after which `data` is `data'`. -/
theorem patchAux_hit (chain : AuxChain data off (front ++ t :: back))
    (readable : ∀ a ∈ front ++ t :: back, AuxReadable data dynstrOff a)
    (quiet : ∀ a ∈ front, versionName data dynstrOff a ≠ old) (hit : versionName data dynstrOff t = old)
    (hash : (readVernaux data t).hash = elfHash old)
    (rewritten : data' = rewrite data t (versionOff data dynstrOff t))
    (chain' : AuxChain data' (t + (readVernaux data t).next) back)
    (readable' : ∀ a ∈ back, AuxReadable data' dynstrOff a) (quiet' : ∀ a ∈ back, versionName data' dynstrOff a ≠ old) :
    patchAux dynstrOff libcurl (front ++ t :: back).length off ⟨data, patched⟩ = .ok ⟨data', patched + 1⟩ := by
  induction front generalizing off with
  | nil =>
    obtain ⟨rfl, last, -⟩ := chain
    unfold versionOff at rewritten
    rw [List.nil_append, patchAux_round (readable t List.mem_cons_self) last, hit, patchEntry_hit hash, ok_bind,
      ← rewritten]
    exact patchAux_quiet (patched + 1) chain' readable' fun a isIn sought => quiet' a isIn sought.2
  | cons a rest ih =>
    rw [List.cons_append] at chain readable ⊢
    obtain ⟨rfl, last, chain⟩ := chain
    have unsought : ¬ (libcurl = libcurl ∧ versionName data dynstrOff a = old) := fun sought =>
      quiet a List.mem_cons_self sought.2
    rw [patchAux_round (readable a List.mem_cons_self) last, patchEntry_quiet unsought, ok_bind]
    exact ih chain (fun b isIn => readable b (List.mem_cons_of_mem a isIn)) fun b isIn =>
      quiet b (List.mem_cons_of_mem a isIn)

variable {verneedOff verneedSize vnRel : Nat} {n : Need} {needs before after : List Need} {st : PatchState}

theorem patchNeeds_round (readable : NeedReadable data dynstrOff n) (here : n.off = verneedOff + vnRel)
    (within : vnRel < verneedSize) (count : (readVerneed data n.off).cnt = n.auxs.length)
    (last : (readVerneed data n.off).next = 0 ↔ needs = [])
    (done : patchAux dynstrOff (libraryName data dynstrOff n) n.auxs.length (n.off + (readVerneed data n.off).aux)
      ⟨data, patched⟩ = .ok st) : patchNeeds verneedOff verneedSize dynstrOff vnRel ⟨data, patched⟩ =
        if needs = [] then .ok st
        else patchNeeds verneedOff verneedSize dynstrOff (vnRel + (readVerneed data n.off).next) st := by
  have read := unpackFrom_ok readVerneed readable.inside
  have named := cstring_ok readable.named
  unfold sizeofVerneed at read
  rw [here] at read named done count last ⊢
  unfold libraryName at done
  rw [here] at done
  rw [patchNeeds, if_pos within, read, ok_bind, named, ok_bind, count, done, ok_bind]
  by_cases stops : needs = []
  · rw [if_pos (last.mpr stops), if_pos stops]
  · rw [if_neg (mt last.mp stops), if_neg stops]

theorem patchNeeds_quiet (chain : NeedChain data (verneedOff + vnRel) (n :: needs))
    (readable : ∀ m ∈ n :: needs, NeedReadable data dynstrOff m)
    (within : ∀ m ∈ n :: needs, m.off < verneedOff + verneedSize)
    (quiet : ∀ m ∈ n :: needs, ∀ a ∈ m.auxs, ¬ Sought data dynstrOff m a) :
    patchNeeds verneedOff verneedSize dynstrOff vnRel ⟨data, patched⟩ = .ok ⟨data, patched⟩ := by
  induction needs generalizing n vnRel with
  | nil =>
    obtain ⟨here, count, auxChain, last, -⟩ := chain
    have first := readable n List.mem_cons_self
    have below := within n List.mem_cons_self
    have done := patchAux_quiet patched auxChain first.auxs (quiet n List.mem_cons_self)
    rw [patchNeeds_round first here (by omega) count last done, if_pos rfl]
  | cons m rest ih =>
    obtain ⟨here, count, auxChain, last, chain⟩ := chain
    have first := readable n List.mem_cons_self
    have below := within n List.mem_cons_self
    have done := patchAux_quiet patched auxChain first.auxs (quiet n List.mem_cons_self)
    rw [patchNeeds_round first here (by omega) count last done, if_neg (List.cons_ne_nil m rest)]
    rw [here, Nat.add_assoc, ← here] at chain
    exact ih chain (fun o isIn => readable o (List.mem_cons_of_mem n isIn))
      (fun o isIn => within o (List.mem_cons_of_mem n isIn)) fun o isIn => quiet o (List.mem_cons_of_mem n isIn)

theorem NeedChain.behind (chain : NeedChain data off (before ++ n :: after)) :
    ((readVerneed data n.off).next = 0 ↔ after = []) ∧
      NeedChain data (n.off + (readVerneed data n.off).next) after := by
  induction before generalizing off with
  | nil => exact ⟨chain.2.2.2.1, chain.2.2.2.2⟩
  | cons m rest ih => exact ih chain.2.2.2.2

theorem NeedChain.auxChain (chain : NeedChain data off needs) (isIn : n ∈ needs) :
    AuxChain data (n.off + (readVerneed data n.off).aux) n.auxs := by
  induction needs generalizing off with
  | nil => cases isIn
  | cons m rest ih =>
    rcases List.mem_cons.mp isIn with rfl | later
    · exact chain.2.2.1
    · exact ih chain.2.2.2.2 later

/-- The chain with the Verneed `n` of the sought Vernaux, after which `data` is `data'`. -/
theorem patchNeeds_hit (chain : NeedChain data (verneedOff + vnRel) (before ++ n :: after))
    (readable : ∀ m ∈ before ++ n :: after, NeedReadable data dynstrOff m)
    (within : ∀ m ∈ before ++ n :: after, m.off < verneedOff + verneedSize)
    (quiet : ∀ m ∈ before, ∀ a ∈ m.auxs, ¬ Sought data dynstrOff m a)
    (done : patchAux dynstrOff (libraryName data dynstrOff n) n.auxs.length (n.off + (readVerneed data n.off).aux)
      ⟨data, patched⟩ = .ok ⟨data', patched + 1⟩)
    (chain' : NeedChain data' (n.off + (readVerneed data n.off).next) after)
    (readable' : ∀ m ∈ after, NeedReadable data' dynstrOff m)
    (quiet' : ∀ m ∈ after, ∀ a ∈ m.auxs, ¬ Sought data' dynstrOff m a) :
    patchNeeds verneedOff verneedSize dynstrOff vnRel ⟨data, patched⟩ = .ok ⟨data', patched + 1⟩ := by
  induction before generalizing vnRel with
  | nil =>
    obtain ⟨here, count, -, last, -⟩ := chain
    have below := within n List.mem_cons_self
    rw [patchNeeds_round (readable n List.mem_cons_self) here (by omega) count last done]
    cases after with
    | nil => rw [if_pos rfl]
    | cons m rest =>
      rw [if_neg (List.cons_ne_nil m rest)]
      rw [here, Nat.add_assoc, ← here] at chain'
      exact patchNeeds_quiet chain' readable' (fun o isIn => within o (List.mem_cons_of_mem n isIn)) quiet'
  | cons m rest ih =>
    rw [List.cons_append] at chain readable within
    obtain ⟨here, count, auxChain, last, chain⟩ := chain
    have first := readable m List.mem_cons_self
    have below := within m List.mem_cons_self
    have passed := patchAux_quiet patched auxChain first.auxs (quiet m List.mem_cons_self)
    rw [patchNeeds_round first here (by omega) count last passed, if_neg (by simp)]
    rw [here, Nat.add_assoc, ← here] at chain
    exact ih chain (fun o isIn => readable o (List.mem_cons_of_mem m isIn))
      (fun o isIn => within o (List.mem_cons_of_mem m isIn)) fun o isIn => quiet o (List.mem_cons_of_mem m isIn)

end RavennaLkm.CurlPatch
