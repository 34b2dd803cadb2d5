import Mathlib.Data.List.Pairwise
import RavennaLkm.CurlPatchWalk

/-!
What the two writes into the image change: the four bytes of one hash, and the
last character of the name, which every string that is read through it shares.
-/
namespace RavennaLkm.CurlPatch
open ByteWords

variable {data : Bytes} {k target i off : Nat} {needs : List Need} {n : Need} {a : Nat}

theorem andNot_testBit (a b j : Nat) : (andNot a b).testBit j = (a.testBit j && !b.testBit j) := by
  simp only [andNot, Nat.testBit_xor, Nat.testBit_and]
  cases a.testBit j <;> cases b.testBit j <;> rfl

theorem elfHashStep_low (h : Nat) (c : UInt8) : elfHashStep h c % 2 ^ 4 = c.toNat % 2 ^ 4 := by
  apply Nat.eq_of_testBit_eq
  intro j
  rw [Nat.testBit_mod_two_pow, Nat.testBit_mod_two_pow]
  by_cases low : j < 4
  · have zeros : ∀ j < 4, (0xF0000000 : Nat).testBit j = false ∧ (0xF0000000 : Nat).testBit (24 + j) = false := by
      decide
    obtain ⟨high, higher⟩ := zeros j low
    have shifted : (h <<< 4 + c.toNat).testBit j = c.toNat.testBit j := by
      have same : (h <<< 4 + c.toNat) % 2 ^ 4 = c.toNat % 2 ^ 4 := by
        rw [Nat.shiftLeft_eq]
        omega
      have bits : ((h <<< 4 + c.toNat) % 2 ^ 4).testBit j = (c.toNat % 2 ^ 4).testBit j := by rw [same]
      rwa [Nat.testBit_mod_two_pow, Nat.testBit_mod_two_pow, decide_eq_true low, Bool.true_and, Bool.true_and] at bits
    unfold elfHashStep
    dsimp only
    rw [andNot_testBit]
    split
    · simp [Nat.testBit_xor, Nat.testBit_and, Nat.testBit_shiftRight, shifted, high, higher]
    · simp [Nat.testBit_and, shifted, high]
  · simp [low]

theorem elfHash_last (value : Bytes) (c : UInt8) : elfHash (value ++ [c]) % 2 ^ 4 = c.toNat % 2 ^ 4 := by
  have low : (0xFFFFFFFF : Nat) = 2 ^ 32 - 1 := rfl
  unfold elfHash
  rw [List.foldl_append, low, Nat.and_two_pow_sub_one_eq_mod, Nat.mod_mod_of_dvd _ (Nat.pow_dvd_pow 2 (by decide))]
  exact elfHashStep_low _ c

theorem readSectionHeader_congr {data' : Bytes} (same : ∀ i, off ≤ i → i < off + sizeofShdr → data'[i]? = data[i]?) :
    readSectionHeader data' off = readSectionHeader data off := by
  have words : ∀ at_ n, at_ + n ≤ sizeofShdr → word data' (off + at_) n = word data (off + at_) n :=
    fun at_ n inside => word_congr fun i from_ below => same i (by omega) (by omega)
  have name := words 0 4 (by decide)
  have offset := words 24 8 (by decide)
  have size := words 32 8 (by decide)
  have link := words 40 4 (by decide)
  rw [Nat.add_zero] at name
  rw [readSectionHeader, name, offset, size, link, readSectionHeader]

theorem readVerneed_congr {data' : Bytes} (same : ∀ i, off ≤ i → i < off + sizeofVerneed → data'[i]? = data[i]?) :
    readVerneed data' off = readVerneed data off := by
  have words : ∀ at_ n, at_ + n ≤ sizeofVerneed → word data' (off + at_) n = word data (off + at_) n :=
    fun at_ n inside => word_congr fun i from_ below => same i (by omega) (by omega)
  have count := words 2 2 (by decide)
  have file := words 4 4 (by decide)
  have aux := words 8 4 (by decide)
  have next := words 12 4 (by decide)
  rw [readVerneed, count, file, aux, next, readVerneed]

theorem readVernaux_congr {data' : Bytes}
    (same : ∀ i, off + 4 ≤ i → i < off + sizeofVernaux → data'[i]? = data[i]?) :
    (readVernaux data' off).name = (readVernaux data off).name ∧
      (readVernaux data' off).next = (readVernaux data off).next := by
  unfold sizeofVernaux at same
  constructor
  · exact word_congr fun i from_ below => same i (by omega) (by omega)
  · exact word_congr fun i from_ below => same i (by omega) (by omega)

theorem WellFormed.header_in_table (wellFormed : WellFormed data k needs) (below : i < sectionCount data) :
    i * eShentsize data + sizeofShdr ≤ sectionCount data * eShentsize data := by
  have entsize := wellFormed.entsize
  have more : (i + 1) * eShentsize data ≤ sectionCount data * eShentsize data := Nat.mul_le_mul_right _ below
  rw [Nat.succ_mul] at more
  omega

structure Site (data : Bytes) (k : Nat) (needs : List Need) (target : Nat) : Prop where
  wellFormed : WellFormed data k needs
  isVernaux : ∃ n ∈ needs, target ∈ n.auxs
  named : versionName data (dynstr data k).offset target = old

def nameOff (data : Bytes) (k target : Nat) : Nat := versionOff data (dynstr data k).offset target

def digitOff (data : Bytes) (k target : Nat) : Nat := nameOff data k target + 13

def digitOld : UInt8 := 51
def digitNew : UInt8 := 52

def hashedImage (data : Bytes) (target : Nat) : Bytes := PackedLayout.patch data target (wordBytes 4 (elfHash new))

def patchedImage (data : Bytes) (k target : Nat) : Bytes := rewrite data target (nameOff data k target)

theorem mem_records (isNeed : n ∈ needs) (isAux : a ∈ n.auxs) : a ∈ records needs :=
  List.mem_flatMap.mpr ⟨n, isNeed, List.mem_cons_of_mem _ isAux⟩

theorem off_mem_records (isNeed : n ∈ needs) : n.off ∈ records needs :=
  List.mem_flatMap.mpr ⟨n, isNeed, List.mem_cons_self⟩

theorem StringTable.terminated {h : SectionHeader} (table : StringTable data h) (below : off < h.offset + h.size) :
    off ≤ h.offset + h.size - 1 ∧ data[h.offset + h.size - 1]? = some 0 :=
  ⟨by omega, table.ended⟩

namespace Site

theorem target_inside (site : Site data k needs target) : (sectionHeader data k).offset ≤ target ∧
    target + sizeofVernaux ≤ (sectionHeader data k).offset + (sectionHeader data k).size := by
  obtain ⟨n, isNeed, isAux⟩ := site.isVernaux
  exact site.wellFormed.inside target (mem_records isNeed isAux)

theorem length_name (site : Site data k needs target) : (string data (nameOff data k target)).length = 14 :=
  congrArg List.length site.named

theorem name_inside (site : Site data k needs target) : (dynstr data k).offset ≤ nameOff data k target ∧
    nameOff data k target + 14 < (dynstr data k).offset + (dynstr data k).size := by
  obtain ⟨n, isNeed, isAux⟩ := site.isVernaux
  have below := site.wellFormed.versionNames n isNeed target isAux
  have from_ : (dynstr data k).offset ≤ nameOff data k target := Nat.le_add_right ..
  have inside : nameOff data k target < (dynstr data k).offset + (dynstr data k).size := Nat.add_lt_add_left below _
  obtain ⟨reaches, ends⟩ := site.wellFormed.dynstrTable.terminated inside
  have before := string_before ends reaches
  rw [site.length_name] at before
  omega

theorem name_ended (site : Site data k needs target) : data[digitOff data k target + 1]? = some 0 := by
  obtain ⟨-, inside⟩ := site.name_inside
  obtain ⟨reaches, ends⟩ := site.wellFormed.dynstrTable.terminated (Nat.lt_of_add_right_lt inside)
  have ended := string_ended ends reaches
  rwa [site.length_name] at ended

theorem name_char (site : Site data k needs target) {j : Nat} (below : j < 14) :
    data[nameOff data k target + j]? = old[j]? := by
  have length := site.length_name
  have named : string data (nameOff data k target) = old := site.named
  rw [getElem?_string (by omega), ← List.getElem?_eq_getElem, named]

theorem digit (site : Site data k needs target) : data[digitOff data k target]? = some digitOld :=
  site.name_char (by decide)

theorem hash_in (site : Site data k needs target) (hash : target ≤ i ∧ i < target + 4) :
    (sectionHeader data k).region.Has i := by
  obtain ⟨from_, below⟩ := site.target_inside
  unfold sizeofVernaux at below
  constructor
  · exact from_.trans hash.1
  · exact hash.2.trans_le (le_trans (by omega) below)

theorem name_in (site : Site data k needs target) (from_ : nameOff data k target ≤ i)
    (upTo : i ≤ nameOff data k target + 14) : (dynstr data k).region.Has i := by
  obtain ⟨starts, below⟩ := site.name_inside
  exact ⟨starts.trans from_, upTo.trans_lt below⟩

theorem digit_in (site : Site data k needs target) : (dynstr data k).region.Has (digitOff data k target) :=
  site.name_in (Nat.le_add_right ..) (Nat.add_le_add_left (by decide) _)

theorem name_end_in (site : Site data k needs target) : (dynstr data k).region.Has (digitOff data k target + 1) := by
  unfold digitOff
  rw [Nat.add_assoc]
  exact site.name_in (Nat.le_add_right ..) (Nat.le_refl _)

theorem hash_inside (site : Site data k needs target) : target + 4 ≤ data.length := by
  have record := site.target_inside
  have whole := site.wellFormed.versionsWhole
  unfold sizeofVernaux at record
  omega

theorem name_whole (site : Site data k needs target) : nameOff data k target + 14 ≤ data.length := by
  obtain ⟨here, -⟩ := List.getElem?_eq_some_iff.mp site.name_ended
  unfold digitOff at here
  omega

theorem length_hashed (site : Site data k needs target) : (hashedImage data target).length = data.length :=
  PackedLayout.length_patch (by simpa using site.hash_inside)

theorem patchedImage_eq (data : Bytes) (k target : Nat) :
    patchedImage data k target = PackedLayout.patch (hashedImage data target) (nameOff data k target) new := rfl

theorem length_patched (site : Site data k needs target) : (patchedImage data k target).length = data.length := by
  rw [patchedImage_eq, PackedLayout.length_patch, site.length_hashed]
  rw [site.length_hashed]
  exact site.name_whole

theorem getElem?_hashed (site : Site data k needs target) (i : Nat) : (hashedImage data target)[i]? =
    if target ≤ i ∧ i < target + 4 then (wordBytes 4 (elfHash new))[i - target]? else data[i]? := by
  have hashIn := site.hash_inside
  unfold hashedImage
  rw [PackedLayout.getElem?_patch (by omega), length_wordBytes]

theorem hashed_strings (site : Site data k needs target) (inside : (dynstr data k).region.Has i) :
    (hashedImage data target)[i]? = data[i]? := by
  have notHash : ¬ (target ≤ i ∧ i < target + 4) := fun hash =>
    site.wellFormed.versionsDynstr.not_has (site.hash_in hash) inside
  rw [site.getElem?_hashed, if_neg notHash]

/-- All characters of the name but the last one are written as they were. -/
theorem patched_eq_set (site : Site data k needs target) :
    patchedImage data k target = (hashedImage data target).set (digitOff data k target) digitNew := by
  have nameIn := site.name_whole
  have length := site.length_hashed
  apply List.ext_getElem?
  intro i
  rw [patchedImage_eq, PackedLayout.getElem?_patch (by omega), List.getElem?_set]
  change (if nameOff data k target ≤ i ∧ i < nameOff data k target + 14 then _ else _) = _
  by_cases inName : nameOff data k target ≤ i ∧ i < nameOff data k target + 14
  · rw [if_pos inName]
    obtain ⟨j, rfl⟩ := Nat.exists_eq_add_of_le inName.1
    rw [Nat.add_sub_cancel_left]
    by_cases last : j = 13
    · have inside : digitOff data k target < (hashedImage data target).length := by
        unfold digitOff
        omega
      have isDigit : digitOff data k target = nameOff data k target + j := by rw [last, digitOff]
      rw [if_pos isDigit, if_pos inside, last]
      rfl
    · have notDigit : digitOff data k target ≠ nameOff data k target + j := by
        unfold digitOff
        omega
      have other : ∀ j < 14, j ≠ 13 → new[j]? = old[j]? := by decide
      have isName : (dynstr data k).region.Has (nameOff data k target + j) := site.name_in inName.1 inName.2.le
      rw [if_neg notDigit, site.hashed_strings isName, site.name_char (by omega)]
      exact other j (by omega) last
  · have notDigit : digitOff data k target ≠ i := by
      unfold digitOff
      omega
    rw [if_neg inName, if_neg notDigit]

theorem patched_other (site : Site data k needs target) (notDigit : i ≠ digitOff data k target) :
    (patchedImage data k target)[i]? = (hashedImage data target)[i]? := by
  rw [site.patched_eq_set, List.getElem?_set_ne notDigit.symm]

theorem patched_same (site : Site data k needs target) (notDigit : i ≠ digitOff data k target)
    (notHash : ¬ (target ≤ i ∧ i < target + 4)) : (patchedImage data k target)[i]? = data[i]? := by
  rw [site.patched_other notDigit, site.getElem?_hashed, if_neg notHash]

theorem patched_outside (site : Site data k needs target) {r : Region}
    (versions : r.Apart (sectionHeader data k).region)
    (strings : r.Apart (dynstr data k).region) (inside : r.Has i) : (patchedImage data k target)[i]? = data[i]? := by
  apply site.patched_same
  · intro isDigit
    rw [isDigit] at inside
    exact strings.not_has inside site.digit_in
  · intro hash
    exact versions.not_has inside (site.hash_in hash)

theorem patched_versions (site : Site data k needs target) (inside : (sectionHeader data k).region.Has i)
    (notHash : ¬ (target ≤ i ∧ i < target + 4)) : (patchedImage data k target)[i]? = data[i]? := by
  apply site.patched_same _ notHash
  intro isDigit
  rw [isDigit] at inside
  exact site.wellFormed.versionsDynstr.not_has inside site.digit_in

theorem patched_strings (site : Site data k needs target) (inside : (dynstr data k).region.Has i)
    (notDigit : i ≠ digitOff data k target) : (patchedImage data k target)[i]? = data[i]? := by
  rw [site.patched_other notDigit, site.hashed_strings inside]

theorem header_word (site : Site data k needs target) {size : Nat} (inside : off + size ≤ sizeofEhdr) :
    word (patchedImage data k target) off size = word data off size := by
  apply word_congr
  intro i from_ below
  apply site.patched_outside site.wellFormed.headerVersions site.wellFormed.headerDynstr
  constructor
  · exact Nat.zero_le i
  · rw [headerRegion, Nat.zero_add]
    exact below.trans_le inside

theorem eShoff_patched (site : Site data k needs target) : eShoff (patchedImage data k target) = eShoff data :=
  site.header_word (by decide)

theorem eShentsize_patched (site : Site data k needs target) :
    eShentsize (patchedImage data k target) = eShentsize data :=
  site.header_word (by decide)

theorem eShnum_patched (site : Site data k needs target) : eShnum (patchedImage data k target) = eShnum data :=
  site.header_word (by decide)

theorem eShstrndx_patched (site : Site data k needs target) :
    eShstrndx (patchedImage data k target) = eShstrndx data :=
  site.header_word (by decide)

theorem sectionHeader_patched (site : Site data k needs target) (below : i < sectionCount data) :
    sectionHeader (patchedImage data k target) i = sectionHeader data i := by
  have wellFormed := site.wellFormed
  have inTable := wellFormed.header_in_table below
  unfold sectionHeader
  rw [site.eShoff_patched, site.eShentsize_patched]
  apply readSectionHeader_congr
  intro j from_ before
  apply site.patched_outside wellFormed.tableVersions wellFormed.tableDynstr
  unfold sizeofShdr at inTable before
  unfold Region.Has tableRegion
  dsimp only
  omega

theorem sectionCount_patched (site : Site data k needs target) :
    sectionCount (patchedImage data k target) = sectionCount data := by
  have first : 0 < sectionCount data := Nat.zero_lt_of_lt site.wellFormed.versionsIn
  unfold sectionCount
  rw [site.eShnum_patched, site.sectionHeader_patched first]

theorem namesIndex_patched (site : Site data k needs target) :
    namesIndex (patchedImage data k target) = namesIndex data := by
  have first : 0 < sectionCount data := Nat.zero_lt_of_lt site.wellFormed.versionsIn
  unfold namesIndex
  rw [site.eShstrndx_patched, site.sectionHeader_patched first]

theorem names_patched (site : Site data k needs target) : names (patchedImage data k target) = names data := by
  unfold names
  rw [site.namesIndex_patched, site.sectionHeader_patched site.wellFormed.namesIn]

theorem dynstr_patched (site : Site data k needs target) : dynstr (patchedImage data k target) k = dynstr data k := by
  unfold dynstr
  rw [site.sectionHeader_patched site.wellFormed.versionsIn, site.sectionHeader_patched site.wellFormed.dynstrIn]

end Site

end RavennaLkm.CurlPatch
