import RavennaLkm.CurlPatchRewrite

/-!
The strings and the records of a patched image. A string that is read through the
last character of the name gets the new one; everything else is as it was, and
the image stays well-formed.
-/
namespace RavennaLkm.CurlPatch
open ByteWords

variable {data data' : Bytes} {k target i off a : Nat} {auxs : List Nat} {needs : List Need} {n : Need}

theorem AuxChain.congr (same : ∀ a ∈ auxs, (readVernaux data' a).next = (readVernaux data a).next)
    (chain : AuxChain data off auxs) : AuxChain data' off auxs := by
  induction auxs generalizing off with
  | nil => trivial
  | cons a rest ih =>
    obtain ⟨here, last, chain⟩ := chain
    have first := same a List.mem_cons_self
    unfold AuxChain
    rw [first]
    exact ⟨here, last, ih (fun b isIn => same b (List.mem_cons_of_mem a isIn)) chain⟩

theorem NeedChain.congr (sameNeeds : ∀ n ∈ needs, readVerneed data' n.off = readVerneed data n.off)
    (sameAuxs : ∀ n ∈ needs, ∀ a ∈ n.auxs, (readVernaux data' a).next = (readVernaux data a).next)
    (chain : NeedChain data off needs) : NeedChain data' off needs := by
  induction needs generalizing off with
  | nil => trivial
  | cons n rest ih =>
    obtain ⟨here, count, auxChain, last, chain⟩ := chain
    have first := sameNeeds n List.mem_cons_self
    have auxs := auxChain.congr (sameAuxs n List.mem_cons_self)
    have behind := ih (fun m isIn => sameNeeds m (List.mem_cons_of_mem n isIn))
      (fun m isIn => sameAuxs m (List.mem_cons_of_mem n isIn)) chain
    unfold NeedChain
    rw [first]
    exact ⟨here, count, auxs, last, behind⟩

def NeedsApart (n m : Need) : Prop := ∀ r ∈ n.off :: n.auxs, ∀ s ∈ m.off :: m.auxs, RecordsApart r s

theorem RecordsApart.symm {r s : Nat} (apart : RecordsApart r s) : RecordsApart s r := Or.symm apart

theorem RecordsApart.ne {r s : Nat} (apart : RecordsApart r s) : r ≠ s := by
  unfold RecordsApart sizeofVernaux at apart
  omega

theorem NeedsApart.symm {n m : Need} (apart : NeedsApart n m) : NeedsApart m n :=
  fun r isIn s alsoIn => (apart s alsoIn r isIn).symm

instance : Std.Symm RecordsApart := ⟨fun _ _ => RecordsApart.symm⟩
instance : Std.Symm NeedsApart := ⟨fun _ _ => NeedsApart.symm⟩

theorem WellFormed.needs_apart (wellFormed : WellFormed data k needs) : needs.Pairwise NeedsApart :=
  (List.pairwise_flatMap.mp wellFormed.distinct).2

theorem WellFormed.one_apart (wellFormed : WellFormed data k needs) (isNeed : n ∈ needs) :
    (n.off :: n.auxs).Pairwise RecordsApart :=
  (List.pairwise_flatMap.mp wellFormed.distinct).1 n isNeed

theorem WellFormed.auxs_apart {b : Nat} {m : Need} (wellFormed : WellFormed data k needs) (isNeed : n ∈ needs)
    (isAux : a ∈ n.auxs) (alsoNeed : m ∈ needs) (alsoAux : b ∈ m.auxs) (other : a ≠ b) : RecordsApart a b :=
  wellFormed.distinct.forall (mem_records isNeed isAux) (mem_records alsoNeed alsoAux) other

theorem WellFormed.need_apart {m : Need} (wellFormed : WellFormed data k needs) (isNeed : n ∈ needs)
    (alsoNeed : m ∈ needs) (isAux : a ∈ m.auxs) : RecordsApart n.off a := by
  by_cases equal : n = m
  · rw [← equal] at isAux
    exact List.rel_of_pairwise_cons (wellFormed.one_apart isNeed) isAux
  · have apart : NeedsApart n m := wellFormed.needs_apart.forall isNeed alsoNeed equal
    exact apart n.off List.mem_cons_self a (List.mem_cons_of_mem _ isAux)

namespace Site

theorem record_in (site : Site data k needs target) {r : Nat} (isIn : r ∈ records needs) (from_ : r ≤ i)
    (below : i < r + sizeofVernaux) : (sectionHeader data k).region.Has i := by
  obtain ⟨starts, ends⟩ := site.wellFormed.inside r isIn
  exact ⟨starts.trans from_, below.trans_le ends⟩

theorem patched_record (site : Site data k needs target) {r : Nat} (isIn : r ∈ records needs)
    (apart : RecordsApart r target) (from_ : r ≤ i) (below : i < r + sizeofVernaux) :
    (patchedImage data k target)[i]? = data[i]? := by
  apply site.patched_versions (site.record_in isIn from_ below)
  unfold RecordsApart sizeofVernaux at apart
  unfold sizeofVernaux at below
  omega

theorem readVerneed_patched (site : Site data k needs target) (isNeed : n ∈ needs) :
    readVerneed (patchedImage data k target) n.off = readVerneed data n.off := by
  obtain ⟨m, alsoNeed, isAux⟩ := site.isVernaux
  have apart := site.wellFormed.need_apart isNeed alsoNeed isAux
  apply readVerneed_congr
  intro i from_ below
  exact site.patched_record (off_mem_records isNeed) apart from_ below

theorem aux_apart (site : Site data k needs target) (isNeed : n ∈ needs) (isAux : a ∈ n.auxs) (other : a ≠ target) :
    RecordsApart a target := by
  obtain ⟨m, alsoNeed, alsoAux⟩ := site.isVernaux
  exact site.wellFormed.auxs_apart isNeed isAux alsoNeed alsoAux other

theorem readVernaux_patched (site : Site data k needs target) (isNeed : n ∈ needs) (isAux : a ∈ n.auxs) :
    (readVernaux (patchedImage data k target) a).name = (readVernaux data a).name ∧
      (readVernaux (patchedImage data k target) a).next = (readVernaux data a).next := by
  apply readVernaux_congr
  intro i from_ below
  by_cases same : a = target
  · apply site.patched_versions (site.record_in (mem_records isNeed isAux) (by omega) below)
    omega
  · exact site.patched_record (mem_records isNeed isAux) (site.aux_apart isNeed isAux same) (by omega) below

theorem hash_other (site : Site data k needs target) (isNeed : n ∈ needs) (isAux : a ∈ n.auxs) (other : a ≠ target) :
    (readVernaux (patchedImage data k target) a).hash = (readVernaux data a).hash := by
  apply word_congr
  intro i from_ below
  exact site.patched_record (mem_records isNeed isAux) (site.aux_apart isNeed isAux other) from_
    (below.trans (Nat.add_lt_add_left (by decide) a))

theorem hash_target (site : Site data k needs target) :
    (readVernaux (patchedImage data k target) target).hash = elfHash new := by
  apply word_of_stored
  · intro i below
    have hash : target ≤ target + i ∧ target + i < target + 4 := ⟨Nat.le_add_right .., Nat.add_lt_add_left below _⟩
    have notDigit : target + i ≠ digitOff data k target := by
      intro isDigit
      have inside := site.hash_in hash
      rw [isDigit] at inside
      exact site.wellFormed.versionsDynstr.not_has inside site.digit_in
    rw [site.patched_other notDigit, site.getElem?_hashed, if_pos hash, Nat.add_sub_cancel_left]
  · decide

theorem digit_hashed (site : Site data k needs target) :
    (hashedImage data target)[digitOff data k target]? = some digitOld := by
  rw [site.hashed_strings site.digit_in, site.digit]

variable (from_ : (dynstr data k).offset ≤ off) (below : off < (dynstr data k).offset + (dynstr data k).size)

include from_ below

theorem string_hashed (site : Site data k needs target) : string (hashedImage data target) off = string data off := by
  obtain ⟨reaches, ends⟩ := site.wellFormed.dynstrTable.terminated below
  apply string_congr ends reaches
  intro i starts upTo
  exact site.hashed_strings (SectionHeader.has_iff.mpr ⟨from_.trans starts, by omega⟩)

theorem through_hashed (site : Site data k needs target) :
    Through (hashedImage data target) off (digitOff data k target) ↔ Through data off (digitOff data k target) := by
  unfold Through
  rw [site.string_hashed from_ below]

theorem string_unshared (site : Site data k needs target) (unshared : ¬ Through data off (digitOff data k target)) :
    string (patchedImage data k target) off = string data off := by
  rw [← site.through_hashed from_ below] at unshared
  rw [site.patched_eq_set, string_set_other site.digit_hashed (by decide) (by decide) unshared,
    site.string_hashed from_ below]

theorem string_shared (site : Site data k needs target) (shared : Through data off (digitOff data k target)) :
    ∃ front, string data off = front ++ [digitOld] ∧
      string (patchedImage data k target) off = front ++ [digitNew] := by
  have ended : (hashedImage data target)[digitOff data k target + 1]? = some 0 := by
    rw [site.hashed_strings site.name_end_in, site.name_ended]
  rw [← site.through_hashed from_ below] at shared
  rw [← site.string_hashed from_ below, site.patched_eq_set]
  exact string_set_last site.digit_hashed (by decide) (by decide) shared ended

omit from_ below

theorem sectionName_patched (site : Site data k needs target) (isSection : i < sectionCount data) :
    sectionName (patchedImage data k target) i = gnuVersionR ↔ sectionName data i = gnuVersionR := by
  have wellFormed := site.wellFormed
  have named := wellFormed.named i isSection
  have within : (names data).offset + (sectionHeader data i).name < (names data).offset + (names data).size :=
    Nat.add_lt_add_left named _
  have from_ : (names data).offset ≤ (names data).offset + (sectionHeader data i).name := Nat.le_add_right ..
  unfold sectionName
  rw [site.names_patched, site.sectionHeader_patched isSection]
  rcases wellFormed.namesDynstr with same | apart
  · rw [same] at within from_ ⊢
    by_cases shared : Through data ((dynstr data k).offset + (sectionHeader data i).name) (digitOff data k target)
    · obtain ⟨front, was, is⟩ := site.string_shared from_ within shared
      have neither : ∀ c : UInt8, c ≠ 114 → front ++ [c] ≠ gnuVersionR := by
        intro c notR equal
        have last := congrArg List.getLast? equal
        rw [List.getLast?_concat] at last
        exact notR (Option.some.inj last)
      rw [was, is]
      exact iff_of_false (neither digitNew (by decide)) (neither digitOld (by decide))
    · rw [site.string_unshared from_ within shared]
  · obtain ⟨reaches, ends⟩ := wellFormed.namesTable.terminated within
    have size := wellFormed.namesTable.nonempty
    have same : string (patchedImage data k target) ((names data).offset + (sectionHeader data i).name) =
        string data ((names data).offset + (sectionHeader data i).name) := by
      apply string_congr ends reaches
      intro j starts upTo
      apply site.patched_outside wellFormed.namesVersions apart
      rw [SectionHeader.has_iff]
      omega
    rw [same]

theorem table_ended (site : Site data k needs target) {h : SectionHeader} (table : StringTable data h)
    (versions : h.region.Apart (sectionHeader data k).region)
    (strings : h = dynstr data k ∨ h.region.Apart (dynstr data k).region) :
    StringTable (patchedImage data k target) h := by
  have nonempty := table.nonempty
  have inside : h.region.Has (h.offset + h.size - 1) := SectionHeader.has_iff.mpr ⟨by omega, by omega⟩
  refine ⟨nonempty, ?_⟩
  rcases strings with rfl | apart
  · have notDigit : (dynstr data k).offset + (dynstr data k).size - 1 ≠ digitOff data k target := by
      have name := site.name_inside
      unfold digitOff
      omega
    rw [site.patched_strings inside notDigit]
    exact table.ended
  · rw [site.patched_outside versions apart inside]
    exact table.ended

theorem wellFormed_patched (site : Site data k needs target) : WellFormed (patchedImage data k target) k needs := by
  have wellFormed := site.wellFormed
  have ident : ∀ i < sizeofEhdr, (patchedImage data k target)[i]? = data[i]? := by
    intro i below
    apply site.patched_outside wellFormed.headerVersions wellFormed.headerDynstr
    exact ⟨Nat.zero_le i, by rw [headerRegion, Nat.zero_add]; exact below⟩
  have versions := site.sectionHeader_patched wellFormed.versionsIn
  have count := site.sectionCount_patched
  have table : tableRegion (patchedImage data k target) = tableRegion data := by
    unfold tableRegion
    rw [site.eShoff_patched, count, site.eShentsize_patched]
  exact {
    header := by rw [site.length_patched]; exact wellFormed.header
    magic := by
      rw [← wellFormed.magic]
      apply List.ext_getElem?
      intro i
      rw [List.getElem?_take, List.getElem?_take]
      split
      · exact ident i (by unfold sizeofEhdr; omega)
      · rfl
    class64 := by rw [ident 4 (by decide)]; exact wellFormed.class64
    little := by rw [ident 5 (by decide)]; exact wellFormed.little
    entsize := by rw [site.eShentsize_patched]; exact wellFormed.entsize
    table := by
      rw [site.eShoff_patched, count, site.eShentsize_patched, site.length_patched]
      exact wellFormed.table
    shnum := by rw [site.eShnum_patched]; exact wellFormed.shnum
    extended := by rw [site.eShnum_patched, count]; exact wellFormed.extended
    xindex := by rw [site.eShstrndx_patched, site.namesIndex_patched]; exact wellFormed.xindex
    namesIn := by rw [site.namesIndex_patched, count]; exact wellFormed.namesIn
    namesTable := by
      rw [site.names_patched]
      exact site.table_ended wellFormed.namesTable wellFormed.namesVersions wellFormed.namesDynstr
    named := by
      intro i isSection
      rw [count] at isSection
      rw [site.names_patched, site.sectionHeader_patched isSection]
      exact wellFormed.named i isSection
    versionsIn := by rw [count]; exact wellFormed.versionsIn
    versionsNamed := (site.sectionName_patched wellFormed.versionsIn).mpr wellFormed.versionsNamed
    versionsFirst := by
      intro j before
      rw [Ne, site.sectionName_patched (before.trans wellFormed.versionsIn)]
      exact wellFormed.versionsFirst j before
    dynstrIn := by rw [versions, count]; exact wellFormed.dynstrIn
    dynstrTable := by
      rw [site.dynstr_patched]
      exact site.table_ended wellFormed.dynstrTable wellFormed.versionsDynstr.symm (Or.inl rfl)
    headerVersions := by rw [versions]; exact wellFormed.headerVersions
    headerDynstr := by rw [site.dynstr_patched]; exact wellFormed.headerDynstr
    tableVersions := by rw [table, versions]; exact wellFormed.tableVersions
    tableDynstr := by rw [table, site.dynstr_patched]; exact wellFormed.tableDynstr
    versionsDynstr := by rw [versions, site.dynstr_patched]; exact wellFormed.versionsDynstr
    namesVersions := by rw [site.names_patched, versions]; exact wellFormed.namesVersions
    namesDynstr := by rw [site.names_patched, site.dynstr_patched]; exact wellFormed.namesDynstr
    versionsWhole := by rw [versions, site.length_patched]; exact wellFormed.versionsWhole
    chain := by
      rw [versions]
      exact wellFormed.chain.congr (fun n isNeed => site.readVerneed_patched isNeed) fun n isNeed a isAux =>
        (site.readVernaux_patched isNeed isAux).2
    inside := by rw [versions]; exact wellFormed.inside
    distinct := wellFormed.distinct
    fileNames := by
      intro n isNeed
      rw [site.readVerneed_patched isNeed, site.dynstr_patched]
      exact wellFormed.fileNames n isNeed
    versionNames := by
      intro n isNeed a isAux
      rw [(site.readVernaux_patched isNeed isAux).1, site.dynstr_patched]
      exact wellFormed.versionNames n isNeed a isAux }

end Site

end RavennaLkm.CurlPatch
