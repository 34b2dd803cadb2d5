import RavennaLkm.CurlPatchNames

/-!
The requirement of CURL_OPENSSL_3 in a well-formed image is found and rewritten
whatever else the image holds, and every other Vernaux keeps its hash: so the
hashes are right afterwards only if no other version name is read through the
character that has changed.
-/
namespace RavennaLkm.CurlPatch
open CheckedLoop ByteWords

variable {data : Bytes} {k target i a : Nat} {needs : List Need} {n : Need}

theorem WellFormed.version_in (wellFormed : WellFormed data k needs) (isNeed : n ∈ needs) (isAux : a ∈ n.auxs) :
    versionOff data (dynstr data k).offset a < (dynstr data k).offset + (dynstr data k).size :=
  Nat.add_lt_add_left (wellFormed.versionNames n isNeed a isAux) _

/-- No version name but the one of `target` is read through its last character. -/
def Unshared (data : Bytes) (k : Nat) (needs : List Need) (target : Nat) : Prop :=
  ∀ n ∈ needs, ∀ a ∈ n.auxs, a ≠ target →
    ¬ Through data (versionOff data (dynstr data k).offset a) (digitOff data k target)

instance (data : Bytes) (k : Nat) (needs : List Need) (target : Nat) : Decidable (Unshared data k needs target) :=
  inferInstanceAs (Decidable (∀ n ∈ needs, ∀ a ∈ n.auxs, a ≠ target →
    ¬ Through data (versionOff data (dynstr data k).offset a) (digitOff data k target)))

namespace Site

theorem versionName_patched (site : Site data k needs target) (isNeed : n ∈ needs) (isAux : a ∈ n.auxs) :
    versionName (patchedImage data k target) (dynstr data k).offset a =
      string (patchedImage data k target) (versionOff data (dynstr data k).offset a) := by
  unfold versionName versionOff
  rw [(site.readVernaux_patched isNeed isAux).1]

theorem version_shared (site : Site data k needs target) (isNeed : n ∈ needs) (isAux : a ∈ n.auxs)
    (shared : Through data (versionOff data (dynstr data k).offset a) (digitOff data k target)) :
    ∃ front, versionName data (dynstr data k).offset a = front ++ [digitOld] ∧
      versionName (patchedImage data k target) (dynstr data k).offset a = front ++ [digitNew] := by
  rw [site.versionName_patched isNeed isAux]
  exact site.string_shared (Nat.le_add_right ..) (site.wellFormed.version_in isNeed isAux) shared

theorem version_unshared (site : Site data k needs target) (isNeed : n ∈ needs) (isAux : a ∈ n.auxs)
    (unshared : ¬ Through data (versionOff data (dynstr data k).offset a) (digitOff data k target)) :
    versionName (patchedImage data k target) (dynstr data k).offset a = versionName data (dynstr data k).offset a := by
  rw [site.versionName_patched isNeed isAux]
  exact site.string_unshared (Nat.le_add_right ..) (site.wellFormed.version_in isNeed isAux) unshared

theorem version_target (site : Site data k needs target) :
    versionName (patchedImage data k target) (dynstr data k).offset target = new := by
  obtain ⟨n, isNeed, isAux⟩ := site.isVernaux
  have length := site.length_name
  have through : Through data (versionOff data (dynstr data k).offset target) (digitOff data k target) := by
    unfold nameOff at length
    unfold Through digitOff nameOff
    omega
  obtain ⟨front, was, is⟩ := site.version_shared isNeed isAux through
  have split : front ++ [digitOld] = old.dropLast ++ [digitOld] := was.symm.trans site.named
  rw [is, List.append_cancel_right split]
  rfl

theorem hashes_patched_iff (site : Site data k needs target) (hashes : HashesMatch data k needs) :
    HashesMatch (patchedImage data k target) k needs ↔ Unshared data k needs target := by
  unfold HashesMatch Unshared
  rw [site.dynstr_patched]
  constructor
  · intro match_ n isNeed a isAux other shared
    obtain ⟨front, was, is⟩ := site.version_shared isNeed isAux shared
    have stale := match_ n isNeed a isAux
    rw [site.hash_other isNeed isAux other, hashes n isNeed a isAux, was, is] at stale
    have low : elfHash (front ++ [digitOld]) % 2 ^ 4 = elfHash (front ++ [digitNew]) % 2 ^ 4 := by rw [stale]
    rw [elfHash_last, elfHash_last] at low
    exact absurd low (by decide)
  · intro unshared n isNeed a isAux
    by_cases same : a = target
    · rw [same, site.hash_target, site.version_target]
    · rw [site.hash_other isNeed isAux same, site.version_unshared isNeed isAux (unshared n isNeed a isAux same)]
      exact hashes n isNeed a isAux

theorem version_sought (site : Site data k needs target) (isNeed : n ∈ needs) (isAux : a ∈ n.auxs)
    (sought : versionName (patchedImage data k target) (dynstr data k).offset a = old) :
    versionName data (dynstr data k).offset a = old := by
  by_cases shared : Through data (versionOff data (dynstr data k).offset a) (digitOff data k target)
  · obtain ⟨front, -, is⟩ := site.version_shared isNeed isAux shared
    have last := congrArg List.getLast? (is.symm.trans sought)
    rw [List.getLast?_concat] at last
    exact absurd (Option.some.inj last) (by decide)
  · rw [← site.version_unshared isNeed isAux shared]
    exact sought

/-- The name of a library does not become libcurl.so.4: `_` stands before the new digit. -/
theorem library_sought (site : Site data k needs target) (isNeed : n ∈ needs)
    (sought : libraryName (patchedImage data k target) (dynstr data k).offset n = libcurl) :
    libraryName data (dynstr data k).offset n = libcurl := by
  have from_ : (dynstr data k).offset ≤ (dynstr data k).offset + (readVerneed data n.off).file := Nat.le_add_right ..
  have below : (dynstr data k).offset + (readVerneed data n.off).file < (dynstr data k).offset + (dynstr data k).size :=
    Nat.add_lt_add_left (site.wellFormed.fileNames n isNeed) _
  unfold libraryName at sought ⊢
  rw [site.readVerneed_patched isNeed] at sought
  generalize (dynstr data k).offset + (readVerneed data n.off).file = off at *
  by_cases shared : Through data off (digitOff data k target)
  · obtain ⟨front, was, is⟩ := site.string_shared from_ below shared
    have split : front ++ [digitNew] = libcurl.dropLast ++ [digitNew] := is.symm.trans sought
    rw [List.append_cancel_right split] at was
    have length : (string data off).length = 12 := congrArg List.length was
    have reaches := string_before site.name_ended (Nat.le_succ_of_le shared.1)
    have dot : data[off + 10]? = some 46 := by
      rw [getElem?_string (by omega), ← List.getElem?_eq_getElem, was]
      rfl
    have underscore : data[nameOff data k target + 12]? = some 95 := site.name_char (by decide)
    have same : off + 10 = nameOff data k target + 12 := by
      obtain ⟨-, last⟩ := shared
      unfold digitOff at last reaches
      omega
    rw [same, underscore] at dot
    exact absurd (Option.some.inj dot) (by decide)
  · rw [← site.string_unshared from_ below shared]
    exact sought

theorem sought_before (site : Site data k needs target) (isNeed : n ∈ needs) (isAux : a ∈ n.auxs)
    (sought : Sought (patchedImage data k target) (dynstr data k).offset n a) :
    Sought data (dynstr data k).offset n a :=
  ⟨site.library_sought isNeed sought.1, site.version_sought isNeed isAux sought.2⟩

end Site

theorem WellFormed.terminated (wellFormed : WellFormed data k needs) {name : Nat}
    (inside : name < (dynstr data k).size) :
    Terminated data ((dynstr data k).offset + name) :=
  ⟨_, wellFormed.dynstrTable.terminated (Nat.add_lt_add_left inside _)⟩

theorem WellFormed.record_whole (wellFormed : WellFormed data k needs) {r : Nat} (isIn : r ∈ records needs) :
    r + sizeofVernaux ≤ data.length :=
  (wellFormed.inside r isIn).2.trans wellFormed.versionsWhole

theorem WellFormed.needReadable (wellFormed : WellFormed data k needs) (isNeed : n ∈ needs) :
    NeedReadable data (dynstr data k).offset n where
  inside := wellFormed.record_whole (off_mem_records isNeed)
  named := wellFormed.terminated (wellFormed.fileNames n isNeed)
  auxs := fun a isAux =>
    { inside := wellFormed.record_whole (mem_records isNeed isAux)
      named := wellFormed.terminated (wellFormed.versionNames n isNeed a isAux) }

theorem WellFormed.split {before after : List Need} {front back : List Nat}
    (wellFormed : WellFormed data k needs) (whole : needs = before ++ n :: after)
    (wholeAuxs : n.auxs = front ++ target :: back) :
    (∀ m ∈ before ++ after, target ∉ m.auxs) ∧ target ∉ front ++ back := by
  constructor
  · intro m isIn alsoAux
    have here : target ∈ n.off :: n.auxs := by
      rw [wholeAuxs]
      simp
    have there : target ∈ m.off :: m.auxs := List.mem_cons_of_mem _ alsoAux
    have different := wellFormed.needs_apart
    rw [whole, List.pairwise_middle NeedsApart.symm, List.pairwise_cons] at different
    exact (different.1 m isIn target here target there).ne rfl
  · intro again
    have isNeed : n ∈ needs := by
      rw [whole]
      simp
    have auxs := (List.pairwise_cons.mp (wellFormed.one_apart isNeed)).2
    rw [wholeAuxs, List.pairwise_middle RecordsApart.symm, List.pairwise_cons] at auxs
    exact (auxs.1 target again).ne rfl

namespace OnlyRequirement

theorem site (only : OnlyRequirement data k needs target) (wellFormed : WellFormed data k needs) :
    Site data k needs target := by
  obtain ⟨n, isNeed, isAux, -, named⟩ := only.sought
  exact ⟨wellFormed, ⟨n, isNeed, isAux⟩, named⟩

theorem unsought (only : OnlyRequirement data k needs target) (isNeed : n ∈ needs) (isAux : a ∈ n.auxs)
    (other : a ≠ target) : ¬ Sought data (dynstr data k).offset n a :=
  fun sought => other (only.unique n isNeed a isAux sought)

theorem unsought_patched (only : OnlyRequirement data k needs target) (wellFormed : WellFormed data k needs)
    (isNeed : n ∈ needs) (isAux : a ∈ n.auxs) (other : a ≠ target) :
    ¬ Sought (patchedImage data k target) (dynstr data k).offset n a :=
  fun sought => only.unsought isNeed isAux other ((only.site wellFormed).sought_before isNeed isAux sought)

end OnlyRequirement

theorem Site.chain_patched (site : Site data k needs target) :
    NeedChain (patchedImage data k target) (sectionHeader data k).offset needs := by
  have chain := site.wellFormed_patched.chain
  rwa [site.sectionHeader_patched site.wellFormed.versionsIn] at chain

theorem Site.needReadable_patched (site : Site data k needs target) (isNeed : n ∈ needs) :
    NeedReadable (patchedImage data k target) (dynstr data k).offset n := by
  have readable := site.wellFormed_patched.needReadable isNeed
  rwa [site.dynstr_patched] at readable

theorem patchAux_target (patched : Nat) (wellFormed : WellFormed data k needs)
    (only : OnlyRequirement data k needs target) (hashes : HashesMatch data k needs) (isNeed : n ∈ needs)
    (isAux : target ∈ n.auxs) (library : libraryName data (dynstr data k).offset n = libcurl) :
    patchAux (dynstr data k).offset libcurl n.auxs.length (n.off + (readVerneed data n.off).aux) ⟨data, patched⟩ =
      .ok ⟨patchedImage data k target, patched + 1⟩ := by
  have site := only.site wellFormed
  obtain ⟨before, after, whole⟩ := List.append_of_mem isNeed
  obtain ⟨front, back, wholeAuxs⟩ := List.append_of_mem isAux
  obtain ⟨-, once⟩ := wellFormed.split whole wholeAuxs
  have inFront : ∀ a ∈ front, a ∈ n.auxs ∧ a ≠ target := by
    intro a isIn
    constructor
    · rw [wholeAuxs]
      exact List.mem_append_left _ isIn
    · intro same
      subst same
      exact once (List.mem_append_left _ isIn)
  have inBack : ∀ a ∈ back, a ∈ n.auxs ∧ a ≠ target := by
    intro a isIn
    constructor
    · rw [wholeAuxs]
      exact List.mem_append_right _ (List.mem_cons_of_mem _ isIn)
    · intro same
      subst same
      exact once (List.mem_append_right _ isIn)
  have chain := wellFormed.chain.auxChain isNeed
  have chain' := site.chain_patched.auxChain isNeed
  have readable := (wellFormed.needReadable isNeed).auxs
  have readable' := (site.needReadable_patched isNeed).auxs
  have hash : (readVernaux data target).hash = elfHash old := by rw [hashes n isNeed target isAux, site.named]
  rw [wholeAuxs] at chain chain' readable ⊢
  have behind := chain'.behind.2
  rw [(site.readVernaux_patched isNeed isAux).2] at behind
  apply patchAux_hit chain readable _ site.named hash rfl behind
  · intro a isIn
    exact readable' a (inBack a isIn).1
  · intro a isIn named
    obtain ⟨isAux, other⟩ := inBack a isIn
    exact only.unsought isNeed isAux other ⟨library, site.version_sought isNeed isAux named⟩
  · intro a isIn named
    obtain ⟨isAux, other⟩ := inFront a isIn
    exact only.unsought isNeed isAux other ⟨library, named⟩

theorem patchNeeds_target (wellFormed : WellFormed data k needs) (only : OnlyRequirement data k needs target)
    (hashes : HashesMatch data k needs) :
    patchNeeds (sectionHeader data k).offset (sectionHeader data k).size (dynstr data k).offset 0 ⟨data, 0⟩ =
      .ok ⟨patchedImage data k target, 1⟩ := by
  have site := only.site wellFormed
  obtain ⟨n, isNeed, isAux, library, -⟩ := only.sought
  obtain ⟨before, after, whole⟩ := List.append_of_mem isNeed
  obtain ⟨front, back, wholeAuxs⟩ := List.append_of_mem isAux
  obtain ⟨elsewhere, -⟩ := wellFormed.split whole wholeAuxs
  have inBefore : ∀ m ∈ before, m ∈ needs ∧ target ∉ m.auxs := by
    intro m isIn
    constructor
    · rw [whole]
      exact List.mem_append_left _ isIn
    · exact elsewhere m (List.mem_append_left _ isIn)
  have inAfter : ∀ m ∈ after, m ∈ needs ∧ target ∉ m.auxs := by
    intro m isIn
    constructor
    · rw [whole]
      exact List.mem_append_right _ (List.mem_cons_of_mem _ isIn)
    · exact elsewhere m (List.mem_append_right _ isIn)
  have within : ∀ m ∈ needs, m.off < (sectionHeader data k).offset + (sectionHeader data k).size := by
    intro m isIn
    have inside := (wellFormed.inside m.off (off_mem_records isIn)).2
    unfold sizeofVernaux at inside
    omega
  have readable : ∀ m ∈ needs, NeedReadable data (dynstr data k).offset m := fun m isIn => wellFormed.needReadable isIn
  have done := patchAux_target 0 wellFormed only hashes isNeed isAux library
  rw [← library] at done
  have chain := wellFormed.chain
  rw [← Nat.add_zero (sectionHeader data k).offset] at chain
  have chain' := site.chain_patched
  rw [whole] at chain chain' readable within
  have behind := chain'.behind.2
  rw [site.readVerneed_patched isNeed] at behind
  apply patchNeeds_hit chain readable within _ done behind
  · intro m isIn
    exact site.needReadable_patched (inAfter m isIn).1
  · intro m isIn a alsoAux
    obtain ⟨alsoNeed, absent⟩ := inAfter m isIn
    exact only.unsought_patched wellFormed alsoNeed alsoAux (ne_of_mem_of_not_mem alsoAux absent)
  · intro m isIn a alsoAux
    obtain ⟨alsoNeed, absent⟩ := inBefore m isIn
    exact only.unsought alsoNeed alsoAux (ne_of_mem_of_not_mem alsoAux absent)

theorem checkByte_ok {index : Nat} {value : UInt8} (here : data[index]? = some value) :
    checkByte data index value = .ok () := by
  unfold checkByte
  rw [here]
  exact if_neg (not_not.mpr rfl)

theorem WellFormed.checkIdent_ok (wellFormed : WellFormed data k needs) : checkIdent data = .ok () := by
  unfold checkIdent
  rw [if_neg (not_not.mpr wellFormed.magic), checkByte_ok wellFormed.class64, ok_bind, checkByte_ok wellFormed.little]

theorem WellFormed.patchData_eq (wellFormed : WellFormed data k needs) : patchData data =
    (shdr data (eShoff data) (eShentsize data) (eShstrndx data) >>= fun shstr =>
      readSections data (eShoff data) (eShentsize data) (eShnum data) shstr.offset >>= patchSections data) := by
  have header := wellFormed.header
  unfold sizeofEhdr at header
  have shoff : unpackFrom 8 (word · · 8) data 0x28 = .ok (eShoff data) := unpackFrom_ok _ (by omega)
  have shentsize : unpackFrom 2 (word · · 2) data 0x3A = .ok (eShentsize data) := unpackFrom_ok _ (by omega)
  have shnum : unpackFrom 2 (word · · 2) data 0x3C = .ok (eShnum data) := unpackFrom_ok _ (by omega)
  have shstrndx : unpackFrom 2 (word · · 2) data 0x3E = .ok (eShstrndx data) := unpackFrom_ok _ (by omega)
  unfold patchData
  rw [wellFormed.checkIdent_ok, ok_bind, shoff, ok_bind, shentsize, ok_bind, shnum, ok_bind, shstrndx, ok_bind]

/-- The extended numbering is not looked at: such a file has no sections. -/
theorem WellFormed.patchData_extended (wellFormed : WellFormed data k needs) (extended : eShnum data = 0) :
    ∃ exit, patchData data = .error exit := by
  rw [wellFormed.patchData_eq]
  cases shdr data (eShoff data) (eShentsize data) (eShstrndx data) with
  | error exit => exact ⟨exit, rfl⟩
  | ok shstr =>
    refine ⟨noVersionR, ?_⟩
    rw [ok_bind, extended]
    rfl

theorem WellFormed.shdr_ok (wellFormed : WellFormed data k needs) (below : i < sectionCount data) :
    shdr data (eShoff data) (eShentsize data) i = .ok (sectionHeader data i) := by
  have inTable := wellFormed.header_in_table below
  have table := wellFormed.table
  unfold sizeofShdr at inTable
  exact unpackFrom_ok _ (by omega)

def namedSection (data : Bytes) (i : Nat) : Bytes × SectionHeader := (sectionName data i, sectionHeader data i)

theorem WellFormed.readSections_ok (wellFormed : WellFormed data k needs) (count : eShnum data = sectionCount data) :
    readSections data (eShoff data) (eShentsize data) (eShnum data) (names data).offset =
      .ok ((List.range (sectionCount data)).map (namedSection data)) := by
  unfold readSections
  rw [count]
  apply mapM_ok
  intro i isIn
  have below : i < sectionCount data := List.mem_range.mp isIn
  have named := Nat.add_lt_add_left (wellFormed.named i below) (names data).offset
  have read := cstring_ok ⟨_, wellFormed.namesTable.terminated named⟩
  rw [wellFormed.shdr_ok below, ok_bind, read, ok_bind]
  rfl

theorem WellFormed.patchSections_eq (wellFormed : WellFormed data k needs) :
    patchSections data ((List.range (sectionCount data)).map (namedSection data)) =
      (patchNeeds (sectionHeader data k).offset (sectionHeader data k).size (dynstr data k).offset 0 ⟨data, 0⟩ >>= fun st =>
        if st.patched ≠ 1 then .error (notOne st.patched) else .ok st.data) := by
  have found : (List.range (sectionCount data)).find? ((fun s => decide (s.1 = gnuVersionR)) ∘ namedSection data) =
      some k := by
    rw [List.find?_range_eq_some]
    refine ⟨decide_eq_true wellFormed.versionsNamed, List.mem_range.mpr wellFormed.versionsIn, ?_⟩
    intro j before
    have other : decide ((namedSection data j).1 = gnuVersionR) = false :=
      decide_eq_false (wellFormed.versionsFirst j before)
    rw [Function.comp_apply, other]
    rfl
  have strings : ((List.range (sectionCount data)).map (namedSection data))[(sectionHeader data k).link]? =
      some (namedSection data (sectionHeader data k).link) := by
    rw [List.getElem?_map, List.getElem?_range wellFormed.dynstrIn, Option.map_some]
  unfold patchSections
  rw [List.find?_map, found]
  dsimp only [Option.map_some, namedSection]
  rw [strings]
  rfl

theorem WellFormed.patchData_numbered (wellFormed : WellFormed data k needs)
    (only : OnlyRequirement data k needs target) (hashes : HashesMatch data k needs) (numbered : eShnum data ≠ 0) :
    patchData data = .ok (patchedImage data k target) := by
  have count : eShnum data = sectionCount data := by rw [sectionCount, if_neg numbered]
  have shnum := wellFormed.shnum
  have index : namesIndex data = eShstrndx data := by
    have namesIn := wellFormed.namesIn
    have xindex := wellFormed.xindex
    unfold namesIndex at *
    split at namesIn
    · rename_i extended
      have reserved := xindex extended
      rw [if_pos extended] at reserved
      omega
    · rename_i direct
      rw [if_neg direct]
  have names : shdr data (eShoff data) (eShentsize data) (eShstrndx data) = .ok (names data) := by
    rw [← index]
    exact wellFormed.shdr_ok wellFormed.namesIn
  rw [wellFormed.patchData_eq, names, ok_bind, wellFormed.readSections_ok count, ok_bind, wellFormed.patchSections_eq,
    patchNeeds_target wellFormed only hashes, ok_bind]
  rfl

end RavennaLkm.CurlPatch
