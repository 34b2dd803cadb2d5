import RavennaLkm.CurlPatch

/-!
64-bit little-endian ELF images with version requirements: where the sections
are, the chains of Verneed and Vernaux records, and the hash that belongs to each
version name. A file with 0xff00 or more sections has their number and the index
of the names in the first section header.
-/
namespace RavennaLkm.CurlPatch
open ByteWords

variable {data : Bytes}

def eShoff (data : Bytes) : Nat := word data 0x28 8
def eShentsize (data : Bytes) : Nat := word data 0x3A 2
def eShnum (data : Bytes) : Nat := word data 0x3C 2
def eShstrndx (data : Bytes) : Nat := word data 0x3E 2

def sizeofEhdr : Nat := 64
def sizeofShdr : Nat := 64
def sizeofVerneed : Nat := 16
def sizeofVernaux : Nat := 16
def shnLoreserve : Nat := 0xff00
def shnXindex : Nat := 0xffff

def sectionHeader (data : Bytes) (i : Nat) : SectionHeader :=
  readSectionHeader data (eShoff data + i * eShentsize data)

def sectionCount (data : Bytes) : Nat := if eShnum data = 0 then (sectionHeader data 0).size else eShnum data

def namesIndex (data : Bytes) : Nat :=
  if eShstrndx data = shnXindex then (sectionHeader data 0).link else eShstrndx data

def names (data : Bytes) : SectionHeader := sectionHeader data (namesIndex data)

def sectionName (data : Bytes) (i : Nat) : Bytes := string data ((names data).offset + (sectionHeader data i).name)

def dynstr (data : Bytes) (k : Nat) : SectionHeader := sectionHeader data (sectionHeader data k).link

/-- A part of the file. -/
structure Region where
  start : Nat
  size : Nat
  deriving DecidableEq, Repr

def Region.Has (r : Region) (i : Nat) : Prop := r.start ≤ i ∧ i < r.start + r.size

/-- No byte of the file is in both. -/
def Region.Apart (r s : Region) : Prop := r.start + r.size ≤ s.start ∨ s.start + s.size ≤ r.start

theorem Region.Apart.symm {r s : Region} (apart : r.Apart s) : s.Apart r := Or.symm apart

theorem Region.Apart.not_has {r s : Region} {i : Nat} (apart : r.Apart s) (inside : r.Has i) : ¬ s.Has i := by
  unfold Apart at apart
  unfold Has at inside ⊢
  omega

instance (r s : Region) : Decidable (r.Apart s) := inferInstanceAs (Decidable (_ ∨ _))

def SectionHeader.region (h : SectionHeader) : Region := ⟨h.offset, h.size⟩

theorem SectionHeader.has_iff {h : SectionHeader} {i : Nat} :
    h.region.Has i ↔ h.offset ≤ i ∧ i < h.offset + h.size := Iff.rfl

def headerRegion : Region := ⟨0, sizeofEhdr⟩
def tableRegion (data : Bytes) : Region := ⟨eShoff data, sectionCount data * eShentsize data⟩

@[mk_iff]
structure StringTable (data : Bytes) (h : SectionHeader) : Prop where
  nonempty : 0 < h.size
  ended : data[h.offset + h.size - 1]? = some 0

structure Need where
  off : Nat
  auxs : List Nat
  deriving DecidableEq, Repr

def AuxChain (data : Bytes) : Nat → List Nat → Prop
  | _, [] => True
  | off, a :: rest =>
    a = off ∧ ((readVernaux data a).next = 0 ↔ rest = []) ∧ AuxChain data (a + (readVernaux data a).next) rest

def NeedChain (data : Bytes) : Nat → List Need → Prop
  | _, [] => True
  | off, n :: rest =>
    n.off = off ∧ (readVerneed data n.off).cnt = n.auxs.length ∧
      AuxChain data (n.off + (readVerneed data n.off).aux) n.auxs ∧
      ((readVerneed data n.off).next = 0 ↔ rest = []) ∧ NeedChain data (n.off + (readVerneed data n.off).next) rest

instance AuxChain.decidable (data : Bytes) : (off : Nat) → (auxs : List Nat) → Decidable (AuxChain data off auxs)
  | _, [] => inferInstanceAs (Decidable True)
  | _, a :: rest =>
    have := AuxChain.decidable data (a + (readVernaux data a).next) rest
    inferInstanceAs (Decidable (_ ∧ _ ∧ _))

instance NeedChain.decidable (data : Bytes) : (off : Nat) → (needs : List Need) → Decidable (NeedChain data off needs)
  | _, [] => inferInstanceAs (Decidable True)
  | _, n :: rest =>
    have := NeedChain.decidable data (n.off + (readVerneed data n.off).next) rest
    inferInstanceAs (Decidable (_ ∧ _ ∧ _ ∧ _ ∧ _))

def records (needs : List Need) : List Nat := needs.flatMap fun n => n.off :: n.auxs

def RecordsApart (r s : Nat) : Prop := r + sizeofVernaux ≤ s ∨ s + sizeofVernaux ≤ r

instance : DecidableRel RecordsApart := fun _ _ => inferInstanceAs (Decidable (_ ∨ _))

def libraryName (data : Bytes) (dynstrOff : Nat) (n : Need) : Bytes :=
  string data (dynstrOff + (readVerneed data n.off).file)

def versionOff (data : Bytes) (dynstrOff a : Nat) : Nat := dynstrOff + (readVernaux data a).name

def versionName (data : Bytes) (dynstrOff a : Nat) : Bytes := string data (versionOff data dynstrOff a)

def Sought (data : Bytes) (dynstrOff : Nat) (n : Need) (a : Nat) : Prop :=
  libraryName data dynstrOff n = libcurl ∧ versionName data dynstrOff a = old

instance (data : Bytes) (dynstrOff : Nat) (n : Need) (a : Nat) : Decidable (Sought data dynstrOff n a) :=
  inferInstanceAs (Decidable (_ ∧ _))

/-- A well-formed image whose section `k` holds the version requirements `needs`. -/
@[mk_iff]
structure WellFormed (data : Bytes) (k : Nat) (needs : List Need) : Prop where
  header : sizeofEhdr ≤ data.length
  magic : data.take 4 = elfMagic
  class64 : data[4]? = some 2
  little : data[5]? = some 1
  entsize : sizeofShdr ≤ eShentsize data
  table : eShoff data + sectionCount data * eShentsize data ≤ data.length
  shnum : eShnum data < shnLoreserve
  extended : eShnum data = 0 → shnLoreserve ≤ sectionCount data
  xindex : eShstrndx data = shnXindex → shnLoreserve ≤ namesIndex data
  namesIn : namesIndex data < sectionCount data
  namesTable : StringTable data (names data)
  named : ∀ i < sectionCount data, (sectionHeader data i).name < (names data).size
  versionsIn : k < sectionCount data
  versionsNamed : sectionName data k = gnuVersionR
  versionsFirst : ∀ j < k, sectionName data j ≠ gnuVersionR
  dynstrIn : (sectionHeader data k).link < sectionCount data
  dynstrTable : StringTable data (dynstr data k)
  headerVersions : headerRegion.Apart (sectionHeader data k).region
  headerDynstr : headerRegion.Apart (dynstr data k).region
  tableVersions : (tableRegion data).Apart (sectionHeader data k).region
  tableDynstr : (tableRegion data).Apart (dynstr data k).region
  versionsDynstr : (sectionHeader data k).region.Apart (dynstr data k).region
  namesVersions : (names data).region.Apart (sectionHeader data k).region
  /-- The sections may be named from the dynamic strings. -/
  namesDynstr : names data = dynstr data k ∨ (names data).region.Apart (dynstr data k).region
  versionsWhole : (sectionHeader data k).offset + (sectionHeader data k).size ≤ data.length
  chain : NeedChain data (sectionHeader data k).offset needs
  inside : ∀ r ∈ records needs, (sectionHeader data k).offset ≤ r ∧
    r + sizeofVernaux ≤ (sectionHeader data k).offset + (sectionHeader data k).size
  distinct : (records needs).Pairwise RecordsApart
  fileNames : ∀ n ∈ needs, (readVerneed data n.off).file < (dynstr data k).size
  versionNames : ∀ n ∈ needs, ∀ a ∈ n.auxs, (readVernaux data a).name < (dynstr data k).size

def HashesMatch (data : Bytes) (k : Nat) (needs : List Need) : Prop :=
  ∀ n ∈ needs, ∀ a ∈ n.auxs, (readVernaux data a).hash = elfHash (versionName data (dynstr data k).offset a)

@[mk_iff]
structure OnlyRequirement (data : Bytes) (k : Nat) (needs : List Need) (target : Nat) : Prop where
  sought : ∃ n ∈ needs, target ∈ n.auxs ∧ Sought data (dynstr data k).offset n target
  unique : ∀ n ∈ needs, ∀ a ∈ n.auxs, Sought data (dynstr data k).offset n a → a = target

/-- An image as it is meant to be patched: all hashes are right and one requirement is sought. -/
@[mk_iff]
structure Patchable (data : Bytes) (k : Nat) (needs : List Need) (target : Nat) : Prop where
  wellFormed : WellFormed data k needs
  hashes : HashesMatch data k needs
  only : OnlyRequirement data k needs target

instance (data : Bytes) (h : SectionHeader) : Decidable (StringTable data h) :=
  decidable_of_iff _ (stringTable_iff data h).symm

instance (data : Bytes) (k : Nat) (needs : List Need) : Decidable (WellFormed data k needs) :=
  decidable_of_iff _ (wellFormed_iff data k needs).symm

instance (data : Bytes) (k : Nat) (needs : List Need) : Decidable (HashesMatch data k needs) :=
  inferInstanceAs (Decidable (∀ n ∈ needs, ∀ a ∈ n.auxs, (readVernaux data a).hash =
    elfHash (versionName data (dynstr data k).offset a)))

instance (data : Bytes) (k : Nat) (needs : List Need) (target : Nat) :
    Decidable (OnlyRequirement data k needs target) :=
  decidable_of_iff _ (onlyRequirement_iff data k needs target).symm

instance (data : Bytes) (k : Nat) (needs : List Need) (target : Nat) : Decidable (Patchable data k needs target) :=
  decidable_of_iff _ (patchable_iff data k needs target).symm

end RavennaLkm.CurlPatch
