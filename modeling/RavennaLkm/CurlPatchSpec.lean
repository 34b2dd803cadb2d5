import RavennaLkm.CurlPatchRun
import RavennaLkm.PatchAtomicity

/-!
patch from file to file: an image as it is meant ends as the same image with the
other version exactly if no second requirement shares the text of its name.
-/
namespace RavennaLkm.CurlPatch
open ByteWords

variable {Path : Type} [DecidableEq Path] [ToString Path] {fs : FileSystem Path} {now : Nat} {src dst : Path} {f : File}
  {data : Bytes} {k target : Nat} {needs : List Need}

/-- `libcurl.so.3`. -/
def olderLibcurl : Bytes := [108, 105, 98, 99, 117, 114, 108, 46, 115, 111, 46, 51]
/-- `CURL_GNUTLS_3`. -/
def gnuTLS : Bytes := [67, 85, 82, 76, 95, 71, 78, 85, 84, 76, 83, 95, 51]

def exampleSection (name offset size link : Nat) : Bytes :=
  [wordBytes 4 name, List.replicate 20 0, wordBytes 8 offset, wordBytes 8 size, wordBytes 4 link,
    List.replicate 20 0].flatten

def exampleRequirement (file next name : Nat) (version : Bytes) : Bytes :=
  [wordBytes 2 1, wordBytes 2 1, wordBytes 4 file, wordBytes 4 16, wordBytes 4 next,
    wordBytes 4 (elfHash version), wordBytes 4 0, wordBytes 4 name, wordBytes 4 0].flatten

def exampleImage (name : Nat) (version : Bytes) : Bytes :=
  [elfMagic, [2, 1, 1], List.replicate 33 0, wordBytes 8 64, List.replicate 10 0, wordBytes 2 64, wordBytes 2 3,
    wordBytes 2 2, exampleSection 0 0 0 0, exampleSection 29 256 64 2, exampleSection 0 320 71 0,
    exampleRequirement 1 32 14 old, exampleRequirement 44 0 name version,
    [0], libcurl, [0], old, [0], gnuVersionR, [0], olderLibcurl, [0], gnuTLS, [0]].flatten

def exampleNeeds : List Need := [⟨256, [272]⟩, ⟨288, [304]⟩]

def exampleFile (name : Nat) (version : Bytes) : File :=
  { contents := exampleImage name version, mode := 0o755, modified := 0 }

theorem exampleFile_copies (f : File) : Copies (exampleFiles f .absent) defaultInput defaultOutput f where
  elsewhere := default_ne
  isFile := rfl
  can := ⟨default_ne, nofun, nofun⟩

theorem patchable_unshared : Patchable (exampleImage 57 gnuTLS) 1 exampleNeeds 272 ∧
    eShnum (exampleImage 57 gnuTLS) ≠ 0 ∧ Unshared (exampleImage 57 gnuTLS) 1 exampleNeeds 272 := by
  decide +kernel

theorem patchable_shared : Patchable (exampleImage 14 old) 1 exampleNeeds 272 ∧
    eShnum (exampleImage 14 old) ≠ 0 ∧ ¬ Unshared (exampleImage 14 old) 1 exampleNeeds 272 := by
  decide +kernel

/-- Only the hash of `target` and its version name have changed, and every Vernaux has the hash of its name. -/
structure RightlyPatched (data data' : Bytes) (k : Nat) (needs : List Need) (target : Nat) : Prop where
  length : data'.length = data.length
  same : ∀ i, ¬ (target ≤ i ∧ i < target + 4) →
    ¬ (nameOff data k target ≤ i ∧ i < nameOff data k target + old.length) → data'[i]? = data[i]?
  wellFormed : WellFormed data' k needs
  renamed : versionName data' (dynstr data' k).offset target = new
  hashes : HashesMatch data' k needs

theorem Site.rightlyPatched_iff (site : Site data k needs target) (hashes : HashesMatch data k needs) :
    RightlyPatched data (patchedImage data k target) k needs target ↔ Unshared data k needs target := by
  rw [← site.hashes_patched_iff hashes]
  constructor
  · exact RightlyPatched.hashes
  · intro match_
    refine ⟨site.length_patched, ?_, site.wellFormed_patched, ?_, match_⟩
    · intro i notHash notName
      apply site.patched_same _ notHash
      intro same
      subst same
      exact notName ⟨Nat.le_add_right .., Nat.add_lt_add_left (by decide) _⟩
    · rw [site.dynstr_patched]
      exact site.version_target

/-- The input is patched into `dst`, and nothing else changes. -/
def PatchesRightly (fs : FileSystem Path) (now : Nat) (src dst : Path) (f : File) (k : Nat) (needs : List Need)
    (target : Nat) : Prop :=
  ∃ g, patch fs now src dst = (.ok (), fs.write dst g) ∧ RightlyPatched f.contents g.contents k needs target

theorem patch_file (copies : Copies fs src dst f) (notDirectory : fs.read dst ≠ .directory) :
    patch fs now src dst = match patchData f.contents with
      | .error exit => (.error exit, fs.write dst f)
      | .ok data => (.ok (), fs.write dst { contents := data, mode := f.mode ||| 0o100, modified := now }) := by
  have here : fs.copyPath src dst = dst := if_neg notDirectory
  rw [patch_copies copies, here, rewriteFile, FileSystem.read_write]
  dsimp only
  cases patchData f.contents with
  | error exit => rfl
  | ok data =>
    dsimp only
    rw [FileSystem.write_write]

/-- Without the extended numbering the image is patched, rightly or not. -/
theorem patchesRightly_numbered (copies : Copies fs src dst f) (notDirectory : fs.read dst ≠ .directory)
    (patchable : Patchable f.contents k needs target) (numbered : eShnum f.contents ≠ 0) :
    PatchesRightly fs now src dst f k needs target ↔ Unshared f.contents k needs target := by
  obtain ⟨wellFormed, hashes, only⟩ := patchable
  have site := only.site wellFormed
  have done := wellFormed.patchData_numbered only hashes numbered
  rw [← site.rightlyPatched_iff hashes, PatchesRightly, patch_file copies notDirectory, done]
  dsimp only
  constructor
  · rintro ⟨g, run, right⟩
    have written := congrArg (fun result => result.2.read dst) run
    dsimp only at written
    rw [FileSystem.read_write, FileSystem.read_write] at written
    cases written
    exact right
  · intro right
    exact ⟨_, rfl, right⟩

/-- For every image as it is meant: wherever the copy can be made. -/
theorem patchesRightly_iff (copies : Copies fs src dst f) (notDirectory : fs.read dst ≠ .directory)
    (patchable : Patchable f.contents k needs target) :
    PatchesRightly fs now src dst f k needs target ↔ eShnum f.contents ≠ 0 ∧ Unshared f.contents k needs target := by
  by_cases extended : eShnum f.contents = 0
  · obtain ⟨exit, failed⟩ := patchable.wellFormed.patchData_extended extended
    rw [PatchesRightly, patch_file copies notDirectory, failed]
    constructor
    · rintro ⟨g, run, -⟩
      cases run
    · rintro ⟨numbered, -⟩
      exact absurd extended numbered
  · rw [patchesRightly_numbered copies notDirectory patchable extended]
    exact (and_iff_right extended).symm

theorem patchesRightly_unshared :
    PatchesRightly (exampleFiles (exampleFile 57 gnuTLS) .absent) 1 defaultInput defaultOutput (exampleFile 57 gnuTLS)
      1 exampleNeeds 272 :=
  (patchesRightly_iff (exampleFile_copies _) nofun patchable_unshared.1).mpr patchable_unshared.2

/-- libcurl.so.3 is needed with the same string, and with the hash of the old one afterwards. -/
theorem shared_name_patched_wrongly :
    Copies (exampleFiles (exampleFile 14 old) .absent) defaultInput defaultOutput (exampleFile 14 old) ∧
      Patchable (exampleImage 14 old) 1 exampleNeeds 272 ∧
      ¬ PatchesRightly (exampleFiles (exampleFile 14 old) .absent) 1 defaultInput defaultOutput (exampleFile 14 old)
        1 exampleNeeds 272 := by
  obtain ⟨patchable, numbered, shared⟩ := patchable_shared
  have copies := exampleFile_copies (exampleFile 14 old)
  refine ⟨copies, patchable, ?_⟩
  rw [patchesRightly_numbered copies nofun patchable numbered]
  exact shared

end RavennaLkm.CurlPatch
