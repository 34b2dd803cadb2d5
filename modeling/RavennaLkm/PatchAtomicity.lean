import RavennaLkm.CurlPatch

/-!
What patch leaves behind. The copy is made before its bytes are looked at: a run
that fails later leaves the unpatched copy, so nothing has changed exactly if the
copy was not made or was there before.
-/
namespace RavennaLkm.CurlPatch

variable {Path : Type} [DecidableEq Path] {fs : FileSystem Path} {now mode : Nat} {src dst path : Path} {f : File}
  {exit : PatchExit}

namespace FileSystem

theorem read_write (fs : FileSystem Path) (path : Path) (f : File) : (fs.write path f).read path = .file f :=
  Function.update_self ..

theorem write_write (fs : FileSystem Path) (path : Path) (f g : File) :
    (fs.write path f).write path g = fs.write path g := by
  unfold write
  rw [Function.update_idem]

theorem write_eq_self_iff : fs.write path f = fs ↔ fs.read path = .file f := by
  constructor
  · intro same
    rw [← same, read_write]
  · intro here
    unfold write
    unfold read at here
    rw [← here, Function.update_eq_self]

/-- A copy of `src` can be made: not onto itself, and not where a directory stands or nothing can be created. -/
def CanCopy (fs : FileSystem Path) (src dst : Path) : Prop :=
  fs.resolve src ≠ fs.resolve (fs.copyPath src dst) ∧
    fs.read (fs.copyPath src dst) ≠ .directory ∧ fs.read (fs.copyPath src dst) ≠ .unreachable

instance (fs : FileSystem Path) (src dst : Path) : Decidable (fs.CanCopy src dst) := inferInstanceAs (Decidable (_ ∧ _))

theorem copy2_ok (isFile : fs.read src = .file f) (can : fs.CanCopy src dst) :
    fs.copy2 src dst = (.ok (), fs.write (fs.copyPath src dst) f) := by
  obtain ⟨other, notDirectory, reachable⟩ := can
  unfold copy2
  dsimp only
  rw [if_neg other, isFile]
  cases there : fs.read (fs.copyPath src dst) with
  | unreachable => exact absurd there reachable
  | absent => rfl
  | directory => exact absurd there notDirectory
  | file g => rfl

theorem copy2_refused (isFile : fs.read src = .file f) (cannot : ¬ fs.CanCopy src dst) :
    ∃ exit, fs.copy2 src dst = (.error exit, fs) := by
  unfold copy2
  dsimp only
  by_cases same : fs.resolve src = fs.resolve (fs.copyPath src dst)
  · exact ⟨.sameFileError, by rw [if_pos same]⟩
  · rw [if_neg same, isFile]
    cases there : fs.read (fs.copyPath src dst) with
    | unreachable => exact ⟨.fileNotFoundError, rfl⟩
    | absent => exact absurd ⟨same, by rw [there]; exact nofun, by rw [there]; exact nofun⟩ cannot
    | directory => exact ⟨.isADirectoryError, rfl⟩
    | file g => exact absurd ⟨same, by rw [there]; exact nofun, by rw [there]; exact nofun⟩ cannot

end FileSystem

def defaultInput : String := "Merging_RAVENNA_Daemon"
def defaultOutput : String := "Merging_RAVENNA_Daemon.curl4"

theorem default_ne : defaultInput ≠ defaultOutput := by decide

def exampleFiles (input : File) (output : Entry) : FileSystem String where
  resolve := id
  within := fun directory path => directory ++ "/" ++ path
  entry := fun path => if path = defaultInput then .file input else if path = defaultOutput then output else .absent

def exampleScript : File := { contents := [35, 33, 47, 98, 105, 110, 47, 115, 104, 10], mode := 0o755, modified := 0 }

/-- The input is a file that is not the output, and its copy can be made. -/
structure Copies (fs : FileSystem Path) (src dst : Path) (f : File) : Prop where
  elsewhere : fs.resolve src ≠ fs.resolve dst
  isFile : fs.read src = .file f
  can : fs.CanCopy src dst

theorem rewriteFile_failed (failed : (rewriteFile fs now dst mode).1 = .error exit) :
    (rewriteFile fs now dst mode).2 = fs := by
  unfold rewriteFile at failed ⊢
  cases there : fs.read dst with
  | unreachable => rfl
  | absent => rfl
  | directory => rfl
  | file f =>
    simp only [there] at failed ⊢
    cases patched : patchData f.contents with
    | error exit => rfl
    | ok data =>
      rw [patched] at failed
      cases failed

variable [ToString Path]

theorem patch_copies (copies : Copies fs src dst f) :
    patch fs now src dst = rewriteFile (fs.write (fs.copyPath src dst) f) now dst f.mode := by
  have sameLengths : ¬ old.length ≠ new.length := by decide
  unfold patch
  rw [if_neg copies.elsewhere, copies.isFile]
  dsimp only
  rw [if_neg sameLengths, patchCopy, FileSystem.copy2_ok copies.isFile copies.can]

theorem patch_refused (now : Nat) (refused : ∀ f, ¬ Copies fs src dst f) :
    ∃ exit, patch fs now src dst = (.error exit, fs) := by
  unfold patch
  by_cases inPlace_ : fs.resolve src = fs.resolve dst
  · exact ⟨inPlace, if_pos inPlace_⟩
  · rw [if_neg inPlace_]
    cases there : fs.read src with
    | unreachable => exact ⟨_, rfl⟩
    | absent => exact ⟨_, rfl⟩
    | directory => exact ⟨_, rfl⟩
    | file f =>
      have cannot : ¬ fs.CanCopy src dst := fun can => refused f ⟨inPlace_, there, can⟩
      have sameLengths : ¬ old.length ≠ new.length := by decide
      obtain ⟨exit, copied⟩ := FileSystem.copy2_refused there cannot
      refine ⟨exit, ?_⟩
      dsimp only
      rw [if_neg sameLengths, patchCopy, copied]

theorem patch_failed_leaves (copies : Copies fs src dst f) (failed : (patch fs now src dst).1 = .error exit) :
    (patch fs now src dst).2 = fs.write (fs.copyPath src dst) f := by
  rw [patch_copies copies] at failed ⊢
  exact rewriteFile_failed failed

theorem failed_patch_changes_nothing_iff (failed : (patch fs now src dst).1 = .error exit) :
    (patch fs now src dst).2 = fs ↔
      (∀ f, ¬ Copies fs src dst f) ∨ fs.read (fs.copyPath src dst) = fs.read src := by
  by_cases copied : ∃ f, Copies fs src dst f
  · obtain ⟨f, copies⟩ := copied
    have notRefused : ¬ ∀ f, ¬ Copies fs src dst f := fun refused => refused f copies
    rw [patch_failed_leaves copies failed, FileSystem.write_eq_self_iff, copies.isFile, or_iff_right notRefused]
  · have refused := not_exists.mp copied
    obtain ⟨exit, unchanged⟩ := patch_refused now refused
    rw [unchanged]
    exact iff_of_true rfl (Or.inl refused)

theorem failed_patch_changes_nothing_iff_script :
    (patch (exampleFiles exampleScript .absent) 1 defaultInput defaultOutput).2 = exampleFiles exampleScript .absent ↔
      (∀ f, ¬ Copies (exampleFiles exampleScript .absent) defaultInput defaultOutput f) ∨
        (exampleFiles exampleScript .absent).read
            ((exampleFiles exampleScript .absent).copyPath defaultInput defaultOutput) =
          (exampleFiles exampleScript .absent).read defaultInput := by
  have failed : (patch (exampleFiles exampleScript .absent) 1 defaultInput defaultOutput).1 = .error notELF := rfl
  exact failed_patch_changes_nothing_iff failed

/-- The script stands unpatched under the patched name. -/
theorem script_under_patched_name :
    (patch (exampleFiles exampleScript .absent) 1 defaultInput defaultOutput).1 = .error notELF ∧
      (exampleFiles exampleScript .absent).read defaultOutput = .absent ∧
      (patch (exampleFiles exampleScript .absent) 1 defaultInput defaultOutput).2.read defaultOutput =
        .file exampleScript :=
  ⟨rfl, rfl, rfl⟩

end RavennaLkm.CurlPatch
