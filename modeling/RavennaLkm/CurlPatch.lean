import Mathlib.Logic.Function.Basic
import RavennaLkm.Lib.ByteWords
import RavennaLkm.Lib.CheckedLoop
import RavennaLkm.Lib.PackedLayout

/-!
patch_curl_openssl4.py: a copy of the Butler executable in which the symbol
version CURL_OPENSSL_3 that it requires from libcurl.so.4 reads CURL_OPENSSL_4,
with the hash of the new name. Python's integers are unbounded; an offset that no
file reaches ends in the same exit as one behind the end of the file. A path has
one file: permissions, hard links and what else ends a call before a byte is
written are left out.
-/
namespace RavennaLkm.CurlPatch
open CheckedLoop ByteWords

abbrev Bytes := List UInt8

/-- `CURL_OPENSSL_3`. -/
def old : Bytes := [67, 85, 82, 76, 95, 79, 80, 69, 78, 83, 83, 76, 95, 51]
/-- `CURL_OPENSSL_4`. -/
def new : Bytes := [67, 85, 82, 76, 95, 79, 80, 69, 78, 83, 83, 76, 95, 52]
/-- `libcurl.so.4`. -/
def libcurl : Bytes := [108, 105, 98, 99, 117, 114, 108, 46, 115, 111, 46, 52]
/-- `.gnu.version_r`. -/
def gnuVersionR : Bytes := [46, 103, 110, 117, 46, 118, 101, 114, 115, 105, 111, 110, 95, 114]
/-- `\x7fELF`. -/
def elfMagic : Bytes := [0x7f, 69, 76, 70]

/-- How `patch` ends when it does not return: by its own `SystemExit`, or by an exception of the library. -/
inductive PatchExit where
  | systemExit (message : String)
  | structError
  | valueError
  | indexError
  | sameFileError
  | isADirectoryError
  | fileNotFoundError
  deriving DecidableEq, Repr

def andNot (a b : Nat) : Nat := a ^^^ (a &&& b)

def elfHashStep (h : Nat) (c : UInt8) : Nat :=
  let h := (h <<< 4) + c.toNat
  let g := h &&& 0xF0000000
  let h := if g ≠ 0 then h ^^^ (g >>> 24) else h
  andNot h g

def elfHash (value : Bytes) : Nat := value.foldl elfHashStep 0 &&& 0xFFFFFFFF

structure SectionHeader where
  name : Nat
  offset : Nat
  size : Nat
  link : Nat
  deriving DecidableEq, Repr

structure Verneed where
  cnt : Nat
  file : Nat
  aux : Nat
  next : Nat
  deriving DecidableEq, Repr

structure Vernaux where
  hash : Nat
  name : Nat
  next : Nat
  deriving DecidableEq, Repr

/-- `<IIQQQQIIQQ`. -/
def readSectionHeader (data : Bytes) (off : Nat) : SectionHeader :=
  ⟨word data off 4, word data (off + 24) 8, word data (off + 32) 8, word data (off + 40) 4⟩

/-- `<HHIII`. -/
def readVerneed (data : Bytes) (off : Nat) : Verneed :=
  ⟨word data (off + 2) 2, word data (off + 4) 4, word data (off + 8) 4, word data (off + 12) 4⟩

/-- `<IHHII`. -/
def readVernaux (data : Bytes) (off : Nat) : Vernaux :=
  ⟨word data off 4, word data (off + 8) 4, word data (off + 12) 4⟩

/-- `struct.unpack_from` with a format of `size` bytes. -/
def unpackFrom {α : Type} (size : Nat) (read : Bytes → Nat → α) (data : Bytes) (off : Nat) : Except PatchExit α :=
  if off + size ≤ data.length then .ok (read data off) else .error .structError

def shdr (data : Bytes) (eShoff eShentsize index : Nat) : Except PatchExit SectionHeader :=
  unpackFrom 64 readSectionHeader data (eShoff + index * eShentsize)

/-- `data[off : data.index(0, off)]`. -/
def cstring (data : Bytes) (off : Nat) : Except PatchExit Bytes :=
  match (data.drop off).findIdx? (· = 0) with
  | none => .error .valueError
  | some length => .ok ((data.drop off).take length)

structure PatchState where
  data : Bytes
  patched : Nat := 0
  deriving DecidableEq, Repr

def hex08 (value : Nat) : String :=
  let digits := Nat.toDigits 16 value
  String.ofList (List.replicate (8 - digits.length) '0' ++ digits)

def unexpectedHash (found : Nat) : PatchExit :=
  .systemExit ("Unexpected ELF version hash 0x" ++ hex08 found ++ "; expected 0x" ++ hex08 (elfHash old))

def rewrite (data : Bytes) (auxOff nameOff : Nat) : Bytes :=
  PackedLayout.patch (PackedLayout.patch data auxOff (wordBytes 4 (elfHash new))) nameOff new

def patchEntry (dynstrOff auxOff : Nat) (libname version : Bytes) (aux : Vernaux) (st : PatchState) :
    Except PatchExit PatchState :=
  if libname = libcurl ∧ version = old then
    if aux.hash ≠ elfHash old then .error (unexpectedHash aux.hash)
    else .ok { data := rewrite st.data auxOff (dynstrOff + aux.name), patched := st.patched + 1 }
  else .ok st

def patchAux (dynstrOff : Nat) (libname : Bytes) : Nat → Nat → PatchState → Except PatchExit PatchState
  | 0, _, st => .ok st
  | left + 1, auxOff, st => do
    let aux ← unpackFrom 16 readVernaux st.data auxOff
    let version ← cstring st.data (dynstrOff + aux.name)
    let st ← patchEntry dynstrOff auxOff libname version aux st
    if aux.next = 0 then .ok st else patchAux dynstrOff libname left (auxOff + aux.next) st

def patchNeeds (verneedOff verneedSize dynstrOff vnRel : Nat) (st : PatchState) : Except PatchExit PatchState :=
  if vnRel < verneedSize then do
    let vn ← unpackFrom 16 readVerneed st.data (verneedOff + vnRel)
    let libname ← cstring st.data (dynstrOff + vn.file)
    let st ← patchAux dynstrOff libname vn.cnt (verneedOff + vnRel + vn.aux) st
    if vn.next = 0 then .ok st else patchNeeds verneedOff verneedSize dynstrOff (vnRel + vn.next) st
  else .ok st
termination_by verneedSize - vnRel

def notELF : PatchExit := .systemExit "Expected a 64-bit little-endian ELF executable"
def noVersionR : PatchExit := .systemExit "ELF has no .gnu.version_r section"
def notOne (patched : Nat) : PatchExit :=
  .systemExit ("Expected one libcurl version requirement to patch, found " ++ toString patched)

/-- `data[index] != value`, which a short file does not have. -/
def checkByte (data : Bytes) (index : Nat) (value : UInt8) : Except PatchExit Unit :=
  match data[index]? with
  | none => .error .indexError
  | some byte => if byte ≠ value then .error notELF else .ok ()

def checkIdent (data : Bytes) : Except PatchExit Unit :=
  if data.take 4 ≠ elfMagic then .error notELF
  else do
    checkByte data 4 2
    checkByte data 5 1

/-- The sections with their names. A name decoded with replacements is `.gnu.version_r` exactly if its
bytes are, and only that is asked of it. -/
def readSections (data : Bytes) (eShoff eShentsize eShnum shstrOff : Nat) :
    Except PatchExit (List (Bytes × SectionHeader)) :=
  (List.range eShnum).mapM fun i => do
    let header ← shdr data eShoff eShentsize i
    let name ← cstring data (shstrOff + header.name)
    .ok (name, header)

def patchSections (data : Bytes) (sections : List (Bytes × SectionHeader)) : Except PatchExit Bytes :=
  match sections.find? (·.1 = gnuVersionR) with
  | none => .error noVersionR
  | some (_, verneed) =>
    match sections[verneed.link]? with
    | none => .error .indexError
    | some (_, dynstr) => do
      let st ← patchNeeds verneed.offset verneed.size dynstr.offset 0 { data := data }
      if st.patched ≠ 1 then .error (notOne st.patched) else .ok st.data

def patchData (data : Bytes) : Except PatchExit Bytes := do
  checkIdent data
  let eShoff ← unpackFrom 8 (word · · 8) data 0x28
  let eShentsize ← unpackFrom 2 (word · · 2) data 0x3A
  let eShnum ← unpackFrom 2 (word · · 2) data 0x3C
  let eShstrndx ← unpackFrom 2 (word · · 2) data 0x3E
  let shstr ← shdr data eShoff eShentsize eShstrndx
  let sections ← readSections data eShoff eShentsize eShnum shstr.offset
  patchSections data sections

structure File where
  contents : Bytes
  mode : Nat
  modified : Nat
  deriving DecidableEq, Repr

inductive Entry where
  | unreachable
  | absent
  | directory
  | file (f : File)
  deriving DecidableEq, Repr

/-- The entries stand under resolved paths. `within` is the path in a directory under the last name of
another path. -/
structure FileSystem (Path : Type) where
  resolve : Path → Path
  within : Path → Path → Path
  entry : Path → Entry

namespace FileSystem

variable {Path : Type} [DecidableEq Path]

omit [DecidableEq Path] in
def read (fs : FileSystem Path) (path : Path) : Entry := fs.entry (fs.resolve path)

def write (fs : FileSystem Path) (path : Path) (f : File) : FileSystem Path :=
  { fs with entry := Function.update fs.entry (fs.resolve path) (.file f) }

omit [DecidableEq Path] in
/-- Where a copy to `dst` goes. -/
def copyPath (fs : FileSystem Path) (src dst : Path) : Path :=
  if fs.read dst = .directory then fs.within dst src else dst

def copy2 (fs : FileSystem Path) (src dst : Path) : Except PatchExit Unit × FileSystem Path :=
  let dst := fs.copyPath src dst
  if fs.resolve src = fs.resolve dst then (.error .sameFileError, fs)
  else
    match fs.read src, fs.read dst with
    | .file f, .absent | .file f, .file _ => (.ok (), fs.write dst f)
    | .file _, .directory => (.error .isADirectoryError, fs)
    | _, _ => (.error .fileNotFoundError, fs)

end FileSystem

def inPlace : PatchExit := .systemExit "Refusing to patch the original binary in place"
def otherLengths : PatchExit := .systemExit "Internal error: version strings have different lengths"
def inputNotFound (src : String) : PatchExit := .systemExit ("Input file not found: " ++ src)

variable {Path : Type} [DecidableEq Path] [ToString Path]

omit [ToString Path] in
def rewriteFile (fs : FileSystem Path) (now : Nat) (dst : Path) (mode : Nat) :
    Except PatchExit Unit × FileSystem Path :=
  match fs.read dst with
  | .file f =>
    match patchData f.contents with
    | .error exit => (.error exit, fs)
    | .ok data => (.ok (), fs.write dst { contents := data, mode := mode ||| 0o100, modified := now })
  | .directory => (.error .isADirectoryError, fs)
  | .absent | .unreachable => (.error .fileNotFoundError, fs)

omit [ToString Path] in
def patchCopy (fs : FileSystem Path) (now : Nat) (src dst : Path) (mode : Nat) :
    Except PatchExit Unit × FileSystem Path :=
  match fs.copy2 src dst with
  | (.error exit, fs) => (.error exit, fs)
  | (.ok (), fs) => rewriteFile fs now dst mode

/-- How it ends and what it leaves; `now` is the time of the last write. -/
def patch (fs : FileSystem Path) (now : Nat) (src dst : Path) : Except PatchExit Unit × FileSystem Path :=
  if fs.resolve src = fs.resolve dst then (.error inPlace, fs)
  else
    match fs.read src with
    | .file original =>
      if old.length ≠ new.length then (.error otherLengths, fs) else patchCopy fs now src dst original.mode
    | _ => (.error (inputNotFound (toString src)), fs)

end RavennaLkm.CurlPatch
