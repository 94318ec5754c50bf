import DataForge.Domain.Artifact
import DataForge.Foundation.PosixPath

namespace DataForge.Ingestion.ArchiveSafety

open DataForge.Foundation.Strings
open DataForge.Foundation.Outcome
open DataForge.Foundation.PosixPath
open DataForge.Domain.Common
open DataForge.Domain.Artifact

/-- An entry of a central directory. -/
structure ZipInfo where
  filename : Text
  externalAttr : Nat
  fileSize : Nat
  compressSize : Nat

def ZipInfo.isDir (info : ZipInfo) : Bool := decide (info.filename.getLast? = some '/')

structure ArchiveSafetyPolicy where
  maxCompressedBytes : { n : Nat // 1 ≤ n }
  maxUncompressedBytes : { n : Nat // 1 ≤ n }
  maxFileCount : { n : Nat // 1 ≤ n }
  allowedExtensions : List Text

structure ArchiveSafetyReport where
  fileCount : Nat
  compressedBytes : Nat
  uncompressedBytes : Nat
  safeEntries : List Text

def structureError (reasonCode message : String) : Raised :=
  .reasoned "ArchiveSafetyError" reasonCode .invalidArchiveStructure none message

def safetyError (reasonCode message : String) : Raised :=
  .reasoned "ArchiveSafetyError" reasonCode .archiveSafetyViolation none message

/-- `name.rsplit(".", 1)[1]` for a name with a dot. -/
def extension (name : Text) : Text := (name.splitOn '.').getLast?.getD []

/-- `stat.S_ISLNK` of the file mode in the upper half of the attributes. -/
def isSymlink (info : ZipInfo) : Bool := decide (info.externalAttr / 2 ^ 16 &&& 0o170000 = 0o120000)

def HasAllowedExtension (p : Platform) (policy : ArchiveSafetyPolicy) (name : Text) : Prop :=
  '.' ∈ name ∧ p.lower (extension name) ∈ policy.allowedExtensions

instance (p : Platform) (policy : ArchiveSafetyPolicy) (name : Text) :
    Decidable (HasAllowedExtension p policy name) := inferInstanceAs (Decidable (_ ∧ _))

section Validation

variable (p : Platform) (isAlpha : Char → Bool) (policy : ArchiveSafetyPolicy)

def isWindowsDrivePath (name : Text) : Bool :=
  match name with
  | c :: ':' :: _ :: _ => isAlpha c
  | _ => false

def validateEntryPath (info : ZipInfo) : Result Unit := do
  let name := info.filename
  guardOk (name ≠ [])
    (structureError "empty_entry_name" "Archive contains an entry with an empty name.")
  guardOk (Char.ofNat 0 ∉ name)
    (safetyError "nul_byte_in_entry" "Archive entry contains an invalid null byte.")
  guardOk (name.head? ≠ some '/')
    (safetyError "absolute_path" "Archive entry uses an absolute path.")
  guardOk (isWindowsDrivePath isAlpha name = false)
    (safetyError "windows_drive_path" "Archive entry uses a Windows drive path.")
  let normalized := normpath name
  guardOk (¬ (dotdot <+: normalized ∨ '/' :: dotdot ++ ['/'] <:+: '/' :: normalized ++ ['/']))
    (safetyError "path_traversal" "Archive entry attempts path traversal outside the archive root.")

def validateEntryAttributes (info : ZipInfo) : Result Unit :=
  guardOk (isSymlink info = false) (safetyError "symlink_entry" "Archive entry is a symbolic link.")

def validateEntryExtension (info : ZipInfo) : Result Unit := do
  let name := basename info.filename
  guardOk ('.' ∈ name) (safetyError "missing_extension" "Archive entry has no file extension.")
  guardOk (p.lower (extension name) ∈ policy.allowedExtensions)
    (safetyError "forbidden_extension"
      "Archive entry uses a file extension that is not allowlisted.")

/-- The loop over the entries, with the bytes and the names of those before. -/
def validateEntries : List ZipInfo → Nat → List Text → Result (Nat × List Text)
  | [], total, names => .ok (total, names)
  | info :: infos, total, names => do
    validateEntryPath isAlpha info
    validateEntryAttributes info
    if info.isDir then validateEntries infos total names
    else do
      validateEntryExtension p policy info
      guardOk (total + info.fileSize ≤ policy.maxUncompressedBytes.1)
        (safetyError "uncompressed_size_exceeded"
          "Archive uncompressed size exceeds the safety policy limit.")
      validateEntries infos (total + info.fileSize) (names ++ [normpath info.filename])

def validateZipStream (compressedSize : Nat) (infos : List ZipInfo) :
    Result ArchiveSafetyReport := do
  guardOk (infos.length ≤ policy.maxFileCount.1)
    (safetyError "file_count_exceeded" "Archive contains too many files.")
  let (total, names) ← validateEntries p isAlpha policy infos 0 []
  pure ⟨names.length, compressedSize, total, names⟩

/-- What the bytes of an archive hold: its size and, where it is a zip file, its
central directory. -/
structure ArchiveBytes where
  size : Nat
  infolist : Option (List ZipInfo)

def badZipFile : Raised := structureError "bad_zip_file" "Archive is not a valid zip file."

def validateArchiveBytes (archive : ArchiveBytes) : Result ArchiveSafetyReport := do
  guardOk (archive.size ≤ policy.maxCompressedBytes.1)
    (safetyError "compressed_size_exceeded"
      "Archive compressed size exceeds the safety policy limit.")
  match archive.infolist with
  | none => .error badZipFile
  | some infos => validateZipStream p isAlpha policy archive.size infos

end Validation

section Accepted

variable {p : Platform} {isAlpha : Char → Bool} {policy : ArchiveSafetyPolicy}

/-- What the checks on one entry let through. -/
structure EntrySafe (p : Platform) (policy : ArchiveSafetyPolicy) (info : ZipInfo) : Prop where
  relative : info.filename.head? ≠ some '/'
  inside : dotdot ∉ (normpath info.filename).splitOn '/'
  extension : HasAllowedExtension p policy (basename info.filename)
  notSymlink : isSymlink info = false

theorem validateEntryPath_eq_ok {info : ZipInfo} (h : validateEntryPath isAlpha info = .ok ()) :
    info.filename.head? ≠ some '/' ∧ dotdot ∉ (normpath info.filename).splitOn '/' := by
  simp only [validateEntryPath, check_bind_eq_ok, guardOk_eq_ok] at h
  obtain ⟨-, -, hhead, -, hinside⟩ := h
  refine ⟨hhead, fun hmem => hinside (.inr ?_)⟩
  exact isInfix_of_mem_splitOn hmem

theorem validateEntryExtension_eq_ok {info : ZipInfo} :
    validateEntryExtension p policy info = .ok () ↔
      HasAllowedExtension p policy (basename info.filename) := by
  rw [validateEntryExtension, check_bind_eq_ok, guardOk_eq_ok, guardOk_eq_ok]
  rfl

/-- The file entries, which a reader exposes. -/
def files (infos : List ZipInfo) : List ZipInfo := infos.filter fun info => !info.isDir

theorem files_cons (info : ZipInfo) (infos : List ZipInfo) :
    files (info :: infos) = if info.isDir then files infos else info :: files infos := by
  rw [files, List.filter_cons]
  cases info.isDir <;> rfl

theorem validateEntries_eq_ok {infos : List ZipInfo} {total bytes : Nat} {names entries : List Text}
    (h : validateEntries p isAlpha policy infos total names = .ok (bytes, entries)) :
    (∀ info ∈ files infos, EntrySafe p policy info) ∧
      bytes = total + ((files infos).map ZipInfo.fileSize).sum ∧
      entries = names ++ (files infos).map (fun info => normpath info.filename) ∧
      (total ≤ policy.maxUncompressedBytes.1 → bytes ≤ policy.maxUncompressedBytes.1) := by
  induction infos generalizing total names with
  | nil =>
    obtain ⟨rfl, rfl⟩ := Prod.mk.inj (Except.ok.inj h)
    refine ⟨fun info hinfo => absurd hinfo List.not_mem_nil, ?_, ?_, id⟩
    · simp [files]
    · simp [files]
  | cons info infos ih =>
    obtain ⟨hpath, h⟩ := check_bind_eq_ok.mp h
    obtain ⟨hattributes, h⟩ := check_bind_eq_ok.mp h
    rw [files_cons]
    split at h
    · next hdir =>
      rw [if_pos hdir]
      exact ih h
    · next hdir =>
      rw [if_neg hdir]
      obtain ⟨hextension, h⟩ := check_bind_eq_ok.mp h
      obtain ⟨hsize, h⟩ := check_bind_eq_ok.mp h
      obtain ⟨hsafe, hbytes, hentries, hbound⟩ := ih h
      refine ⟨?_, ?_, ?_, fun _ => hbound (guardOk_eq_ok.mp hsize)⟩
      · obtain ⟨hrelative, hinside⟩ := validateEntryPath_eq_ok hpath
        rw [List.forall_mem_cons]
        exact ⟨⟨hrelative, hinside, validateEntryExtension_eq_ok.mp hextension,
          guardOk_eq_ok.mp hattributes⟩, hsafe⟩
      · rw [hbytes, List.map_cons, List.sum_cons]
        omega
      · rw [hentries, List.map_cons, List.append_assoc, List.singleton_append]

end Accepted

end DataForge.Ingestion.ArchiveSafety
