import DataForge.Ingestion.ArchiveSafety

namespace DataForge.Ingestion.ArchiveReader

open DataForge.Foundation.Strings
open DataForge.Foundation.Outcome
open DataForge.Foundation.PosixPath
open DataForge.Domain.Common
open DataForge.Domain.Artifact
open DataForge.Ingestion.ArchiveSafety

inductive ArchiveEntryKind where
  | transactions
  | predictions
  | supportMessages
  | ocrRecords
  | imageManifest
  | annotations
  | readme
  | other
deriving DecidableEq

def nameToKind : List (Text × ArchiveEntryKind) :=
  [("transactions.csv".toList, .transactions), ("predictions.jsonl".toList, .predictions),
    ("predictions.csv".toList, .predictions),
    ("support_messages.jsonl".toList, .supportMessages),
    ("ocr_records.jsonl".toList, .ocrRecords), ("image_manifest.jsonl".toList, .imageManifest),
    ("annotations_sample.json".toList, .annotations), ("readme.md".toList, .readme)]

def kindForName (base : Text) : ArchiveEntryKind := (nameToKind.lookup base).getD .other

def mediaTypes : List (String × String) :=
  [(".csv", "text/csv"), (".tsv", "text/csv"), (".jsonl", "application/jsonl"),
    (".ndjson", "application/jsonl"), (".json", "application/json"),
    (".parquet", "application/x-parquet"), (".md", "text/markdown"),
    (".yaml", "application/yaml"), (".yml", "application/yaml"), (".xml", "application/xml")]

def mediaTypeForName (base : Text) : String :=
  (mediaTypes.find? fun media => media.1.toList.isSuffixOf base).elim
    "application/octet-stream" (·.2)

structure ArchiveFileDescriptor where
  name : Text
  kind : ArchiveEntryKind
  mediaType : String
  fileSize : Nat
  compressedSize : Nat
  archiveMember : ZipInfo

structure ArchiveContents where
  descriptors : List ArchiveFileDescriptor
  safetyReport : ArchiveSafetyReport

section Reader

variable (p : Platform) (isAlpha : Char → Bool) (policy : ArchiveSafetyPolicy)

def descriptorForMember (info : ZipInfo) : ArchiveFileDescriptor :=
  let name := normpath info.filename
  let base := p.lower (basename name)
  ⟨name, kindForName base, mediaTypeForName base, info.fileSize, info.compressSize, info⟩

def ArchiveContents.descriptorsByKind (contents : ArchiveContents) (kind : ArchiveEntryKind) :
    List ArchiveFileDescriptor :=
  contents.descriptors.filter fun d => d.kind = kind

def buildReader (infos : List ZipInfo) (report : ArchiveSafetyReport) : Result ArchiveContents := do
  let descriptors := (files infos).map (descriptorForMember p)
  guardOk (∃ d ∈ descriptors, d.kind = .transactions)
    (structureError "missing_required_entry"
      "Archive does not contain the required transactions.csv entry.")
  pure ⟨descriptors, report⟩

/-- The archive is read twice, and the second reading finds the same directory. -/
def openArchiveBytes (archive : ArchiveBytes) : Result ArchiveContents := do
  let report ← validateArchiveBytes p isAlpha policy archive
  match archive.infolist with
  | none => .error badZipFile
  | some infos => buildReader p infos report

end Reader

section Opened

variable {p : Platform} {isAlpha : Char → Bool} {policy : ArchiveSafetyPolicy}

/-- What an opened archive promises about the entries it exposes. -/
structure ReaderSafe (p : Platform) (policy : ArchiveSafetyPolicy) (archive : ArchiveBytes)
    (contents : ArchiveContents) : Prop where
  names : contents.descriptors.map (·.name) = contents.safetyReport.safeEntries
  relative : ∀ d ∈ contents.descriptors,
    d.name ≠ [] ∧ d.name.head? ≠ some '/' ∧ dotdot ∉ d.name.splitOn '/'
  inside : ∀ d ∈ contents.descriptors, ∀ root, Under root (join root d.name)
  extension : ∀ d ∈ contents.descriptors, HasAllowedExtension p policy (basename d.name)
  notSymlink : ∀ d ∈ contents.descriptors, isSymlink d.archiveMember = false
  count : ∃ infos, archive.infolist = some infos ∧
    contents.descriptors.length ≤ infos.length ∧ infos.length ≤ policy.maxFileCount.1
  size : (contents.descriptors.map (·.fileSize)).sum = contents.safetyReport.uncompressedBytes ∧
    contents.safetyReport.uncompressedBytes ≤ policy.maxUncompressedBytes.1
  transactions : ∃ d ∈ contents.descriptors, d.kind = .transactions

theorem openArchiveBytes_eq_ok {archive : ArchiveBytes} {contents : ArchiveContents}
    (h : openArchiveBytes p isAlpha policy archive = .ok contents) :
    ∃ infos total names, archive.infolist = some infos ∧ infos.length ≤ policy.maxFileCount.1 ∧
      validateEntries p isAlpha policy infos 0 [] = .ok (total, names) ∧
      (∃ d ∈ (files infos).map (descriptorForMember p), d.kind = .transactions) ∧
      contents = ⟨(files infos).map (descriptorForMember p),
        ⟨names.length, archive.size, total, names⟩⟩ := by
  obtain ⟨report, hreport, h⟩ := bind_eq_ok.mp h
  obtain ⟨-, hreport⟩ := check_bind_eq_ok.mp hreport
  cases hlist : archive.infolist with
  | none => simp [hlist] at h
  | some infos =>
    simp only [hlist] at h hreport
    obtain ⟨hcount, hreport⟩ := check_bind_eq_ok.mp hreport
    obtain ⟨⟨total, names⟩, hentries, hreport⟩ := bind_eq_ok.mp hreport
    obtain ⟨htransactions, h⟩ := check_bind_eq_ok.mp h
    cases Except.ok.inj hreport
    exact ⟨infos, total, names, rfl, guardOk_eq_ok.mp hcount, hentries,
      guardOk_eq_ok.mp htransactions, (Except.ok.inj h).symm⟩

/-- A last component that has an extension is kept by normalisation, or is made of
dots alone. -/
theorem plain_basename {info : ZipInfo} (h : EntrySafe p policy info) :
    Plain (basename info.filename) ∨ basename info.filename = dot ∨
      basename info.filename = dotdot := by
  by_cases hdot : basename info.filename = dot
  · exact Or.inr (Or.inl hdot)
  · by_cases hdotdot : basename info.filename = dotdot
    · exact Or.inr (Or.inr hdotdot)
    · refine Or.inl ⟨fun hnil => ?_, hdot, hdotdot, ?_⟩
      · have hmem := h.extension.1
        rw [hnil] at hmem
        exact absurd hmem List.not_mem_nil
      · obtain ⟨init, hsplit⟩ := splitOn_eq_append_basename info.filename
        exact not_mem_of_mem_splitOn '/' info.filename _ (by simp [hsplit])

theorem extension_normpath {info : ZipInfo} (h : EntrySafe p policy info)
    (hdots : basename info.filename = dot ∨ basename info.filename = dotdot →
      HasAllowedExtension p policy (basename (normpath info.filename))) :
    HasAllowedExtension p policy (basename (normpath info.filename)) := by
  obtain hplain | hdot := plain_basename h
  · rw [basename_normpath h.relative hplain]
    exact h.extension
  · exact hdots hdot

/-- Whatever an opened archive exposes was checked, save that an extension was looked
for in the name as it was written: exactly the names ending in a dot or two are exposed
under a last component nothing has checked. -/
theorem readerSafe_iff {archive : ArchiveBytes} {contents : ArchiveContents}
    (h : openArchiveBytes p isAlpha policy archive = .ok contents) :
    ReaderSafe p policy archive contents ↔
      ∀ infos, archive.infolist = some infos → ∀ info ∈ files infos,
        basename info.filename = dot ∨ basename info.filename = dotdot →
          HasAllowedExtension p policy (basename (normpath info.filename)) := by
  obtain ⟨infos, total, names, hlist, hcount, hentries, htransactions, rfl⟩ :=
    openArchiveBytes_eq_ok h
  obtain ⟨hsafe, hbytes, hnames, hbound⟩ := validateEntries_eq_ok hentries
  constructor
  · intro hreader infos' hlist' info hinfo _
    rw [Option.some.inj (hlist'.symm.trans hlist)] at hinfo
    exact hreader.extension _ (List.mem_map_of_mem hinfo)
  · intro hdots
    have hall : ∀ d ∈ (files infos).map (descriptorForMember p), ∃ info ∈ files infos,
        EntrySafe p policy info ∧ d.name = normpath info.filename ∧ d.archiveMember = info := by
      intro d hd
      obtain ⟨info, hinfo, rfl⟩ := List.mem_map.mp hd
      exact ⟨info, hinfo, hsafe info hinfo, rfl, rfl⟩
    refine ⟨?_, fun d hd => ?_, fun d hd root => ?_, fun d hd => ?_, fun d hd => ?_,
      ⟨infos, hlist, ?_, hcount⟩, ⟨?_, hbound (Nat.zero_le _)⟩, htransactions⟩
    · rw [hnames, List.map_map, List.nil_append]
      rfl
    · obtain ⟨info, -, hinfo, hname, -⟩ := hall d hd
      rw [hname]
      exact ⟨normpath_ne_nil _, head?_normpath hinfo.relative, hinfo.inside⟩
    · obtain ⟨info, -, hinfo, hname, -⟩ := hall d hd
      rw [hname]
      exact under_join (head?_normpath hinfo.relative) hinfo.inside
    · obtain ⟨info, hmem, hinfo, hname, -⟩ := hall d hd
      rw [hname]
      exact extension_normpath hinfo (hdots infos hlist info hmem)
    · obtain ⟨info, -, hinfo, -, hmember⟩ := hall d hd
      rw [hmember]
      exact hinfo.notSymlink
    · rw [List.length_map]
      exact List.length_filter_le _ _
    · rw [hbytes, List.map_map, Nat.zero_add]
      rfl

end Opened

/-- A policy that lets files without a suffix through. -/
def suffixlessPolicy : ArchiveSafetyPolicy :=
  ⟨⟨1000, by decide⟩, ⟨1000, by decide⟩, ⟨5, by decide⟩, ["csv".toList, []]⟩

def archiveOf (names : List String) : ArchiveBytes :=
  ⟨100, some (names.map fun name => ⟨name.toList, 0, 10, 10⟩)⟩

def dataArchive : ArchiveBytes := archiveOf ["data/", "data/transactions.csv"]

def dottedArchive : ArchiveBytes := archiveOf ["transactions.csv", "a.exe/."]

theorem readerSafe_plain : ∃ contents,
    openArchiveBytes asciiPlatform Char.isAlpha suffixlessPolicy dataArchive = .ok contents ∧
    ReaderSafe asciiPlatform suffixlessPolicy dataArchive contents := by
  have hok : (openArchiveBytes asciiPlatform Char.isAlpha suffixlessPolicy dataArchive).isOk =
      true := by
    decide +kernel
  cases hopen : openArchiveBytes asciiPlatform Char.isAlpha suffixlessPolicy dataArchive with
  | error e => simp [hopen, Except.isOk, Except.toBool] at hok
  | ok contents =>
    refine ⟨contents, rfl, (readerSafe_iff hopen).mpr fun infos hinfos info hinfo => ?_⟩
    obtain rfl := Option.some.inj hinfos
    have hname : info.filename = "data/transactions.csv".toList := by
      have hall : ∀ info ∈ files (["data/", "data/transactions.csv"].map fun name : String =>
          (⟨name.toList, 0, 10, 10⟩ : ZipInfo)),
          info.filename = "data/transactions.csv".toList := by
        decide +kernel
      exact hall info hinfo
    rw [hname]
    decide +kernel

/-- The name that is checked ends in a dot, the one that is exposed in `.exe`. -/
theorem dotted_name_exposed : ∃ contents,
    openArchiveBytes asciiPlatform Char.isAlpha suffixlessPolicy dottedArchive = .ok contents ∧
    ¬ ReaderSafe asciiPlatform suffixlessPolicy dottedArchive contents := by
  have hok : (openArchiveBytes asciiPlatform Char.isAlpha suffixlessPolicy dottedArchive).isOk =
      true := by
    decide +kernel
  cases hopen : openArchiveBytes asciiPlatform Char.isAlpha suffixlessPolicy dottedArchive with
  | error e => simp [hopen, Except.isOk, Except.toBool] at hok
  | ok contents =>
    refine ⟨contents, rfl, fun hreader => ?_⟩
    obtain ⟨infos, total, names, hlist, -, -, -, rfl⟩ := openArchiveBytes_eq_ok hopen
    obtain rfl := Option.some.inj hlist
    have hexposed : ⟨"a.exe/.".toList, 0, 10, 10⟩ ∈ files (["transactions.csv", "a.exe/."].map
        fun name : String => (⟨name.toList, 0, 10, 10⟩ : ZipInfo)) :=
      List.mem_cons_of_mem _ (List.mem_singleton.mpr rfl)
    have hexe := (hreader.extension _ (List.mem_map_of_mem hexposed)).2
    revert hexe
    decide +kernel

end DataForge.Ingestion.ArchiveReader
