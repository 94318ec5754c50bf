import DataForge.Adapters.ArtifactRegistry
import DataForge.Foundation.Failures
import DataForge.Foundation.Grouping
import DataForge.Foundation.JsonReader
import DataForge.Ingestion.TabularRows

namespace DataForge.Ingestion.ManifestArtifact

open DataForge.Foundation.Strings
open DataForge.Foundation.Lines
open DataForge.Foundation.Dictionary
open DataForge.Foundation.Grouping
open DataForge.Foundation.Json
open DataForge.Foundation.JsonReader
open DataForge.Foundation.JsonErrors
open DataForge.Foundation.Sha256
open DataForge.Foundation.Outcome
open DataForge.Foundation.Failures
open DataForge.Foundation.Tables
open DataForge.Domain.Common
open DataForge.Domain.Evidence
open DataForge.Adapters.ArtifactRegistry
open DataForge.Ingestion.ArchiveReader
open DataForge.Ingestion.ManifestBuilder
open DataForge.Ingestion.TabularRows

section Builder

variable (json : JsonModule Raised) (request : BuildManifestRequest)

section Entry

variable (modality : DataModality) (sourceSystem : Text) (d : ArchiveFileDescriptor)

/-- `canonical.encode("utf-8")` in `derive_object_id`; of its parts only the id of a record
can hold a surrogate. -/
def encodeRowKey (payload : Dict Text Value) : Result Unit :=
  match sourceObjectId payload with
  | none => .ok ()
  | some id => guardOk (json.Encodes id) (.plain "UnicodeEncodeError" "surrogates not allowed")

def recordOutcome (lineNumber : Nat) : JsonlRecord → Result JsonlOutcome
  | .object payload => do
    encodeRowKey json payload
    jsonlOutcome request modality sourceSystem d lineNumber (.object payload)
  | record => jsonlOutcome request modality sourceSystem d lineNumber record

def lineOutcome (numbered : Text × Nat) : Result JsonlOutcome := do
  let record ← json.read numbered.1
  recordOutcome json request modality sourceSystem d numbered.2 record

/-- The lines of the text stream that are not blank, with their numbers. -/
def numberedLines (text : Text) : List (Text × Nat) :=
  ((streamLines text).zipIdx 1).filter fun numbered => decide (¬ Blank numbered.1)

def buildJsonlRows (text : Text) : Result (List JsonlOutcome) :=
  (numberedLines text).mapM (lineOutcome json request modality sourceSystem d)

def jsonlEntry (files : ArchiveFiles) : Result (List JsonlOutcome) :=
  match decodeUtf8 (files.bytes d) with
  | none => .error (.plain "UnicodeDecodeError" "invalid utf-8")
  | some text => buildJsonlRows json request modality sourceSystem d text

end Entry

/-- Where the rows of a JSON lines entry belong. -/
def jsonlSource : ArchiveEntryKind → Option (DataModality × Text)
  | .supportMessages => some (.text, "support_messages".toList)
  | .ocrRecords => some (.documentOcr, "ocr_records".toList)
  | .imageManifest => some (.image, "image_manifest".toList)
  | _ => none

variable (files : ArchiveFiles)

/-- The branch for one descriptor, with all that its reading can raise. -/
def entryOutcomes (d : ArchiveFileDescriptor) : Result (List JsonlOutcome) :=
  match jsonlSource d.kind with
  | some source => jsonlEntry json request source.1 source.2 d files
  | none => ManifestBuilder.entryOutcomes json.decode request (files.payloads request) d

structure BuildManifestResult where
  manifestArtifact : RegisteredArtifact
  rowsByModality : Dict DataModality Nat
  unsupportedEntries : List UnsupportedEntry
  totalRows : Nat

variable (dump : ManifestRow → Text) (save : SaveRequest → Result RegisteredArtifact)

def serializeRows (rows : List ManifestRow) : Bytes :=
  if rows = [] then .empty else encodeUtf8 (joinWith '\n' (rows.map dump) ++ ['\n'])

def manifestSave (rows : List ManifestRow) : SaveRequest where
  artifactKind := "asset_manifest".toList
  data := serializeRows dump rows
  artifactFormat := "jsonl".toList
  mediaType := "application/jsonl".toList
  schemaVersion := "manifest_row.v1".toList
  datasetVersionId := request.versionId.1
  createdByJobId := request.createdByJobId.1
  configHash := request.configHash.1
  metadata := [("row_count".toList, Nat.toDigits 10 rows.length)]

def builtRows (outcomes : List (List JsonlOutcome)) : List ManifestRow :=
  outcomes.flatten.filterMap JsonlOutcome.row?

def buildAssetManifest (contents : ArchiveContents) : Result BuildManifestResult := do
  let outcomes ← contents.descriptors.mapM (entryOutcomes json request files)
  let rows := builtRows outcomes
  let artifact ← save (manifestSave request dump rows)
  pure ⟨artifact, counter (rows.map ManifestRow.modality),
    outcomes.flatten.filterMap JsonlOutcome.unsupported?, rows.length⟩

end Builder

section Refinement

variable {json : JsonModule Raised} {request : BuildManifestRequest}

theorem jsonlOutcome_of_lineOutcome {modality : DataModality} {sourceSystem : Text}
    {d : ArchiveFileDescriptor} {numbered : Text × Nat} {outcome : JsonlOutcome}
    (h : lineOutcome json request modality sourceSystem d numbered = .ok outcome) :
    jsonlOutcome request modality sourceSystem d numbered.2
      (JsonlRecord.read json.decode numbered.1) =
      .ok outcome := by
  obtain ⟨record, hrecord, h⟩ := bind_eq_ok.mp h
  obtain ⟨-, rfl⟩ := JsonModule.read_eq_ok.mp hrecord
  cases hread : JsonlRecord.read json.decode numbered.1 with
  | invalid | notObject =>
    rw [hread] at h
    exact h
  | object payload =>
    rw [hread] at h
    exact (check_bind_eq_ok.mp h).2

variable {files : ArchiveFiles}

theorem entryOutcomes_refines {d : ArchiveFileDescriptor} {outcomes : List JsonlOutcome}
    (h : entryOutcomes json request files d = .ok outcomes) :
    ManifestBuilder.entryOutcomes json.decode request (files.payloads request) d =
      .ok outcomes := by
  have hlines : ∀ modality sourceSystem,
      jsonlEntry json request modality sourceSystem d files = .ok outcomes →
        ManifestBuilder.jsonlEntry json.decode request (files.payloads request) modality
          sourceSystem d =
          .ok outcomes := by
    intro modality sourceSystem hentry
    rw [jsonlEntry] at hentry
    rw [ManifestBuilder.jsonlEntry]
    cases htext : decodeUtf8 (files.bytes d) with
    | none =>
      rw [htext] at hentry
      cases hentry
    | some text =>
      have hpayload : decodeUtf8 ((files.payloads request).bytes d) = some text := htext
      rw [htext] at hentry
      rw [hpayload]
      exact mapM_eq_ok_iff_forall₂.mpr
        ((mapM_eq_ok_iff_forall₂.mp hentry).imp fun _ _ => jsonlOutcome_of_lineOutcome)
  rw [entryOutcomes] at h
  rw [ManifestBuilder.entryOutcomes]
  rw [ManifestBuilder.entryOutcomes] at h
  cases hkind : d.kind <;> rw [hkind] at h
  case supportMessages | ocrRecords | imageManifest => exact hlines _ _ h
  all_goals exact h

/-- A build that succeeds with all these errors about is the build without them. -/
theorem buildAssetManifest_refines {dump : ManifestRow → Text}
    {save : SaveRequest → Result RegisteredArtifact} {contents : ArchiveContents}
    {result : BuildManifestResult}
    (h : buildAssetManifest json request files dump save contents = .ok result) :
    ∃ built, ManifestBuilder.buildAssetManifest json.decode request (files.payloads request)
      contents =
        .ok built ∧
      save (manifestSave request dump built.rows) = .ok result.manifestArtifact ∧
      result.totalRows = built.rows.length ∧ result.unsupportedEntries =
        built.unsupportedEntries := by
  obtain ⟨outcomes, houtcomes, h⟩ := bind_eq_ok.mp h
  obtain ⟨artifact, hsave, h⟩ := bind_eq_ok.mp h
  obtain rfl := Except.ok.inj h
  have hrefines := mapM_eq_ok_iff_forall₂.mpr
    ((mapM_eq_ok_iff_forall₂.mp houtcomes).imp fun _ _ => entryOutcomes_refines)
  exact ⟨_, bind_eq_ok.mpr ⟨outcomes, hrefines, rfl⟩, hsave, rfl, rfl⟩

end Refinement

end DataForge.Ingestion.ManifestArtifact
