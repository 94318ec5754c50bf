import DataForge.Ingestion.BuildableLines

namespace DataForge.Ingestion.ManifestTotals

open DataForge.Foundation.Strings
open DataForge.Foundation.Lines
open DataForge.Foundation.Dictionary
open DataForge.Foundation.Grouping
open DataForge.Foundation.Json
open DataForge.Foundation.JsonReader
open DataForge.Foundation.JsonErrors
open DataForge.Foundation.Sha256
open DataForge.Foundation.Outcome
open DataForge.Foundation.Failures
open DataForge.Foundation.Tables
open DataForge.Domain.Common
open DataForge.Domain.Artifact
open DataForge.Domain.Evidence
open DataForge.Adapters.ArtifactRegistry
open DataForge.Ingestion.ArchiveReader
open DataForge.Ingestion.ManifestBuilder hiding BuildManifestResult buildAssetManifest entryOutcomes
  buildJsonlRows jsonlEntry
open DataForge.Ingestion.TabularRows
open DataForge.Ingestion.ManifestArtifact
open DataForge.Ingestion.BuildableLines
open DataForge.Kernel.Policy

section Manifest

variable (json : JsonModule Raised) (request : BuildManifestRequest) (files : ArchiveFiles)

/-- The data rows of the table, or the lines of a JSON lines entry, each with what it became. -/
def Covers (d : ArchiveFileDescriptor) (outcomes : List JsonlOutcome) : Prop :=
  (∀ source, jsonlSource d.kind = some source → ∃ text, decodeUtf8 (files.bytes d) = some text ∧
    List.Forall₂ (LineOutcomeOf json source.1 d) (numberedLines text) outcomes) ∧
  (d.kind = .transactions → ∃ file, files.readCsv d = .ok file ∧
    List.Forall₂ TabularRowOf (dictRows file) outcomes)

/-- What the lines of a table have to be. -/
def TableBuildable (file : Option Table) : Prop :=
  ∀ t, file = some t → ∀ line ∈ t.lines, line ≠ [] →
    (line.length ≤ t.header.length ∨ t.header = []) ∧ UriVersion request

structure EntryBuildable (d : ArchiveFileDescriptor) : Prop where
  table : d.kind = .transactions → ∃ file, files.readCsv d = .ok file ∧ TableBuildable request file
  lines : ∀ source, jsonlSource d.kind = some source → ∀ text, decodeUtf8 (files.bytes d) =
    some text →
    ∀ numbered ∈ numberedLines text, LineBuildable json request numbered.1
  annotations : d.kind = .annotations → UriVersion request

variable {json request files}

theorem isWhiteSpace_jsonlSource {kind : ArchiveEntryKind} {source : DataModality × Text}
    (h : jsonlSource kind = some source) : ∀ c ∈ source.2, isWhiteSpace c = false := by
  cases kind <;> cases h <;> decide

theorem exists_tabularRows {file : Option Table} :
    (∃ rows, (dictRows file).mapM (tabularRow request) = .ok rows) ↔
      TableBuildable request file := by
  rw [exists_mapM_iff, TableBuildable]
  cases file with
  | none => simp [dictRows]
  | some t =>
    constructor
    · rintro h t' ht line hline hne
      obtain rfl := Option.some.inj ht
      exact exists_tabularRow.mp
        (h _ (List.mem_map.mpr ⟨line, List.mem_filter.mpr ⟨hline, by simpa⟩, rfl⟩))
    · intro h row hrow
      obtain ⟨line, hline, rfl⟩ := List.mem_map.mp hrow
      obtain ⟨hline, hne⟩ := List.mem_filter.mp hline
      exact exists_tabularRow.mpr (h t rfl line hline (by simpa using hne))

theorem exists_transactions {d : ArchiveFileDescriptor} :
    (∃ rows, buildTabularRows request files.readCsv d = .ok rows) ↔
      ∃ file, files.readCsv d = .ok file ∧ TableBuildable request file := by
  constructor
  · rintro ⟨rows, h⟩
    obtain ⟨file, hfile, h⟩ := bind_eq_ok.mp h
    exact ⟨file, hfile, exists_tabularRows.mp ⟨rows, h⟩⟩
  · rintro ⟨file, hfile, hbuildable⟩
    obtain ⟨rows, hrows⟩ := exists_tabularRows.mpr hbuildable
    exact ⟨rows, bind_eq_ok.mpr ⟨file, hfile, hrows⟩⟩

theorem exists_skeletonRow {payloads : ArchivePayloads} {d : ArchiveFileDescriptor} :
    (∃ row, skeletonRow request payloads "annotations_sample".toList d = .ok row) ↔
      UriVersion request :=
  exists_manifestRow (by decide)

/-- An entry is read to its end exactly where nothing in it is refused. -/
theorem exists_entryOutcomes {d : ArchiveFileDescriptor}
    (hutf8 : ∀ source, jsonlSource d.kind = some source → ∃ text,
      decodeUtf8 (files.bytes d) = some text) :
    (∃ outcomes, entryOutcomes json request files d = .ok outcomes) ↔
      EntryBuildable json request files d := by
  have hmap : ∀ {α β : Type} {x : Result α} {f : α → β}, (∃ y, x.map f = .ok y) ↔
      ∃ a, x = .ok a := by
    intro α β x f
    cases x with
    | error e => exact ⟨fun ⟨y, h⟩ => (by cases h), fun ⟨a, h⟩ => (by cases h)⟩
    | ok a => exact ⟨fun _ => ⟨a, rfl⟩, fun _ => ⟨f a, rfl⟩⟩
  cases hsource : jsonlSource d.kind with
  | some source =>
    obtain ⟨text, htext⟩ := hutf8 source hsource
    have hkind : d.kind ≠ .transactions ∧ d.kind ≠ .annotations := by
      constructor <;> intro h <;> rw [h] at hsource <;> cases hsource
    rw [entryOutcomes, hsource]
    dsimp only
    rw [jsonlEntry, htext]
    dsimp only
    rw [buildJsonlRows, exists_mapM_iff]
    constructor
    · intro h
      refine ⟨fun hk => absurd hk hkind.1, fun other hother text' htext' numbered hmem => ?_,
        fun hk => absurd hk hkind.2⟩
      rw [htext] at htext'
      obtain rfl := Option.some.inj htext'
      exact (exists_lineOutcome (isWhiteSpace_jsonlSource hsource)).mp (h numbered hmem)
    · intro h numbered hmem
      exact (exists_lineOutcome (isWhiteSpace_jsonlSource hsource)).mpr
        (h.lines source hsource text htext numbered hmem)
  | none =>
    rw [entryOutcomes, hsource]
    dsimp only
    rw [ManifestBuilder.entryOutcomes]
    cases hkind : d.kind with
    | supportMessages | ocrRecords | imageManifest =>
      rw [hkind] at hsource
      cases hsource
    | transactions =>
      refine hmap.trans (exists_transactions.trans ?_)
      exact ⟨fun h => ⟨fun _ => h, by simp [hsource], by simp [hkind]⟩, fun h => h.table hkind⟩
    | annotations =>
      refine hmap.trans (exists_skeletonRow.trans ?_)
      exact ⟨fun h => ⟨by simp [hkind], by simp [hsource], fun _ => h⟩,
        fun h => h.annotations hkind⟩
    | predictions | readme | other =>
      exact iff_of_true ⟨_, rfl⟩ ⟨by simp [hkind], by simp [hsource], by simp [hkind]⟩

theorem covers_entryOutcomes {d : ArchiveFileDescriptor} {outcomes : List JsonlOutcome}
    (h : entryOutcomes json request files d = .ok outcomes) : Covers json files d outcomes := by
  rw [entryOutcomes] at h
  constructor
  · intro source hsource
    rw [hsource] at h
    dsimp only at h
    rw [jsonlEntry] at h
    cases htext : decodeUtf8 (files.bytes d) with
    | none =>
      rw [htext] at h
      cases h
    | some text =>
      rw [htext] at h
      exact ⟨text, rfl, (mapM_eq_ok_iff_forall₂.mp h).imp fun _ _ => lineOutcome_of⟩
  · intro hkind
    have hsource : jsonlSource d.kind = none := by rw [hkind]; rfl
    rw [hsource] at h
    dsimp only at h
    rw [ManifestBuilder.entryOutcomes, hkind] at h
    dsimp only at h
    cases hrows : (files.payloads request).tabularRows d with
    | error e =>
      rw [hrows] at h
      cases h
    | ok rows =>
      rw [hrows] at h
      obtain rfl := Except.ok.inj h
      obtain ⟨file, hfile, hrows⟩ := bind_eq_ok.mp hrows
      refine ⟨file, hfile, List.forall₂_map_right_iff.mpr ?_⟩
      exact (mapM_eq_ok_iff_forall₂.mp hrows).imp fun _ _ => tabularRow_of

variable (json request files) (dump : ManifestRow → Text)
  (save : SaveRequest → Result RegisteredArtifact)

/-- Every data row and every line is in the manifest or among the unsupported entries,
and the counts add up. -/
def Complete (contents : ArchiveContents) (result : BuildManifestResult) : Prop :=
  ∃ outcomes, List.Forall₂ (Covers json files) contents.descriptors outcomes ∧
    save (manifestSave request dump (builtRows outcomes)) = .ok result.manifestArtifact ∧
    result.unsupportedEntries = outcomes.flatten.filterMap JsonlOutcome.unsupported? ∧
    result.totalRows = (builtRows outcomes).length ∧
    (result.rowsByModality.map Prod.snd).sum = result.totalRows

end Manifest

section Example

/-- An archive with one transaction and a file of messages. -/
def messagesArchive : ArchiveContents :=
  ⟨[⟨"transactions.csv".toList, .transactions, "text/csv", 1, 1,
    ⟨"transactions.csv".toList, 0, 1, 1⟩⟩,
    ⟨"support_messages.jsonl".toList, .supportMessages, "application/jsonl", 1, 1,
      ⟨"support_messages.jsonl".toList, 0, 1, 1⟩⟩],
    ⟨2, 2, 2, ["transactions.csv".toList, "support_messages.jsonl".toList]⟩⟩

def messagesFiles (message : String) : ArchiveFiles where
  bytes _ := message.toUTF8
  readCsv _ := .ok (some ⟨["object_id".toList], [["t1".toList]]⟩)

def messagesRequest : BuildManifestRequest where
  datasetId := literal "dataset"
  versionId := literal "v1"
  parentVersionId := literal "v0"
  createdByJobId := literal "job"
  configHash := zeroDigest

def manifestRef : ArtifactRef where
  artifactId := literal "asset_manifest:0"
  kind := literal "asset_manifest"
  uri := ⟨"s3://bucket/manifest".toList, by decide⟩
  hash := zeroDigest
  mediaType := literal "application/jsonl"
  sizeBytes := 1
  schemaVersion := literal "manifest_row.v1"
  lineage := ⟨literal "v1", literal "job", zeroDigest, ⟨0, some 0⟩⟩

/-- A registry that stores everything. -/
def storeManifest (_ : SaveRequest) : Result RegisteredArtifact :=
  .ok ⟨manifestRef, manifestRef.kind, manifestRef.uri, manifestRef.hash, literal "jsonl",
    manifestRef.schemaVersion, literal "job"⟩

def rowId (row : ManifestRow) : Text := row.objectId.1

theorem decodes_messages (message : String) :
    ∀ d ∈ messagesArchive.descriptors, ∀ source, jsonlSource d.kind = some source →
      ∃ text, decodeUtf8 ((messagesFiles message).bytes d) = some text := by
  intro d _ source _
  have h := decodeUtf8_encodeUtf8 message.toList
  rw [encodeUtf8, String.ofList_toList] at h
  exact ⟨message.toList, h⟩

end Example

end DataForge.Ingestion.ManifestTotals
