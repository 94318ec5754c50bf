import DataForge.Ingestion.ManifestIds
import DataForge.Ingestion.ManifestTotals
import DataForge.Ingestion.ManifestRows
import DataForge.Ingestion.ValidationAudit

namespace DataForge.Ingestion.ManifestValidation

open DataForge.Foundation.Strings
open DataForge.Foundation.Lines
open DataForge.Foundation.Dictionary
open DataForge.Foundation.Grouping
open DataForge.Foundation.Sha256
open DataForge.Foundation.Outcome
open DataForge.Foundation.Failures
open DataForge.Foundation.Tables
open DataForge.Foundation.Json
open DataForge.Foundation.JsonReader
open DataForge.Foundation.JsonErrors
open DataForge.Foundation.JsonRoundTrip
open DataForge.Foundation.JsonSchema
open DataForge.Foundation.JsonModels
open DataForge.Domain.Common
open DataForge.Domain.Artifact
open DataForge.Domain.Evidence
open DataForge.Adapters.ObjectStorage
open DataForge.Adapters.ArtifactRegistry
open DataForge.Adapters.PlatformMetadata
open DataForge.Kernel.Policy
open DataForge.Ingestion.ArchiveReader
open DataForge.Ingestion.ManifestBuilder
open DataForge.Ingestion.TabularRows
open DataForge.Ingestion.ManifestArtifact
open DataForge.Ingestion.ManifestRows
open DataForge.Ingestion.ManifestIds
open DataForge.Ingestion.ManifestTotals
open DataForge.Ingestion.JsonlContract
open DataForge.Ingestion.ValidationAudit

section Validator

def manifestContract : Contract ManifestRows.ManifestRow where
  noun := "manifest".toList
  schemaName := "manifest_row".toList
  schema := manifestRowSchema
  requiredFields := requiredFields
  modelValidate := ManifestRows.ManifestRow.modelValidate
  error := "ManifestContractValidationError"
  emptyReason := "empty_manifest"
  mismatchMessage := "raw manifest object hash does not match registry record".toList
  classify _ := ⟨"pydantic_violation", "ManifestContractValidationError", .contractValidationFailed⟩

structure ManifestValidationReport where
  rowCount : Nat
  rowsByModality : Dict Text Nat
  inputHash : Sha256Digest
  schemaName : Text

def rowsByModality (rows : List ManifestRows.ManifestRow) : Dict Text Nat :=
  counter (rows.map fun row => modalityValue row.modality)

def validateManifestJsonl (json : JsonModule Raised) (wording : Wording) (data : Bytes) :
    Except Failure ManifestValidationReport :=
  (validateJsonl json wording manifestContract data).map fun rows =>
    ⟨rows.length, rowsByModality rows, sha256Digest data, manifestContract.schemaName⟩

/-- How `build_validated_manifest` saves and what it tells the platform. -/
def manifestPublication : Publication ManifestRows.ManifestRow where
  contract := manifestContract
  kind := "validated_manifest".toList
  schemaVersion := "manifest_row.v1".toList
  eventType := .manifestValidated
  saveMetadata raw _ := .ok [("validated_from_artifact_kind".toList, raw.artifactKind.1)]
  rowMetadata rows := .ok [("rows_by_modality".toList,
    .obj ((rowsByModality rows).map fun item => (item.1, countValue item.2)))]

end Validator

section Complete

variable (request : BuildManifestRequest)

/-- `_source_artifact_id_for_archive`. -/
def sourceArtifactId (report : ArchiveSafety.ArchiveSafetyReport) : NonEmptyStr :=
  let digest := computeRecordSha256 [("compressed_bytes".toList, countValue report.compressedBytes),
    ("uncompressed_bytes".toList, countValue report.uncompressedBytes),
    ("safe_entries".toList, .str (joinWith ',' report.safeEntries))]
  ⟨"raw_archive:".toList ++ (removePrefix "sha256:".toList digest.1).take 16,
    List.append_ne_nil_of_left_ne_nil (literal "raw_archive:").2 _⟩

/-- The row with its lineage, as it is written. -/
def complete (contents : ArchiveContents) (row : ManifestBuilder.ManifestRow) :
    ManifestRows.ManifestRow where
  objectId := row.objectId
  datasetId := row.datasetId
  versionId := row.versionId
  modality := row.modality
  assetUri := row.assetUri
  hash := row.hash
  metadata := row.metadata
  lineage := ⟨sourceArtifactId contents.safetyReport, request.parentVersionId,
    request.createdByJobId, request.configHash⟩
  annotationUri := none
  label := row.label
  split := none
  sourceSystem := some row.sourceSystem
  embeddingRefs := []

/-- The rows that the validator reads back. -/
def readBack (contents : ArchiveContents) (rows : List ManifestBuilder.ManifestRow) :
    List ManifestRows.ManifestRow :=
  rows.map fun row => (complete request contents row).canonical

def dumpRow (contents : ArchiveContents) (row : ManifestBuilder.ManifestRow) : Text :=
  rowToJson (complete request contents row)

end Complete

section BuiltRows

variable {number : NumberToken → Prop} {request : BuildManifestRequest}

/-- What the validator needs to know of a row: its URI was made of parts without separators and
of the version, and its metadata can be written. -/
structure RowFacts (number : NumberToken → Prop) (request : BuildManifestRequest)
    (row : ManifestBuilder.ManifestRow) : Prop where
  uri : row.assetUri.1 = manifestAssetUri request row.sourceSystem row.objectId.1
  source : ∀ c ∈ row.sourceSystem, isSeparator c = false
  object : ∀ c ∈ row.objectId.1, isSeparator c = false
  metadata : Wellformed number (.obj row.metadata)

theorem separator_deriveObjectId (datasetVersionId rowKey : Text) (contentHash : Sha256Digest) :
    ∀ c ∈ (deriveObjectId datasetVersionId rowKey contentHash).1, isSeparator c = false := by
  have hprefix : ∀ c ∈ "obj_".toList, isSeparator c = false := by decide
  have hdigits : ∀ c ∈ hexDigits, isSeparator c = false := by decide
  intro c hc
  obtain hc | hc := List.mem_append.mp hc
  · exact hprefix c hc
  · exact hdigits c (mem_hexdigest (List.mem_of_mem_take hc))

theorem rowFacts_manifestRow {modality : DataModality} {sourceSystem : Text}
    {datasetVersionId rowKey : Text} {hash : Sha256Digest} {metadata : Dict Text Value}
    {row : ManifestBuilder.ManifestRow} (hsource : ∀ c ∈ sourceSystem, isSeparator c = false)
    (hmetadata : Wellformed number (.obj metadata))
    (h : manifestRow request modality sourceSystem (deriveObjectId datasetVersionId rowKey hash)
      hash metadata = .ok row) : RowFacts number request row := by
  obtain ⟨uri, huri, h⟩ := bind_eq_ok.mp h
  obtain rfl := Except.ok.inj h
  exact ⟨field_eq_ok.mp huri, hsource, separator_deriveObjectId _ _ _, hmetadata⟩

/-- The entries that are chosen out of a record by their keys. -/
theorem keys_chosen (choose : Text → Option Value) (keys : List Text) :
    ((keys.filterMap fun key => (choose key).map fun value => (key, value)).map Prod.fst).Sublist
      keys := by
  induction keys with
  | nil => exact List.Sublist.slnil
  | cons key keys ih =>
    rw [List.filterMap_cons]
    cases choose key with
    | none => exact ih.cons key
    | some value => exact ih.cons_cons key

theorem keys_toList (key : Text) (o : Option Value) :
    ((o.map fun value => (key, value)).toList.map Prod.fst).Sublist [key] := by
  cases o with
  | none => exact List.nil_sublist _
  | some value => exact List.Sublist.refl _

theorem value_chosen {choose : Text → Option Value} {keys : List Text} {m : Text × Value}
    (h : m ∈ keys.filterMap fun key => (choose key).map fun value => (key, value)) :
    choose m.1 = some m.2 := by
  obtain ⟨key, -, hm⟩ := List.mem_filterMap.mp h
  obtain ⟨value, hvalue, rfl⟩ := Option.map_eq_some_iff.mp hm
  exact hvalue

theorem value_toList {key : Text} {o : Option Value} {m : Text × Value}
    (h : m ∈ (o.map fun value => (key, value)).toList) : o = some m.2 := by
  obtain ⟨value, hvalue, rfl⟩ := Option.map_eq_some_iff.mp (Option.mem_toList.mp h)
  exact hvalue

theorem wellformed_get? {record : Dict Text Value} (h : ∀ m ∈ record, Wellformed number m.2)
    {key : Text} {v : Value} (hv : get? key record = some v) : Wellformed number v :=
  h (key, v) (mem_of_get? hv)

theorem wellformed_filter {record : Dict Text Value} (h : ∀ m ∈ record, Wellformed number m.2)
    {key : Text} {keep : Value → Bool} {v : Value}
    (hv : (get? key record).filter keep = some v) : Wellformed number v :=
  wellformed_get? h (Option.filter_eq_some_iff.mp hv).1

theorem wellformed_jsonlMetadata {record : Dict Text Value}
    (h : ∀ m ∈ record, Wellformed number m.2) :
    Wellformed number (.obj (jsonlMetadata record)) := by
  refine .obj ?_ fun m hm => ?_
  · have hsub := (((keys_chosen (fun key => (get? key record).filter linked) knownLinkKeys).append
      (keys_toList "language".toList ((get? "language".toList record).filter truthy))).append
        (keys_toList "page".toList ((get? "page".toList record).filter present))).append
          (keys_toList sourceObjectIdKey ((sourceObjectId record).map Value.str))
    rw [← List.map_append, ← List.map_append, ← List.map_append, Option.map_map] at hsub
    exact hsub.nodup (by decide)
  · obtain hm | hm := List.mem_append.mp hm
    · obtain hm | hm := List.mem_append.mp hm
      · obtain hm | hm := List.mem_append.mp hm
        · exact wellformed_filter h (value_chosen hm)
        · exact wellformed_filter h (value_toList hm)
      · exact wellformed_filter h (value_toList hm)
    · obtain ⟨id, -, rfl⟩ := Option.map_eq_some_iff.mp (Option.mem_toList.mp hm)
      exact .str id

theorem wellformed_tabularMetadata {cells : Dict Text Value}
    (h : ∀ m ∈ cells, Wellformed number m.2) :
    Wellformed number (.obj (tabularMetadata cells)) := by
  refine .obj ?_ fun m hm => ?_
  · have hsub := (keys_chosen (fun key => (get? key cells).filter truthy)
      (knownLinkKeys ++ ["customer_segment".toList])).append
        (keys_toList sourceObjectIdKey ((sourceObjectId cells).map Value.str))
    rw [← List.map_append, Option.map_map] at hsub
    exact hsub.nodup (by decide)
  · obtain hm | hm := List.mem_append.mp hm
    · exact wellformed_filter h (value_chosen hm)
    · obtain ⟨id, -, rfl⟩ := Option.map_eq_some_iff.mp (Option.mem_toList.mp hm)
      exact .str id

theorem wellformed_cells (header values : List Text) :
    ∀ m ∈ (dictRow header values).cells, Wellformed number m.2 := by
  rintro ⟨k, v⟩ hm
  obtain hm | hm := mem_update hm
  · cases hm
  · obtain ⟨item, -, hitem⟩ := List.mem_map.mp hm
    obtain rfl := (Prod.mk.inj hitem).2
    cases values[item.2]? with
    | none => exact .null
    | some s => exact .str s

variable {json : JsonModule Raised} {files : ArchiveFiles}

theorem loads_of_read {line : Text} {payload : Dict Text Value}
    (h : JsonlRecord.read json.decode line = .object payload) :
    json.loads line = .value (.obj payload) := by
  rw [JsonlRecord.read, JsonModule.decode] at h
  cases hload : json.loads line with
  | value v =>
    rw [hload] at h
    cases v with
    | obj members => rw [JsonlRecord.object.inj h]
    | _ => cases h
  | decodeError | raised e =>
    rw [hload] at h
    cases h

theorem rowFacts_tabular {row : DictRow} {built : ManifestBuilder.ManifestRow}
    (hcells : ∀ m ∈ row.cells, Wellformed number m.2) (h : tabularRow request row = .ok built) :
    RowFacts number request built := by
  obtain ⟨record, -, h⟩ := bind_eq_ok.mp h
  obtain ⟨plain, hplain, h⟩ := bind_eq_ok.mp h
  obtain rfl := Except.ok.inj h
  have hfacts := rowFacts_manifestRow (by decide) (wellformed_tabularMetadata hcells) hplain
  exact ⟨hfacts.uri, hfacts.source, hfacts.object, hfacts.metadata⟩

theorem rowFacts_table {d : ArchiveFileDescriptor} {rows : List ManifestBuilder.ManifestRow}
    (h : buildTabularRows request files.readCsv d = .ok rows) :
    ∀ row ∈ rows, RowFacts number request row := by
  obtain ⟨file, -, h⟩ := bind_eq_ok.mp h
  intro built hbuilt
  obtain ⟨row, hrow, hbuilds⟩ := exists_of_mem_mapM h hbuilt
  cases file with
  | none => cases hrow
  | some t =>
    obtain ⟨values, -, rfl⟩ := List.mem_map.mp hrow
    exact rowFacts_tabular (wellformed_cells t.header values) hbuilds

theorem rowFacts_jsonl (hjson : Lawful json number) {modality : DataModality} {sourceSystem : Text}
    (hsource : ∀ c ∈ sourceSystem, isSeparator c = false) {d : ArchiveFileDescriptor}
    {text : Text} {outcomes : List JsonlOutcome}
    (h : ManifestBuilder.buildJsonlRows json.decode request modality sourceSystem d text =
      .ok outcomes) :
    ∀ row ∈ outcomes.filterMap JsonlOutcome.row?, RowFacts number request row := by
  intro row hrow
  obtain ⟨outcome, houtcome, hrow⟩ := List.mem_filterMap.mp hrow
  obtain ⟨numbered, -, hline⟩ := exists_of_mem_mapM h houtcome
  cases houtcome : outcome with
  | unsupported entry =>
    rw [houtcome] at hrow
    cases hrow
  | row built =>
    rw [houtcome] at hrow hline
    obtain rfl : built = row := Option.some.inj hrow
    cases hread : JsonlRecord.read json.decode numbered.1 with
    | invalid | notObject =>
      rw [hread] at hline
      cases hline
    | object payload =>
      rw [hread, jsonlOutcome] at hline
      obtain ⟨found, hfound, hsame⟩ := map_eq_ok.mp hline
      obtain rfl := JsonlOutcome.row.inj hsame
      obtain ⟨rowKey, -, hfound⟩ := bind_eq_ok.mp hfound
      have hpayload : json.loads numbered.1 = .value (.obj payload) :=
        loads_of_read hread
      cases hjson.made hpayload with
      | obj _ hmembers =>
        exact rowFacts_manifestRow hsource (wellformed_jsonlMetadata hmembers) hfound

theorem rowFacts_entry (hjson : Lawful json number) {d : ArchiveFileDescriptor}
    {outcomes : List JsonlOutcome}
    (h : ManifestBuilder.entryOutcomes json.decode request (files.payloads request) d =
      .ok outcomes) :
    ∀ row ∈ outcomes.filterMap JsonlOutcome.row?, RowFacts number request row := by
  have hlines : ∀ modality sourceSystem, (∀ c ∈ sourceSystem, isSeparator c = false) →
      ManifestBuilder.jsonlEntry json.decode request (files.payloads request) modality sourceSystem
        d = .ok outcomes →
        ∀ row ∈ outcomes.filterMap JsonlOutcome.row?, RowFacts number request row := by
    intro modality sourceSystem hsource hentry
    rw [ManifestBuilder.jsonlEntry] at hentry
    split at hentry
    · cases hentry
    · exact rowFacts_jsonl hjson hsource hentry
  rw [ManifestBuilder.entryOutcomes] at h
  cases hkind : d.kind <;> rw [hkind] at h
  case transactions =>
    obtain ⟨rows, hrows, rfl⟩ := map_eq_ok.mp h
    intro row hrow
    obtain ⟨outcome, houtcome, hsome⟩ := List.mem_filterMap.mp hrow
    obtain ⟨built, hbuilt, rfl⟩ := List.mem_map.mp houtcome
    obtain rfl : built = row := Option.some.inj hsome
    exact rowFacts_table hrows built hbuilt
  case supportMessages | ocrRecords | imageManifest => exact hlines _ _ (by decide) h
  case annotations =>
    obtain ⟨built, hbuilt, rfl⟩ := map_eq_ok.mp h
    intro row hrow
    obtain rfl := List.mem_singleton.mp hrow
    refine rowFacts_manifestRow (by decide) (.obj (by simp) ?_) hbuilt
    exact List.forall_mem_cons.mpr ⟨.str d.name, List.forall_mem_singleton.mpr (.bool true)⟩
  case predictions | readme | other =>
    obtain rfl := Except.ok.inj h
    exact fun row hrow => by cases hrow

/-- Every row of a built manifest has these facts. -/
theorem rowFacts_manifest (hjson : Lawful json number) {contents : ArchiveContents}
    {built : ManifestBuilder.BuildManifestResult}
    (h : ManifestBuilder.buildAssetManifest json.decode request (files.payloads request) contents =
      .ok built) :
    ∀ row ∈ built.rows, RowFacts number request row := by
  obtain ⟨outcomes, houtcomes, h⟩ := bind_eq_ok.mp h
  obtain rfl := Except.ok.inj h
  intro row hrow
  obtain ⟨outcome, houtcome, hsome⟩ := List.mem_filterMap.mp hrow
  obtain ⟨entry, hentry, hmem⟩ := List.mem_flatten.mp houtcome
  obtain ⟨d, -, hd⟩ := exists_of_mem_mapM houtcomes hentry
  exact rowFacts_entry hjson hd row (List.mem_filterMap.mpr ⟨outcome, hmem, hsome⟩)

end BuiltRows

section Written

variable {number : NumberToken → Prop} {json : JsonModule Raised} {wording : Wording}
  {request : BuildManifestRequest} {contents : ArchiveContents}
  {row : ManifestBuilder.ManifestRow}

theorem wellformed_optionalText (o : Option Text) : Wellformed number (optionalText o) := by
  cases o with
  | none => exact .null
  | some s => exact .str s

theorem wellformed_lineage (lineage : ManifestLineage) : Wellformed number lineage.modelDump := by
  refine .obj (by simp) ?_
  simp only [List.forall_mem_cons, List.not_mem_nil, false_implies, implies_true, and_true]
  exact ⟨.str _, .str _, .str _, .str _⟩

/-- A row whose metadata can be written can be written. -/
theorem wellformed_modelDump {row : ManifestRows.ManifestRow}
    (h : Wellformed number (.obj row.metadata)) (hrefs : row.embeddingRefs = []) :
    Wellformed number (.obj row.modelDump) := by
  refine .obj (nodup_modelDump row) ?_
  rw [ManifestRows.ManifestRow.modelDump, hrefs]
  simp only [List.forall_mem_cons, List.not_mem_nil, false_implies, implies_true, and_true]
  exact ⟨.str _, .str _, .str _, .str _, .str _, .str _, h, wellformed_lineage _,
    wellformed_optionalText _, wellformed_optionalText _, wellformed_optionalText _,
    wellformed_optionalText _, .obj List.nodup_nil fun m hm => by cases hm⟩

theorem sortKeys_modelDump (row : ManifestRows.ManifestRow) :
    sortKeys (.obj row.modelDump) = .obj row.payload := rfl

theorem loads_dumpRow (hjson : Lawful json number) (hrow : RowFacts number request row) :
    json.loads (dumpRow request contents row) = .value (.obj (complete request contents row).payload) :=
  hjson.back (@wellformed_modelDump number (complete request contents row) hrow.metadata rfl)

theorem printable_dumpRow (hjson : Lawful json number) (hrow : RowFacts number request row) :
    Printable (dumpRow request contents row) :=
  printable_render hjson.ascii (wellformed_sortKeys
    (@wellformed_modelDump number (complete request contents row) hrow.metadata rfl))

theorem not_isLineBoundary {s : Text} (h : Printable s) : ∀ c ∈ s, isLineBoundary c = false := by
  intro c hc
  obtain ⟨hlow, hhigh⟩ := h c hc
  simp only [isLineBoundary, Bool.or_eq_false_iff, Bool.and_eq_false_iff, decide_eq_false_iff_not]
  omega

theorem dumpRow_not_blank : ¬ Blank (dumpRow request contents row) := by
  obtain ⟨c, s, hrender, hc⟩ := exists_render_eq_cons
    (sortKeys (.obj (complete request contents row).modelDump))
  have hspace : ∀ c ∈ "n\"tf[\x7b-0123456789NI".toList, isSpace c = false := by decide
  rw [blank_iff, dumpRow, rowToJson, dumps, hrender]
  exact fun h => absurd (h c List.mem_cons_self) (by simp [hspace c hc])

theorem joinWith_newline {lines : List Text} (h : lines ≠ []) :
    joinWith '\n' lines ++ ['\n'] = lines.flatMap fun line => line ++ ['\n'] := by
  induction lines with
  | nil => exact absurd rfl h
  | cons line lines ih =>
    by_cases hrest : lines = []
    · subst hrest
      rw [joinWith_singleton, List.flatMap_cons, List.flatMap_nil, List.append_nil]
    · rw [joinWith_cons _ _ hrest, List.append_assoc, List.cons_append, ih hrest, List.flatMap_cons,
        List.append_assoc, List.singleton_append]

/-- The lines of a written manifest are its rows, one by one. -/
theorem lines_serializeRows (hjson : Lawful json number) {rows : List ManifestBuilder.ManifestRow}
    (hrows : ∀ row ∈ rows, RowFacts number request row) (hne : rows ≠ []) :
    ∃ text, decodeUtf8 (serializeRows (dumpRow request contents) rows) = some text ∧
      splitLines text = rows.map (dumpRow request contents) := by
  rw [serializeRows, if_neg hne]
  refine ⟨_, decodeUtf8_encodeUtf8 _, ?_⟩
  rw [joinWith_newline (by simpa using hne)]
  refine splitLines_flatMap fun line hline => ?_
  obtain ⟨row, hrow, rfl⟩ := List.mem_map.mp hline
  exact not_isLineBoundary (printable_dumpRow hjson (hrows row hrow))

theorem filter_dumpRow (rows : List ManifestBuilder.ManifestRow) :
    ((rows.map (dumpRow request contents)).filter fun l => decide (¬ Blank l)) =
      rows.map (dumpRow request contents) := by
  refine List.filter_eq_self.mpr fun line hline => ?_
  obtain ⟨row, -, rfl⟩ := List.mem_map.mp hline
  exact decide_eq_true dumpRow_not_blank

theorem forall_mem_joined {p : Char → Bool} {base v objects source id : Text}
    (hbase : ∀ c ∈ base, p c = false) (hobjects : ∀ c ∈ objects, p c = false)
    (hsource : ∀ c ∈ source, p c = false) (hslash : p '/' = false) (hid : ∀ c ∈ id, p c = false) :
    (∀ c ∈ base ++ v ++ objects ++ source ++ '/' :: id, p c = false) ↔ ∀ c ∈ v, p c = false := by
  simp only [List.forall_mem_append, List.forall_mem_cons]
  constructor
  · rintro ⟨⟨⟨⟨-, h⟩, -⟩, -⟩, -⟩
    exact h
  · exact fun h => ⟨⟨⟨⟨hbase, h⟩, hobjects⟩, hsource⟩, hslash, hid⟩

/-- The separators of a row's URI are those of the version. -/
theorem separators_uri (hrow : RowFacts number request row) :
    (∀ c ∈ row.assetUri.1, isSeparator c = false) ↔
      ∀ c ∈ request.versionId.1, isSeparator c = false := by
  rw [hrow.uri]
  exact forall_mem_joined (forall_mem_of_all (by decide)) (forall_mem_of_all (by decide))
    hrow.source (by decide) hrow.object

theorem schema_payload (hrow : RowFacts number request row) :
    manifestRowSchema (.obj (complete request contents row).payload) = [] ↔
      ∀ c ∈ request.versionId.1, isSeparator c = false := by
  rw [schema_of_model (modelValidate_payload (complete request contents row)),
    ← separators_uri hrow]
  constructor
  · rintro ⟨-, huri, -⟩
    exact huri
  · intro huri
    refine ⟨?_, huri, fun uri huri => by cases huri⟩
    rw [contains, ManifestRows.ManifestRow.payload, get?_sorted (nodup_modelDump _)]
    rfl

/-- The validator accepts the line of a row if the version has no separator, and reads the row
with the keys of its metadata in order. -/
theorem accepts_dumpRow (hjson : Lawful json number) (hrow : RowFacts number request row)
    {read : ManifestRows.ManifestRow} :
    Accepts json manifestContract (dumpRow request contents row) read ↔
      (∀ c ∈ request.versionId.1, isSeparator c = false) ∧
        read = (complete request contents row).canonical := by
  have hmodel := modelValidate_payload (complete request contents row)
  have hschema := @schema_payload number request contents row hrow
  rw [Accepts, loads_dumpRow hjson hrow, ← hschema]
  generalize (complete request contents row).payload = written at hmodel ⊢
  constructor
  · rintro ⟨payload, hload, haccepts, hread⟩
    obtain rfl := Value.obj.inj (Loaded.value.inj hload)
    exact ⟨haccepts, Except.ok.inj (hread.symm.trans hmodel)⟩
  · rintro ⟨haccepts, rfl⟩
    exact ⟨_, rfl, haccepts, hmodel⟩

end Written

section Errors

variable {json : JsonModule Raised} {wording : Wording} {request : BuildManifestRequest}
  {contents : ArchiveContents} {row : ManifestBuilder.ManifestRow}

/-- A URI that no layer objects to. -/
def plainUri : S3Uri := ⟨"s3://a".toList, ['a'], rfl, by decide, by decide⟩

def withPlainUri (row : ManifestRows.ManifestRow) : ManifestRows.ManifestRow :=
  { row with assetUri := plainUri }

theorem get?_middle {name key : Text} (h : key ≠ name) (v w : Value) (pre post : Dict Text Value) :
    get? name (pre ++ (key, v) :: post) = get? name (pre ++ (key, w) :: post) := by
  rw [get?_append, get?_append, get?, get?, if_neg h, if_neg h]

theorem get?_withPlainUri (row : ManifestRows.ManifestRow) {name : Text}
    (h : "asset_uri".toList ≠ name) :
    get? name (withPlainUri row).payload = get? name row.payload := by
  have hrow : row.modelDump = row.modelDump.take 4 ++ ("asset_uri".toList, .str row.assetUri.1) ::
      row.modelDump.drop 5 := rfl
  have hplain : (withPlainUri row).modelDump = row.modelDump.take 4 ++
      ("asset_uri".toList, .str plainUri.1) :: row.modelDump.drop 5 := rfl
  rw [ManifestRows.ManifestRow.payload, ManifestRows.ManifestRow.payload,
    get?_sorted (nodup_modelDump _), get?_sorted (nodup_modelDump _)]
  conv => rhs; rw [hrow]
  rw [hplain, get?_middle h]

theorem schema_withPlainUri {row : ManifestRows.ManifestRow} (hnone : row.annotationUri = none) :
    manifestRowSchema (.obj (withPlainUri row).payload) = [] := by
  have huri : ∀ c ∈ plainUri.1, isSeparator c = false := by decide
  refine (schema_of_model (modelValidate_payload _)).mpr ⟨?_, huri, fun uri huri => ?_⟩
  · rw [contains, ManifestRows.ManifestRow.payload, get?_sorted (nodup_modelDump _)]
    rfl
  · have hcanonical : (withPlainUri row).canonical.annotationUri = row.annotationUri := rfl
    rw [hcanonical, hnone] at huri
    cases huri

theorem contains_payload (row : ManifestRows.ManifestRow) {name : Text} (h : name ∈ rowFields) :
    contains name row.payload = true := by
  rw [contains, ManifestRows.ManifestRow.payload, get?_sorted (nodup_modelDump _),
    Option.isSome_map]
  rw [← keys_modelDump row] at h
  exact Option.ne_none_iff_isSome.mp fun hget => get?_eq_none.mp hget h

theorem uriSchema_of_mem {item : Text × Schema} (h : item ∈ rowProperties)
    (hname : "asset_uri".toList = item.1) : item.2 = uriSchema := by
  have hnodup : (rowProperties.map Prod.fst).Nodup := by
    have hkeys : rowProperties.map Prod.fst = rowFields := rfl
    rw [hkeys]
    decide
  have hget := get?_of_mem hnodup h
  rw [← hname] at hget
  exact (Option.some.inj hget).symm

/-- Only the URI of a row can offend the schema. -/
theorem path_of_payload {row : ManifestRows.ManifestRow} (hnone : row.annotationUri = none)
    {e : SchemaError} (h : e ∈ manifestRowSchema (.obj row.payload)) :
    e.path = ["asset_uri".toList] := by
  obtain ⟨-, -, hproperties⟩ := closedObject_eq_nil.mp (schema_withPlainUri hnone)
  obtain ⟨item, hitem, w, hget, e', he', rfl⟩ := mem_closedObject
    (fun name hname => contains_payload row (List.mem_of_mem_take hname))
    (fun m hm => keys_modelDump row ▸ mem_keys_sorted hm) h
  by_cases hname : "asset_uri".toList = item.1
  · have hpath : e'.path = [] := by
      rw [uriSchema_of_mem hitem hname] at he'
      obtain ⟨schema, hschema, he'⟩ := List.mem_flatMap.mp he'
      obtain rfl | hschema := List.mem_cons.mp hschema
      · exact path_of_type he'
      · obtain rfl := List.mem_singleton.mp hschema
        exact path_of_onText he'
    rw [SchemaError.under, hpath, ← hname]
  · rw [← get?_withPlainUri row hname] at hget
    rw [property_eq_nil.mp (hproperties item hitem) w hget] at he'
    cases he'

variable {number : NumberToken → Prop}

theorem errorPath_uri :
    (errorPath ["asset_uri".toList]).takeWhile (fun ch => ch != ':') = "$.asset_uri".toList := by
  decide

theorem schemaName_manifest : ∀ ch ∈ manifestContract.schemaName, ch ≠ 'v' := by decide

/-- A version with a separator makes every written line offend in its URI. -/
theorem validateLine_dumpRow (hjson : Lawful json number) (hrow : RowFacts number request row)
    (hversion : ¬ ∀ c ∈ request.versionId.1, isSeparator c = false) (n : Nat) :
    ∃ e, validateLine json wording manifestContract (dumpRow request contents row, n) =
        .error (.contract e) ∧ e.reasonCode = "schema_violation" ∧ e.lineNumber = some n ∧
      e.fieldPath = some "$.asset_uri".toList := by
  have hcontains : ∀ name ∈ requiredFields,
      contains name (complete request contents row).payload = true :=
    fun name hname => contains_payload _ (List.mem_of_mem_take hname)
  have hpath : ∀ e ∈ manifestRowSchema (.obj (complete request contents row).payload),
      e.path = ["asset_uri".toList] := fun e he => path_of_payload rfl he
  rw [← @schema_payload number request contents row hrow] at hversion
  rw [validateLine, loads_dumpRow hjson hrow]
  dsimp only
  generalize (complete request contents row).payload = payload at hcontains hpath hversion ⊢
  rw [validateObject]
  cases hschema : validateContractPayload wording manifestContract.schemaName
      manifestContract.schema payload with
  | ok u => exact absurd (validateContractPayload_eq_ok.mp hschema) hversion
  | error message =>
    obtain ⟨found, hfound, -, hfield⟩ := fieldPath_of_schemaError schemaName_manifest hschema
    refine ⟨_, rfl, ?_, rfl, ?_⟩
    · refine if_neg ?_
      rintro ⟨name, hname, hmissing⟩
      exact Bool.false_ne_true (hmissing.symm.trans (hcontains name hname))
    · rw [hpath found hfound, errorPath_uri] at hfield
      exact hfield

theorem mapM_error_head {ε α β : Type} {f : α → Except ε β} {x : α} {xs : List α} {e : ε}
    (h : f x = .error e) : (x :: xs).mapM f = .error e := by
  rw [List.mapM_cons, h, error_bind]

theorem numberedLines_of_splitLines {text line : Text} {lines : List Text}
    (h : splitLines text = line :: lines) (hline : ¬ Blank line) :
    ∃ rest, JsonlContract.numberedLines text = (line, 1) :: rest := by
  rw [JsonlContract.numberedLines, h, List.zipIdx_cons,
    List.filter_cons_of_pos (by simpa using hline)]
  exact ⟨_, rfl⟩

theorem validateJsonl_serializeRows_error (hjson : Lawful json number)
    {rows : List ManifestBuilder.ManifestRow} (hrows : ∀ row ∈ rows, RowFacts number request row)
    (hne : rows ≠ []) (hversion : ¬ ∀ c ∈ request.versionId.1, isSeparator c = false) :
    ∃ e, validateJsonl json wording manifestContract
        (serializeRows (dumpRow request contents) rows) = .error (.contract e) ∧
      e.reasonCode = "schema_violation" ∧ e.lineNumber = some 1 ∧
      e.fieldPath = some "$.asset_uri".toList := by
  obtain ⟨text, hdata, hlines⟩ := @lines_serializeRows number json request contents hjson rows
    hrows hne
  cases rows with
  | nil => exact absurd rfl hne
  | cons row rows =>
    obtain ⟨e, he, hfields⟩ := @validateLine_dumpRow json wording request contents row number hjson
      (hrows row List.mem_cons_self) hversion 1
    obtain ⟨rest, hnumbered⟩ := numberedLines_of_splitLines hlines dumpRow_not_blank
    refine ⟨e, ?_, hfields⟩
    have hblank : ¬ Blank text := fun hblank => dumpRow_not_blank
      (blank_of_mem_splitLines hblank (by rw [hlines]; exact List.mem_cons_self))
    rw [validateJsonl, hdata]
    dsimp only
    rw [if_neg hblank, hnumbered, mapM_error_head he, error_bind]

end Errors

section Results

variable {number : NumberToken → Prop} {json : JsonModule Raised} {wording : Wording}

theorem located_manifestRowSchema : Located manifestRowSchema := by
  have htext : Located textSchema := located_pair (located_type _) (located_onText _ _)
  have hdigest : Located digestSchema := located_pair (located_type _) (located_onText _ _)
  have huri : ∀ names, Located (keywords [type names, uriKeyword]) :=
    fun names => located_pair (located_type names) (located_onText _ _)
  have honly : ∀ names, Located (keywords [type names]) :=
    fun names => located_keywords (List.forall_mem_singleton.mpr (located_type names))
  have henum : ∀ names values, Located (keywords [type names, enum values]) :=
    fun names values => located_pair (located_type names) (located_enum values)
  have hlineage : Located lineageSchema := by
    refine located_closedObject ?_
    simp only [lineageProperties, List.forall_mem_cons, List.not_mem_nil, false_implies,
      implies_true, and_true]
    exact ⟨htext, htext, htext, hdigest⟩
  refine located_closedObject ?_
  simp only [rowProperties, List.forall_mem_cons, List.not_mem_nil, false_implies, implies_true,
    and_true]
  exact ⟨htext, htext, htext, henum _ _, huri _, hdigest, honly _, hlineage, huri _, honly _,
    henum _ _, honly _, located_pair (located_type _) (located_additionalProperties (honly _))⟩

/-- The value that the reported path of a line leads to. -/
def Points (json : JsonModule Raised) (line : Text) (fieldPath : Option Text) : Prop :=
  ∀ payload, json.loads line = .value (.obj payload) → manifestRowSchema (.obj payload) ≠ [] →
    ∃ found ∈ manifestRowSchema (.obj payload),
      follow found.path (.obj payload) = some found.subject ∧
        fieldPath = some ((errorPath found.path).takeWhile fun ch => ch != ':')

theorem points_of_offends (hjson : Lawful json number) {line : Text} {e : RowError}
    (h : Offends json wording manifestContract line e) : Points json line e.fieldPath := by
  intro payload hload hschema
  cases h with
  | invalidJson hother => cases hload.symm.trans hother
  | notObject hother hkind =>
    exact absurd (Loaded.value.inj (hother.symm.trans hload)) (hkind payload)
  | @schema other found hother hfound _ _ _ hpath =>
    obtain rfl := Value.obj.inj (Loaded.value.inj (hother.symm.trans hload))
    have hread := (hjson.made hload).mono fun _ _ => trivial
    exact ⟨found, hfound, located_manifestRowSchema _ hread found hfound, hpath⟩
  | @model other found hother hnone =>
    obtain rfl := Value.obj.inj (Loaded.value.inj (hother.symm.trans hload))
    exact absurd hnone hschema

def plainWording : Wording := ⟨fun _ => [], fun _ _ => []⟩

/-- A manifest whose second line is a list. -/
def listManifest : Bytes := encodeUtf8 "\n[1]".toList

theorem listManifest_error : ∃ e, validateManifestJsonl (scanner Raised) plainWording listManifest =
    .error (.contract e) ∧ e.lineNumber = some 2 := by
  rw [validateManifestJsonl, listManifest, validateJsonl, decodeUtf8_encodeUtf8]
  exact ⟨_, rfl, rfl⟩

/-- A manifest is accepted exactly if it has a line that is not blank and each such line is an
object that both layers accept; the report counts the rows and their modalities and has the
digest of the bytes. -/
theorem validateManifestJsonl_eq_ok {data : Bytes} {report : ManifestValidationReport} :
    validateManifestJsonl json wording data = .ok report ↔
      ∃ text rows, decodeUtf8 data = some text ∧ rows ≠ [] ∧
        List.Forall₂ (Accepts json manifestContract)
          ((splitLines text).filter fun l => decide (¬ Blank l)) rows ∧
        report.rowCount = rows.length ∧ report.inputHash = sha256Digest data ∧
        report.schemaName = "manifest_row".toList ∧ report.rowsByModality = rowsByModality rows := by
  rw [validateManifestJsonl, map_eq_ok]
  constructor
  · rintro ⟨rows, hrows, rfl⟩
    obtain ⟨hne, text, htext, haccepts⟩ := validateJsonl_eq_ok.mp hrows
    exact ⟨text, rows, htext, hne, haccepts, rfl, rfl, rfl, rfl⟩
  · rintro ⟨text, rows, htext, hne, haccepts, hcount, hhash, hname, hmodality⟩
    refine ⟨rows, validateJsonl_eq_ok.mpr ⟨hne, text, htext, haccepts⟩, ?_⟩
    obtain ⟨count, modality, hash, name⟩ := report
    simp only at hcount hhash hname hmodality
    subst hcount hhash hname hmodality
    rfl

variable {request : BuildManifestRequest} {contents : ArchiveContents} {files : ArchiveFiles}

theorem forall₂_accepts (hjson : Lawful json number) {rows : List ManifestBuilder.ManifestRow}
    (hrows : ∀ row ∈ rows, RowFacts number request row) {read : List ManifestRows.ManifestRow} :
    List.Forall₂ (fun row found => Accepts json manifestContract (dumpRow request contents row)
        found) rows read ↔
      (∀ row ∈ rows, ∀ c ∈ request.versionId.1, isSeparator c = false) ∧
        read = readBack request contents rows := by
  induction rows generalizing read with
  | nil => simp [readBack]
  | cons row rows ih =>
    obtain ⟨hrow, hrest⟩ := List.forall_mem_cons.mp hrows
    simp only [List.forall₂_cons_left_iff, accepts_dumpRow hjson hrow, ih hrest,
      List.forall_mem_cons, readBack, List.map_cons]
    constructor
    · rintro ⟨found, founds, ⟨hversion, rfl⟩, ⟨hall, rfl⟩, rfl⟩
      exact ⟨⟨hversion, hall⟩, rfl⟩
    · rintro ⟨⟨hversion, hall⟩, rfl⟩
      exact ⟨_, _, ⟨hversion, rfl⟩, ⟨hall, rfl⟩, rfl⟩

theorem validateJsonl_serializeRows (hjson : Lawful json number)
    {rows : List ManifestBuilder.ManifestRow} (hrows : ∀ row ∈ rows, RowFacts number request row)
    {read : List ManifestRows.ManifestRow} :
    validateJsonl json wording manifestContract (serializeRows (dumpRow request contents) rows) =
      .ok read ↔ rows ≠ [] ∧ (∀ c ∈ request.versionId.1, isSeparator c = false) ∧
        read = readBack request contents rows := by
  by_cases hne : rows = []
  · subst hne
    rw [validateJsonl_eq_ok]
    refine iff_of_false ?_ fun h => h.1 rfl
    rintro ⟨hread, text, htext, haccepts⟩
    have hempty : text = [] := by
      have hdecode : decodeUtf8 (encodeUtf8 []) = some text := htext
      rw [decodeUtf8_encodeUtf8] at hdecode
      exact (Option.some.inj hdecode).symm
    subst hempty
    exact hread (List.forall₂_nil_left_iff.mp haccepts)
  · obtain ⟨text, htext, hlines⟩ := @lines_serializeRows number json request contents hjson rows
      hrows hne
    rw [validateJsonl_eq_ok]
    simp only [htext, Option.some.injEq, exists_eq_left', hlines, filter_dumpRow,
      List.forall₂_map_left_iff, forall₂_accepts hjson hrows]
    obtain ⟨row, hrow⟩ := List.exists_mem_of_ne_nil rows hne
    constructor
    · rintro ⟨-, hversion, rfl⟩
      exact ⟨hne, hversion row hrow, rfl⟩
    · rintro ⟨-, hversion, rfl⟩
      exact ⟨by simpa [readBack] using hne, fun _ _ => hversion, rfl⟩

theorem countOf_rowsByModality (rows : List ManifestBuilder.ManifestRow) (m : DataModality) :
    countOf (modalityValue m) (rowsByModality (readBack request contents rows)) =
      countOf m (counter (rows.map ManifestBuilder.ManifestRow.modality)) := by
  have hinj : ∀ m', modalityValue m' = modalityValue m ↔ m' = m := fun m' =>
    ⟨modalityValue_injective m' (mem_modalities m') m (mem_modalities m), congrArg _⟩
  rw [rowsByModality, countOf_counter_map, countOf_counter_map, readBack, List.countP_map]
  refine List.countP_congr fun row _ => ?_
  simp only [Function.comp_apply, decide_eq_true_eq]
  exact hinj row.modality

def transactionsBuild : Result ManifestArtifact.BuildManifestResult :=
  ManifestArtifact.buildAssetManifest (scanner Raised) versionRequest (transactionsFiles "10" "20")
    (dumpRow versionRequest transactionsArchive) storeManifest transactionsArchive

end Results

end DataForge.Ingestion.ManifestValidation
