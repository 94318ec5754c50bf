import DataForge.Domain.Evidence
import DataForge.Foundation.JsonReader
import DataForge.Foundation.Lines
import DataForge.Ingestion.ArchiveReader
import DataForge.Kernel.Policy

namespace DataForge.Ingestion.ManifestBuilder

open DataForge.Foundation.Strings
open DataForge.Foundation.Lines
open DataForge.Foundation.Dictionary
open DataForge.Foundation.Json
open DataForge.Foundation.JsonReader
open DataForge.Foundation.Sha256
open DataForge.Foundation.Outcome
open DataForge.Foundation.PosixPath
open DataForge.Domain.Common
open DataForge.Domain.Evidence
open DataForge.Ingestion.ArchiveReader
open DataForge.Kernel.Policy

section Identity

def computeRecordSha256 (record : Dict Text Value) : Sha256Digest :=
  sha256Digest (encodeUtf8 (dumps (.obj record)))

/-- The three arguments that the builder passes are never empty. -/
def deriveObjectId (datasetVersionId rowKey : Text) (contentHash : Sha256Digest) : NonEmptyStr :=
  ⟨"obj_".toList ++ (hexdigest (encodeUtf8
    (joinWith '\n' ["v1".toList, datasetVersionId, rowKey, contentHash.1]))).take 24,
    List.append_ne_nil_of_left_ne_nil (by decide) _⟩

end Identity

structure BuildManifestRequest where
  datasetId : NonEmptyStr
  versionId : NonEmptyStr
  parentVersionId : NonEmptyStr
  createdByJobId : NonEmptyStr
  configHash : Sha256Digest

structure UnsupportedEntry where
  name : Text
  kind : ArchiveEntryKind
  fileSize : Nat
  lineNumber : Option Nat
  reasonCode : String

structure ManifestRow where
  objectId : NonEmptyStr
  datasetId : NonEmptyStr
  versionId : NonEmptyStr
  modality : DataModality
  assetUri : S3Uri
  hash : Sha256Digest
  metadata : Dict Text Value
  label : Option Text
  sourceSystem : Text

/-- A descriptor's payload as its two readers find it: its bytes, and the rows of a
table. -/
structure ArchivePayloads where
  bytes : ArchiveFileDescriptor → Bytes
  tabularRows : ArchiveFileDescriptor → Result (List ManifestRow)

def manifestAssetUri (request : BuildManifestRequest) (sourceSystem objectId : Text) : Text :=
  "s3://dataforge-manifest/versions/".toList ++ request.versionId.1 ++ "/objects/".toList ++
    sourceSystem ++ '/' :: objectId

def manifestRow (request : BuildManifestRequest) (modality : DataModality) (sourceSystem : Text)
    (objectId : NonEmptyStr) (hash : Sha256Digest) (metadata : Dict Text Value) :
    Result ManifestRow := do
  let uri ← field "ManifestRow" "asset_uri" (manifestAssetUri request sourceSystem objectId.1)
  pure ⟨objectId, request.datasetId, request.versionId, modality, uri, hash, metadata, none,
    sourceSystem⟩

section Jsonl

def knownLinkKeys : List Text :=
  ["case_id".toList, "customer_id_hash".toList, "document_id".toList, "transaction_id".toList,
    "support_ticket_id".toList]

/-- `value not in (None, "", [])`. -/
def linked : Value → Bool
  | .null | .str [] | .arr [] => false
  | _ => true

/-- `value is not None`. -/
def present : Value → Bool
  | .null => false
  | _ => true

def sourceObjectIdKey : Text := "source_object_id".toList

/-- The object id of a record whose row was built; any other true value has raised. -/
def sourceObjectId (record : Dict Text Value) : Option Text :=
  match get? "object_id".toList record with
  | some (.str (c :: s)) => some (c :: s)
  | _ => none

def jsonlMetadata (record : Dict Text Value) : Dict Text Value :=
  (knownLinkKeys.filterMap fun key =>
      ((get? key record).filter linked).map fun value => (key, value)) ++
    (((get? "language".toList record).filter truthy).map fun v => ("language".toList, v)).toList ++
    (((get? "page".toList record).filter present).map fun v => ("page".toList, v)).toList ++
    ((sourceObjectId record).map fun id => (sourceObjectIdKey, Value.str id)).toList

/-- `record.get("object_id") or fallback`, which has to be a text when it is joined. -/
def jsonlRowKey (record : Dict Text Value) (fallback : Text) : Result Text :=
  match get? "object_id".toList record with
  | none => .ok fallback
  | some (.str (c :: s)) => .ok (c :: s)
  | some v =>
    if truthy v then .error (.plain "TypeError" "sequence item 2: expected str instance")
    else .ok fallback

def jsonlRow (request : BuildManifestRequest) (modality : DataModality) (sourceSystem : Text)
    (lineNumber : Nat) (record : Dict Text Value) : Result ManifestRow := do
  let contentHash := computeRecordSha256 record
  let rowKey ← jsonlRowKey record (sourceSystem ++ ':' :: Nat.toDigits 10 lineNumber)
  let objectId := deriveObjectId request.versionId.1 rowKey contentHash
  manifestRow request modality sourceSystem objectId contentHash (jsonlMetadata record)

/-- What one line that is not blank becomes. -/
inductive JsonlOutcome where
  | row (row : ManifestRow)
  | unsupported (entry : UnsupportedEntry)

variable (loads : Text → Option Value) (request : BuildManifestRequest) (modality : DataModality)
  (sourceSystem : Text) (d : ArchiveFileDescriptor)

def jsonlOutcome (lineNumber : Nat) (record : JsonlRecord) : Result JsonlOutcome :=
  match record with
  | .invalid => .ok (.unsupported ⟨d.name, d.kind, d.fileSize, some lineNumber, "invalid_jsonl"⟩)
  | .notObject =>
    .ok (.unsupported ⟨d.name, d.kind, d.fileSize, some lineNumber, "jsonl_row_not_object"⟩)
  | .object payload => (jsonlRow request modality sourceSystem lineNumber payload).map .row

/-- The loop over the lines of the text stream, in their order. -/
def buildJsonlRows (text : Text) : Result (List JsonlOutcome) :=
  (((streamLines text).zipIdx 1).filter fun numbered => decide (¬ Blank numbered.1)).mapM
    fun numbered => jsonlOutcome request modality sourceSystem d numbered.2
      (JsonlRecord.read loads numbered.1)

end Jsonl

section Manifest

variable (loads : Text → Option Value) (request : BuildManifestRequest) (payloads : ArchivePayloads)

def skeletonRow (sourceSystem : Text) (d : ArchiveFileDescriptor) : Result ManifestRow :=
  let hash := sha256Digest (payloads.bytes d)
  let objectId := deriveObjectId request.versionId.1 (sourceSystem ++ ':' :: basename d.name) hash
  manifestRow request .multimodal sourceSystem objectId hash
    [("source_artifact_name".toList, .str d.name), ("skeleton".toList, .bool true)]

def jsonlEntry (modality : DataModality) (sourceSystem : Text) (d : ArchiveFileDescriptor) :
    Result (List JsonlOutcome) :=
  match decodeUtf8 (payloads.bytes d) with
  | none => .error (.plain "UnicodeDecodeError" "invalid utf-8")
  | some text => buildJsonlRows loads request modality sourceSystem d text

/-- The branch of the builder's loop for one descriptor. -/
def entryOutcomes (d : ArchiveFileDescriptor) : Result (List JsonlOutcome) :=
  match d.kind with
  | .transactions => (payloads.tabularRows d).map fun rows => rows.map .row
  | .supportMessages => jsonlEntry loads request payloads .text "support_messages".toList d
  | .ocrRecords => jsonlEntry loads request payloads .documentOcr "ocr_records".toList d
  | .imageManifest => jsonlEntry loads request payloads .image "image_manifest".toList d
  | .annotations => (skeletonRow request payloads "annotations_sample".toList d).map fun row =>
    [.row row]
  | .predictions | .readme => .ok []
  | .other => .ok [.unsupported ⟨d.name, d.kind, d.fileSize, none, "unsupported_entry"⟩]

def JsonlOutcome.row? : JsonlOutcome → Option ManifestRow
  | .row built => some built
  | .unsupported _ => none

def JsonlOutcome.unsupported? : JsonlOutcome → Option UnsupportedEntry
  | .row _ => none
  | .unsupported entry => some entry

structure BuildManifestResult where
  rows : List ManifestRow
  unsupportedEntries : List UnsupportedEntry

def buildAssetManifest (contents : ArchiveContents) : Result BuildManifestResult := do
  let outcomes ← contents.descriptors.mapM (entryOutcomes loads request payloads)
  pure ⟨outcomes.flatten.filterMap JsonlOutcome.row?,
    outcomes.flatten.filterMap JsonlOutcome.unsupported?⟩

end Manifest

section Outcomes

variable {loads : Text → Option Value} {request : BuildManifestRequest} {modality : DataModality}
  {sourceSystem : Text} {d : ArchiveFileDescriptor}

/-- An outcome tells which record it comes from: the digest of an object, or why a line
is not one. -/
def JsonlOutcome.Of (outcome : JsonlOutcome) (record : JsonlRecord) : Prop :=
  match record, outcome with
  | .invalid, .unsupported entry => entry.reasonCode = "invalid_jsonl"
  | .notObject, .unsupported entry => entry.reasonCode = "jsonl_row_not_object"
  | .object payload, .row built => built.hash = computeRecordSha256 payload ∧
      get? sourceObjectIdKey built.metadata = (sourceObjectId payload).map Value.str
  | _, _ => False

theorem get?_jsonlMetadata (record : Dict Text Value) :
    get? sourceObjectIdKey (jsonlMetadata record) = (sourceObjectId record).map Value.str := by
  have hlinks : get? sourceObjectIdKey (knownLinkKeys.filterMap fun key =>
      ((get? key record).filter linked).map fun value => (key, value)) = none := by
    rw [get?_eq_none, List.map_filterMap]
    intro hmem
    obtain ⟨key, hkey, hvalue⟩ := List.mem_filterMap.mp hmem
    have hne : sourceObjectIdKey ∉ knownLinkKeys := by decide
    cases hfound : (get? key record).filter linked with
    | none => simp [hfound] at hvalue
    | some value =>
      rw [hfound] at hvalue
      obtain rfl := Option.some.inj hvalue
      exact hne hkey
  have hone : ∀ (key : Text) (value : Option Value), key ≠ sourceObjectIdKey →
      get? sourceObjectIdKey (value.map fun v => (key, v)).toList = none := by
    intro key value hne
    cases value with
    | none => rfl
    | some v => simp [get?, hne]
  rw [jsonlMetadata, get?_append, get?_append, get?_append, hlinks, hone _ _ (by decide),
    hone _ _ (by decide), Option.none_or, Option.none_or, Option.none_or]
  cases sourceObjectId record with
  | none => rfl
  | some id => simp [get?]

theorem jsonlOutcome_of {lineNumber : Nat} {record : JsonlRecord} {outcome : JsonlOutcome}
    (h : jsonlOutcome request modality sourceSystem d lineNumber record = .ok outcome) :
    outcome.Of record := by
  cases record with
  | invalid | notObject =>
    obtain rfl := Except.ok.inj h
    rfl
  | object payload =>
    rw [jsonlOutcome] at h
    cases hrow : jsonlRow request modality sourceSystem lineNumber payload with
    | error e => simp [hrow, Except.map] at h
    | ok built =>
      rw [hrow] at h
      obtain rfl := Except.ok.inj h
      obtain ⟨rowKey, -, hrow⟩ := bind_eq_ok.mp hrow
      obtain ⟨uri, -, hrow⟩ := bind_eq_ok.mp hrow
      obtain rfl := Except.ok.inj hrow
      exact ⟨rfl, get?_jsonlMetadata payload⟩

/-- The rows and the unsupported entries of a file stand for the lines of its stream,
one for each line that is not blank and in their order. -/
theorem buildJsonlRows_of {text : Text} {outcomes : List JsonlOutcome}
    (h : buildJsonlRows loads request modality sourceSystem d text = .ok outcomes) :
    List.Forall₂ JsonlOutcome.Of outcomes
      (readLines (JsonlRecord.read loads) (streamLines text)) := by
  have hlines : readLines (JsonlRecord.read loads) (streamLines text) =
      (((streamLines text).zipIdx 1).filter fun numbered => decide (¬ Blank numbered.1)).map
        fun numbered => JsonlRecord.read loads numbered.1 := by
    have hzip := List.zipIdx_map_fst 1 (streamLines text)
    conv => lhs; rw [readLines, ← hzip, List.filter_map, List.map_map]
    rfl
  rw [buildJsonlRows] at h
  rw [hlines]
  generalize ((streamLines text).zipIdx 1).filter (fun numbered => decide (¬ Blank numbered.1)) = xs
    at h ⊢
  induction xs generalizing outcomes with
  | nil =>
    obtain rfl : [] = outcomes := Except.ok.inj h
    exact List.Forall₂.nil
  | cons numbered xs ih =>
    rw [List.mapM_cons] at h
    obtain ⟨outcome, houtcome, h⟩ := bind_eq_ok.mp h
    obtain ⟨rest, hrest, h⟩ := bind_eq_ok.mp h
    obtain rfl : outcome :: rest = outcomes := Except.ok.inj h
    exact List.Forall₂.cons (jsonlOutcome_of houtcome) (ih hrest)

end Outcomes

end DataForge.Ingestion.ManifestBuilder
