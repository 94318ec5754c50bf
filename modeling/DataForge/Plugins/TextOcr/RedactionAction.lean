import DataForge.Domain.Decision
import DataForge.Domain.Evidence
import DataForge.Adapters.RegistryStep
import DataForge.Plugins.TextOcr.RedactedJsonl

namespace DataForge.Plugins.TextOcr.RedactionAction

open DataForge.Foundation.Strings
open DataForge.Foundation.Lines
open DataForge.Foundation.Dictionary
open DataForge.Foundation.Json
open DataForge.Foundation.JsonReader
open DataForge.Foundation.Scores
open DataForge.Foundation.Sha256
open DataForge.Foundation.Outcome
open DataForge.Domain.Common
open DataForge.Domain.Artifact
open DataForge.Domain.Decision
open DataForge.Domain.Evidence
open DataForge.Domain.TextOcr
open DataForge.Adapters.ObjectStorage
open DataForge.Adapters.ArtifactRegistry
open DataForge.Adapters.RegistryStep
open DataForge.Plugins.TextOcr.Pii
open DataForge.Plugins.TextOcr.Validator
open DataForge.Plugins.TextOcr.RedactedJsonl

def executionError (reasonCode message : String)
    (code : ErrorCode := .actionPlanPreconditionFailed) : Raised :=
  .reasoned "TextOcrRedactionExecutionError" reasonCode code none message

inductive TextOcrExportPolicyStatus where
  | ready
  | blocked
deriving DecidableEq

structure TextOcrExportPolicyDecision where
  status : TextOcrExportPolicyStatus
  rawArtifactAllowed : Bool
  redactedArtifactRequired : Bool
  exportArtifact : Option ArtifactRef
  reasonCodes : List NonEmptyStr

structure ExecuteTextOcrRedactionRequest where
  actionPlanId : NonEmptyStr
  step : ActionPlanStep
  sourceDatasetVersionId : NonEmptyStr
  candidateDatasetVersionId : NonEmptyStr
  sourceKind : TextOcrSourceKind
  sourceName : NonEmptyStr
  sourceArtifact : ArtifactRef
  createdByJobId : NonEmptyStr
  configHash : Sha256Digest
  evidenceRefs : List EvidenceRef

structure ExecuteTextOcrRedactionResult (F : Type) [ScoreLike F] where
  redactedArtifact : RegisteredArtifact
  redactedRecords : List (RedactedRecord F)
  piiFindings : List (TextPiiFindingsForRecord F)
  piiRecordCount : Nat
  piiTokenCount : Nat
  exportPolicy : TextOcrExportPolicyDecision

/-- A key of the step's configuration is absent, null or the expected text. -/
def configMatches (config : Dict Text Value) (key : String) (expected : Text) : Bool :=
  match get? key.toList config with
  | none | some .null => true
  | some (.str s) => s = expected
  | some _ => false

def includesCleanRecords (config : Dict Text Value) : Bool :=
  match get? "include_clean_records".toList config with
  | none | some (.bool true) => true
  | some _ => false

/-- Both source kinds are supported. -/
def validateStep (request : ExecuteTextOcrRedactionRequest) : Result Unit := do
  let step := request.step
  guardOk (step.type.1 = "REDACT_PII".toList) (executionError "unsupported_action_step_type"
    "Only REDACT_PII steps can be executed by the text/OCR redactor.")
  guardOk (configMatches step.config "source_kind" request.sourceKind.value = true)
    (executionError "source_kind_mismatch"
      "ActionPlan step source_kind does not match the execution request.")
  guardOk (configMatches step.config "source_name" request.sourceName.1 = true)
    (executionError "source_name_mismatch"
      "ActionPlan step source_name does not match the execution request.")
  guardOk (includesCleanRecords step.config = true)
    (executionError "redacted_export_requires_complete_records"
      "REDACT_PII export artifacts must include clean and redacted records." .policyBlocked)
  guardOk (request.sourceArtifact.mediaType.1 = "application/jsonl".toList)
    (executionError "unsupported_text_ocr_artifact_media_type"
      "REDACT_PII source artifact must be application/jsonl.")

def evaluateTextOcrExportPolicy {F : Type} [ScoreLike F] (sourceArtifact : ArtifactRef)
    (report : Option (TextOcrReport F)) (redactedArtifact : Option ArtifactRef)
    (piiRecordCount : Option Nat) : TextOcrExportPolicyDecision :=
  let detected := (report.map fun r => r.totalPiiRecordCount).getD (piiRecordCount.getD 0)
  if detected = 0 then ⟨.ready, true, false, some sourceArtifact, []⟩
  else
    match redactedArtifact with
    | none => ⟨.blocked, false, true, none,
        [literal "raw_restricted_text_ocr_requires_redaction", literal "PII_UNMASKED"]⟩
    | some redacted =>
      if redacted.kind.1 ≠ "text_ocr_redacted_jsonl".toList then
        ⟨.blocked, false, true, none, [literal "redacted_text_ocr_artifact_required"]⟩
      else ⟨.ready, false, true, some redacted,
        [literal "raw_text_ocr_export_replaced_by_redacted_artifact"]⟩

def evidenceRefsMetadata (refs : List EvidenceRef) : Text :=
  dumps (.arr (refs.map fun ref =>
    .obj [("kind".toList, .str ref.kind.1), ("uri".toList, .str ref.uri.1)]))

section Execution

variable (p : Platform) (loads : Text → Option Value) (engine : PatternEngine)
  {F : Type} [ScoreLike F]

def actionSave (request : ExecuteTextOcrRedactionRequest) (data : Bytes)
    (records : List (RedactedRecord F)) (recordCount tokens : Nat) : SaveRequest where
  artifactKind := "text_ocr_redacted_jsonl".toList
  data := data
  artifactFormat := "jsonl".toList
  mediaType := "application/jsonl".toList
  schemaVersion := "text_ocr_redacted_jsonl.v1".toList
  datasetVersionId := request.candidateDatasetVersionId.1
  createdByJobId := request.createdByJobId.1
  configHash := request.configHash.1
  metadata :=
    [("action-plan-id".toList, request.actionPlanId.1),
      ("step-id".toList, request.step.stepId.1),
      ("source-dataset-version-id".toList, request.sourceDatasetVersionId.1),
      ("source-artifact-hash".toList, request.sourceArtifact.hash.1),
      ("source-artifact-uri".toList, request.sourceArtifact.uri.1),
      ("source-kind".toList, request.sourceKind.value),
      ("source-name".toList, request.sourceName.1),
      ("privacy-policy".toList, "privacy_v0".toList),
      ("redaction-status".toList,
        (if recordCount = 0 then "not_needed" else "redacted").toList),
      ("pii-record-count".toList, Nat.toDigits 10 recordCount),
      ("pii-token-count".toList, Nat.toDigits 10 tokens),
      ("redacted-record-count".toList, Nat.toDigits 10 (risky records).length),
      ("output-record-count".toList, Nat.toDigits 10 records.length),
      ("raw-export-policy".toList,
        (if recordCount = 0 then "raw_allowed" else "redacted_only").toList),
      ("evidence-refs".toList, evidenceRefsMetadata request.evidenceRefs)]

def executeTextOcrRedactionAction (storage registry : MinioObjectStorageAdapter) (clock : Clock)
    (request : ExecuteTextOcrRedactionRequest) :
    Effect Raised S3Objects (ExecuteTextOcrRedactionResult F) := do
  Effect.lift (validateStep request)
  let source ← storage.get p clock request.sourceArtifact.uri.1
  let (bytes, records) ← Effect.lift (produceRedactedJsonl (F := F) loads engine false source.data)
  Effect.ensure (bytes.size ≠ 0 ∧ records ≠ []) (executionError "empty_redacted_text_ocr_output"
    "REDACT_PII produced no valid redacted JSONL records.")
  let (findings, recordCount, tokens) ← Effect.lift (aggregatePii records)
  let artifact ← saveArtifact p registry clock (actionSave request bytes records recordCount tokens)
  pure
    { redactedArtifact := artifact
      redactedRecords := records
      piiFindings := findings
      piiRecordCount := recordCount
      piiTokenCount := tokens
      exportPolicy := evaluateTextOcrExportPolicy (F := F) request.sourceArtifact none
        (some artifact.artifactRef) (some recordCount) }

end Execution

section RawExport

variable {p : Platform} {loads : Text → Option Value} {engine : PatternEngine}
  {F : Type} [ScoreLike F]

/-- Nothing is found in the text of any line that is an object. -/
def LinesClean (loads : Text → Option Value) (engine : PatternEngine) (source : Text) : Prop :=
  ∀ line ∈ splitLines source, ∀ text, lineString loads line "text" = some text →
    ¬ HasPii engine text

/-- The same of the lines whose object id is missing or not a string. -/
def SkippedClean (loads : Text → Option Value) (engine : PatternEngine) (source : Text) : Prop :=
  ∀ line ∈ splitLines source, lineString loads line "object_id" = none →
    ∀ text, lineString loads line "text" = some text → ¬ HasPii engine text

/-- Something is found in a line whose object id and text are strings. -/
def InspectedPii (loads : Text → Option Value) (engine : PatternEngine) (source : Text) : Prop :=
  ∃ line ∈ splitLines source, ∃ objectId text, lineString loads line "object_id" = some objectId ∧
    lineString loads line "text" = some text ∧ HasPii engine text

theorem risky_redactedRecords_ne_nil_iff {source : Text} :
    risky (redactedRecords loads engine F source) ≠ [] ↔ InspectedPii loads engine source := by
  constructor
  · intro h
    obtain ⟨record, hrecord⟩ := List.exists_mem_of_ne_nil _ h
    obtain ⟨hmem, hpos⟩ := List.mem_filter.mp hrecord
    obtain ⟨⟨objectId, text⟩, hline, rfl⟩ := List.mem_map.mp hmem
    obtain ⟨line, hline, htext⟩ := List.mem_filterMap.mp hline
    obtain ⟨hid, htext⟩ := textRecord_eq_some_iff.mp htext
    exact ⟨line, hline, objectId, text, hid, htext,
      (redactRecord_pos_iff engine objectId text).mp (of_decide_eq_true hpos)⟩
  · rintro ⟨line, hline, objectId, text, hid, htext, hpii⟩
    refine List.ne_nil_of_mem (a := redactRecord engine F objectId text) ?_
    refine List.mem_filter.mpr ⟨List.mem_map.mpr ⟨(objectId, text), ?_, rfl⟩, ?_⟩
    · exact List.mem_filterMap.mpr ⟨line, hline, textRecord_eq_some_iff.mpr ⟨hid, htext⟩⟩
    · exact decide_eq_true ((redactRecord_pos_iff engine objectId text).mpr hpii)

theorem linesClean_iff {source : Text} : LinesClean loads engine source ↔
    ¬ InspectedPii loads engine source ∧ SkippedClean loads engine source := by
  constructor
  · intro h
    refine ⟨?_, fun line hline _ => h line hline⟩
    rintro ⟨line, hline, objectId, text, -, htext, hpii⟩
    exact h line hline text htext hpii
  · rintro ⟨hinspected, hskipped⟩ line hline text htext hpii
    cases hid : lineString loads line "object_id" with
    | none => exact hskipped line hline hid text htext hpii
    | some objectId => exact hinspected ⟨line, hline, objectId, text, hid, htext, hpii⟩

theorem executeTextOcrRedactionAction_eq_ok {storage registry : MinioObjectStorageAdapter}
    {clock : Clock} {request : ExecuteTextOcrRedactionRequest} {s t : S3Objects}
    {result : ExecuteTextOcrRedactionResult F}
    (h : (executeTextOcrRedactionAction p loads engine storage registry clock request).run s =
      (.ok result, t)) :
    ∃ key source text, storage.keyForUri request.sourceArtifact.uri.1 = .ok key ∧
      get? (storage.bucketName, key) s = some source ∧ decodeUtf8 source.body = some text ∧
      result.redactedRecords = redactedRecords loads engine F text ∧
      result.piiRecordCount = (risky (redactedRecords loads engine F text)).length ∧
      ∃ redacted, result.exportPolicy = evaluateTextOcrExportPolicy (F := F) request.sourceArtifact
        none (some redacted) (some result.piiRecordCount) := by
  obtain ⟨_, -, h⟩ := Effect.run_lift_bind_eq_ok.mp h
  obtain ⟨stored, u, hget, h⟩ := Effect.run_bind_eq_ok.mp h
  obtain ⟨key, source, hkey, hsource, hbody⟩ := get_eq_ok hget
  obtain ⟨⟨bytes, records⟩, hproduce, h⟩ := Effect.run_lift_bind_eq_ok.mp h
  obtain ⟨text, hdecode, rfl, -⟩ := produceRedactedJsonl_eq_ok hproduce
  obtain ⟨_, -, h⟩ := Effect.run_lift_bind_eq_ok.mp h
  obtain ⟨⟨findings, recordCount, tokens⟩, haggregate, h⟩ := Effect.run_lift_bind_eq_ok.mp h
  obtain ⟨-, hcount, -⟩ := aggregatePii_eq_ok haggregate
  obtain ⟨artifact, u', -, h⟩ := Effect.run_bind_eq_ok.mp h
  obtain ⟨hresult, -⟩ := Prod.mk.inj h
  obtain rfl := Except.ok.inj hresult
  rw [hbody] at hdecode
  exact ⟨key, source, text, hkey, hsource, hdecode, rfl, hcount, artifact.artifactRef, rfl⟩

/-- The raw source is exportable exactly when no finding was counted, and it is then
the artifact to export. -/
theorem rawArtifactAllowed_iff (sourceArtifact redacted : ArtifactRef) (count : Nat) :
    (evaluateTextOcrExportPolicy (F := F) sourceArtifact none (some redacted)
      (some count)).rawArtifactAllowed = true ↔ count = 0 := by
  rw [evaluateTextOcrExportPolicy]
  dsimp only [Option.map_none, Option.getD_none, Option.getD_some]
  split
  · next hcount => exact iff_of_true rfl hcount
  · next hcount =>
    refine iff_of_false ?_ hcount
    split <;> exact Bool.false_ne_true

theorem exportArtifact_of_rawAllowed {sourceArtifact redacted : ArtifactRef} {count : Nat}
    (h : (evaluateTextOcrExportPolicy (F := F) sourceArtifact none (some redacted)
      (some count)).rawArtifactAllowed = true) :
    (evaluateTextOcrExportPolicy (F := F) sourceArtifact none (some redacted)
      (some count)).exportArtifact = some sourceArtifact := by
  obtain rfl := (rawArtifactAllowed_iff sourceArtifact redacted count).mp h
  rfl

/-- A step that is executed keeps the promise that raw text is exportable only when it
is clean exactly if a finding was counted or the lines it skips are clean. -/
theorem raw_export_clean_iff {storage registry : MinioObjectStorageAdapter} {clock : Clock}
    {request : ExecuteTextOcrRedactionRequest} {s t : S3Objects}
    {result : ExecuteTextOcrRedactionResult F}
    (h : (executeTextOcrRedactionAction p loads engine storage registry clock request).run s =
      (.ok result, t)) :
    ∃ key source text, storage.keyForUri request.sourceArtifact.uri.1 = .ok key ∧
      get? (storage.bucketName, key) s = some source ∧ decodeUtf8 source.body = some text ∧
      ((result.exportPolicy.rawArtifactAllowed = true →
          result.exportPolicy.exportArtifact = some request.sourceArtifact ∧
            LinesClean loads engine text) ↔
        InspectedPii loads engine text ∨ SkippedClean loads engine text) := by
  obtain ⟨key, source, text, hkey, hsource, hdecode, -, hcount, redacted, hpolicy⟩ :=
    executeTextOcrRedactionAction_eq_ok h
  refine ⟨key, source, text, hkey, hsource, hdecode, ?_⟩
  have hallowed : result.exportPolicy.rawArtifactAllowed = true ↔
      ¬ InspectedPii loads engine text := by
    rw [hpolicy, rawArtifactAllowed_iff, hcount, List.length_eq_zero_iff,
      ← risky_redactedRecords_ne_nil_iff (F := F), not_not]
  constructor
  · intro hclean
    by_cases hinspected : InspectedPii loads engine text
    · exact Or.inl hinspected
    · exact Or.inr (linesClean_iff.mp (hclean (hallowed.mpr hinspected)).2).2
  · rintro hcond hraw
    have hinspected := hallowed.mp hraw
    refine ⟨?_, linesClean_iff.mpr ⟨hinspected, hcond.resolve_left hinspected⟩⟩
    rw [hpolicy] at hraw ⊢
    exact exportArtifact_of_rawAllowed hraw

end RawExport

section Examples

def sourceStorage : MinioObjectStorageAdapter :=
  ⟨['b'], ['r'], ⟨literal "o", literal "p", literal "d"⟩, rooted_plain⟩

def redactStep : ActionPlanStep where
  stepId := literal "redact"
  type := literal "REDACT_PII"
  dependsOn := []
  idempotencyKey := zeroDigest
  methodId := literal "redact_pii"
  pluginId := literal "dataforge.text_ocr"
  pluginVersion := literal "0.1.0"
  configHash := zeroDigest
  policyVersion := literal "privacy_v0"
  validationGates := []
  preconditions := []
  inputArtifacts := []
  outputArtifactKind := literal "text_ocr_redacted_jsonl"
  config := []
  randomSeed := none
  retryPolicy := ⟨⟨1, one_attempt⟩, []⟩
  onFailure := literal "fail_plan_keep_artifacts_unpromoted"
  promotionScope := literal "candidate_only"

def redactRequest : ExecuteTextOcrRedactionRequest where
  actionPlanId := literal "plan"
  step := redactStep
  sourceDatasetVersionId := literal "v1"
  candidateDatasetVersionId := literal "v2"
  sourceKind := .supportMessages
  sourceName := literal "support_messages.jsonl"
  sourceArtifact :=
    { artifactId := literal "support"
      kind := literal "support_messages"
      uri := ⟨"s3://b/r/o/p/d/s".toList, by decide⟩
      hash := zeroDigest
      mediaType := literal "application/jsonl"
      sizeBytes := 0
      schemaVersion := literal "v1"
      lineage := ⟨literal "v0", literal "job", zeroDigest, ⟨0, none⟩⟩ }
  createdByJobId := literal "job"
  configHash := zeroDigest
  evidenceRefs := []

def storedSource (source : String) : S3Objects :=
  [((['b'], "r/o/p/d/s".toList), ⟨encodeUtf8 source.toList, "application/jsonl".toList, [], none⟩)]

def sampleRun (source : String) : Result (ExecuteTextOcrRedactionResult ℚ) × S3Objects :=
  (executeTextOcrRedactionAction asciiPlatform loads addressEngine sourceStorage sourceStorage
    ⟨⟨0, none⟩, none⟩ redactRequest).run (storedSource source)

def allowsRaw (result : Result (ExecuteTextOcrRedactionResult ℚ)) : Bool :=
  match result with
  | .ok r => r.exportPolicy.rawArtifactAllowed
  | .error _ => false

/-- The first line is inspected and clean, the second is skipped. -/
def skippingSource : String :=
  "\x7b\"object_id\":\"\",\"text\":\"\"\x7d\n\x7b\"text\":\"a@b.co\"\x7d"

theorem allowsRaw_skippingSource :
    allowsRaw (sampleRun skippingSource).1 = true := by decide +kernel

theorem sampleRun_skippingSource : ∃ result t, sampleRun skippingSource = (.ok result, t) ∧
    result.exportPolicy.rawArtifactAllowed = true := by
  have hraw := allowsRaw_skippingSource
  cases hrun : sampleRun skippingSource with
  | mk result t =>
    rw [hrun] at hraw
    cases result with
    | error e => exact absurd hraw Bool.false_ne_true
    | ok result => exact ⟨result, t, rfl, hraw⟩

theorem raw_export_clean_sample : ∃ result t, sampleRun skippingSource = (.ok result, t) ∧
    ∃ key source text, sourceStorage.keyForUri redactRequest.sourceArtifact.uri.1 = .ok key ∧
      get? (sourceStorage.bucketName, key) (storedSource skippingSource) = some source ∧
      decodeUtf8 source.body = some text ∧
      ((result.exportPolicy.rawArtifactAllowed = true →
          result.exportPolicy.exportArtifact = some redactRequest.sourceArtifact ∧
            LinesClean loads addressEngine text) ↔
        InspectedPii loads addressEngine text ∨ SkippedClean loads addressEngine text) := by
  obtain ⟨result, t, hrun, -⟩ := sampleRun_skippingSource
  exact ⟨result, t, hrun, raw_export_clean_iff hrun⟩

theorem not_linesClean_skippingSource : ¬ LinesClean loads addressEngine skippingSource.toList := by
  intro h
  have hline :
      "\x7b\"text\":\"a@b.co\"\x7d".toList ∈ splitLines skippingSource.toList := by decide +kernel
  refine h _ hline "a@b.co".toList ?_ ?_
  · decide +kernel
  · decide +kernel

/-- The address in the skipped line is exported raw. -/
theorem skipped_line_exported : ∃ result t, sampleRun skippingSource = (.ok result, t) ∧
    result.exportPolicy.rawArtifactAllowed = true ∧
    ¬ ∃ key source text, sourceStorage.keyForUri redactRequest.sourceArtifact.uri.1 = .ok key ∧
      get? (sourceStorage.bucketName, key) (storedSource skippingSource) = some source ∧
      decodeUtf8 source.body = some text ∧ LinesClean loads addressEngine text := by
  obtain ⟨result, t, hrun, hraw⟩ := sampleRun_skippingSource
  refine ⟨result, t, hrun, hraw, ?_⟩
  rintro ⟨key, source, text, hkey, hsource, hdecode, hclean⟩
  have hbody : source.body = encodeUtf8 skippingSource.toList := by
    rw [storedSource, get?] at hsource
    split at hsource
    · rw [← Option.some.inj hsource]
    · cases hsource
  rw [hbody, decodeUtf8_encodeUtf8] at hdecode
  obtain rfl := Option.some.inj hdecode
  exact not_linesClean_skippingSource hclean

end Examples

end DataForge.Plugins.TextOcr.RedactionAction
