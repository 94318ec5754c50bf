import DataForge.Plugins.TextOcr.Validator

namespace DataForge.Plugins.TextOcr.RedactedJsonl

open DataForge.Foundation.Strings
open DataForge.Foundation.Lines
open DataForge.Foundation.Dictionary
open DataForge.Foundation.Canonical
open DataForge.Foundation.Json
open DataForge.Foundation.JsonReader
open DataForge.Foundation.Numbers
open DataForge.Foundation.Scores
open DataForge.Foundation.Sha256
open DataForge.Foundation.Outcome
open DataForge.Domain.Common
open DataForge.Domain.Artifact
open DataForge.Domain.TextOcr
open DataForge.Adapters.ObjectStorage
open DataForge.Adapters.ArtifactRegistry
open DataForge.Plugins.TextOcr.Pii
open DataForge.Plugins.TextOcr.Validator
open FloatLike

section Redaction

variable (loads : Text → Option Value) (engine : PatternEngine) (F : Type) [ScoreLike F]

/-- The string under a key of a line that is an object; no blank text is JSON. -/
def lineString (line : Text) (key : String) : Option Text :=
  if Blank line then none
  else
    match JsonlRecord.read loads line with
    | .object payload =>
      match get? key.toList payload with
      | some (.str value) => some value
      | _ => none
    | _ => none

/-- The object id and the text of a line, where both are strings. -/
def textRecord (line : Text) : Option (Text × Text) :=
  if Blank line then none
  else
    match JsonlRecord.read loads line with
    | .object payload =>
      match get? "object_id".toList payload, get? "text".toList payload with
      | some (.str objectId), some (.str text) => some (objectId, text)
      | _, _ => none
    | _ => none

def redactedRecords (text : Text) : List (RedactedRecord F) :=
  ((splitLines text).filterMap (textRecord loads)).map fun record =>
    redactRecord engine F record.1 record.2

variable {F}

def redactedLine (record : RedactedRecord F) : Text :=
  dumps (.obj [("object_id".toList, .str record.objectId),
    ("redacted_text".toList, .str record.redactedText),
    ("pii_token_count".toList, .num ⟨_, isNumber_toDigits record.piiTokenCount⟩),
    ("redacted_text_sha256".toList, .str record.redactedTextSha256.1)])

/-- The lines of the output, the last one ended too. -/
def linesText (lines : List Text) : Text :=
  joinWith '\n' lines ++ if lines = [] then [] else ['\n']

def redactedText (onlyRisky : Bool) (records : List (RedactedRecord F)) : Text :=
  linesText (((if onlyRisky then risky records else records)).map redactedLine)

def produceRedactedJsonl (onlyRisky : Bool) (data : Bytes) :
    Result (Bytes × List (RedactedRecord F)) :=
  match decodeUtf8 data with
  | none => .error (.plain "UnicodeDecodeError" "invalid utf-8")
  | some text =>
    let records := redactedRecords loads engine F text
    .ok (encodeUtf8 (redactedText onlyRisky records), records)

theorem not_boundary_of_printable {line : Text} (h : Printable line) :
    ∀ c ∈ line, isLineBoundary c = false := by
  intro c hc
  obtain ⟨hlow, hhigh⟩ := h c hc
  simp only [isLineBoundary, Bool.or_eq_false_iff, Bool.and_eq_false_iff, decide_eq_false_iff_not]
  omega

theorem printable_redactedLine (record : RedactedRecord F) : Printable (redactedLine record) := by
  rw [redactedLine, dumps, sortKeys]
  refine printable_render_obj fun m hm => ?_
  have hmember := (sortedItems_perm _).mem_iff.mp hm
  simp only [sortKeysMembers, sortKeysMember, sortKeys, List.mem_cons, List.not_mem_nil,
    or_false] at hmember
  obtain rfl | rfl | rfl | rfl := hmember
  · exact printable_quote _
  · exact printable_quote _
  · exact printable_toDigits _
  · exact printable_quote _

theorem linesText_eq_flatMap (lines : List Text) :
    linesText lines = lines.flatMap fun line => line ++ ['\n'] := by
  induction lines with
  | nil => rfl
  | cons line lines ih =>
    rw [List.flatMap_cons, ← ih, linesText, linesText, if_neg (List.cons_ne_nil _ _)]
    by_cases hlines : lines = []
    · subst hlines
      simp [joinWith_singleton, joinWith_nil]
    · rw [joinWith_cons '\n' line hlines, if_neg hlines]
      simp

/-- The output holds one line for each record that is written. -/
theorem splitLines_redactedText (onlyRisky : Bool) (records : List (RedactedRecord F)) :
    splitLines (redactedText onlyRisky records) =
      (if onlyRisky then risky records else records).map redactedLine := by
  rw [redactedText, linesText_eq_flatMap]
  refine splitLines_flatMap fun line hline => ?_
  obtain ⟨record, -, rfl⟩ := List.mem_map.mp hline
  exact not_boundary_of_printable (printable_redactedLine record)

variable {loads engine}

theorem textRecord_eq_some_iff {line objectId text : Text} :
    textRecord loads line = some (objectId, text) ↔
      lineString loads line "object_id" = some objectId ∧ lineString loads line "text" =
        some text := by
  rw [textRecord, lineString, lineString]
  split
  · simp
  · split
    · next payload _ =>
      cases get? "object_id".toList payload with
      | none => simp
      | some objectIdValue =>
        cases get? "text".toList payload with
        | none => cases objectIdValue <;> simp
        | some textValue => cases objectIdValue <;> cases textValue <;> simp
    · simp

theorem produceRedactedJsonl_eq_ok {onlyRisky : Bool} {data bytes : Bytes}
    {records : List (RedactedRecord F)}
    (h : produceRedactedJsonl loads engine onlyRisky data = .ok (bytes, records)) :
    ∃ text, decodeUtf8 data = some text ∧ records = redactedRecords loads engine F text ∧
      bytes = encodeUtf8 (redactedText onlyRisky records) := by
  rw [produceRedactedJsonl] at h
  cases hdecode : decodeUtf8 data with
  | none => simp [hdecode] at h
  | some text =>
    rw [hdecode] at h
    obtain ⟨rfl, rfl⟩ := Prod.mk.inj (Except.ok.inj h)
    exact ⟨text, rfl, rfl, rfl⟩

end Redaction

section Persisting

variable (p : Platform) (loads : Text → Option Value) (engine : PatternEngine)
  {F : Type} [MetricLike F]

def redactedSave (request : TextOcrBuildRequest) (sourceKind : TextOcrSourceKind)
    (sourceName : Text) (data : Bytes) (riskyCount : Nat) : SaveRequest where
  artifactKind := "text_ocr_redacted_jsonl".toList
  data := data
  artifactFormat := "jsonl".toList
  mediaType := "application/jsonl".toList
  schemaVersion := "text_ocr_redacted_jsonl.v1".toList
  datasetVersionId := request.versionId.1
  createdByJobId := request.createdByJobId.1
  configHash := request.configHash.1
  metadata := [("source-kind".toList, sourceKind.value), ("source-name".toList, sourceName),
    ("redacted-record-count".toList, Nat.toDigits 10 riskyCount),
    ("parent-version-id".toList, request.parentVersionId.1)]

def persistRedactedJsonl (a : MinioObjectStorageAdapter) (clock : Clock)
    (request : TextOcrBuildRequest) (sourceKind : TextOcrSourceKind) (sourceName : Text)
    (data : Bytes) : Effect Raised S3Objects (Option RegisteredArtifact) := do
  let (bytes, records) ← Effect.lift (produceRedactedJsonl (F := F) loads engine true data)
  if risky records = [] ∨ bytes.size = 0 then pure none
  else do
    let artifact ← saveArtifact p a clock
      (redactedSave request sourceKind sourceName bytes (risky records).length)
    pure (some artifact)

/-- The switches of a validation and what its output is stored with. -/
structure ValidateOptions where
  detectPii : Bool
  registry : Option MinioObjectStorageAdapter
  buildRequest : Option TextOcrBuildRequest

/-- The report of a walk before the search for personal data. -/
def walkReport (parser : TextRecordParser) (sourceName : Text) (walk : Walk F) :
    TextOcrSourceReport F :=
  let groups := buildDuplicateGroups walk.records
  let lengths : List Nat := walk.records.map fun record => record.rawText.length
  let confidences := walk.records.filterMap ParsedRecord.ocrConfidence
  { sourceKind := parser.sourceKind
    sourceName := sourceName
    recordCount := walk.records.length + walk.issues.length
    validRecordCount := walk.records.length
    issueCount := walk.issues.length
    issues := walk.issues
    duplicateGroups := groups
    duplicateRecordCount := (groups.map TextDuplicateGroup.count).sum
    duplicateObjectIds := sortedSet (groups.flatMap TextDuplicateGroup.objectIds)
    averageTextLength := if lengths = [] then ofInt 0
      else div (ofInt lengths.sum) (ofInt lengths.length)
    minTextLength := lengths.min?.getD 0
    maxTextLength := lengths.max?.getD 0
    averageOcrConfidence := if confidences.isEmpty then none
      else some (div (sum confidences) (ofInt confidences.length))
    piiFindings := []
    piiTokenCount := 0
    piiRecordCount := 0
    redactedRecordCount := 0
    redactedArtifactUri := none
    redactedArtifactHash := none
    reviewQueueObjectIds := [] }

def validateJsonl (parser : TextRecordParser) (options : ValidateOptions) (clock : Clock)
    (sourceName : Text) (data : Bytes) : Effect Raised S3Objects (TextOcrSourceReport F) := do
  let walk := walkJsonl p loads parser data
  let report := walkReport parser sourceName walk
  if options.detectPii then do
    let redacted := fun record : ParsedRecord F =>
      redactRecord engine F record.objectId.1 record.rawText
    let (findings, recordCount, tokens) ← Effect.lift (aggregatePii (walk.records.map redacted))
    let persisted ← match options.registry, options.buildRequest with
      | some a, some request =>
        persistRedactedJsonl (F := F) p loads engine a clock request parser.sourceKind
          sourceName data
      | _, _ => pure none
    pure { report with
      piiFindings := findings
      piiTokenCount := tokens
      piiRecordCount := recordCount
      redactedRecordCount := recordCount
      redactedArtifactUri := persisted.map fun artifact => artifact.uri.1
      redactedArtifactHash := persisted.map fun artifact => artifact.hash.1
      reviewQueueObjectIds := sortedSet ((walk.records.filter fun record =>
        0 < (redacted record).piiTokenCount).map ParsedRecord.objectId) }
  else pure report

def buildTextOcrReport (sources : List (TextOcrSourceReport F)) : TextOcrReport F where
  totalRecordCount := (sources.map TextOcrSourceReport.recordCount).sum
  totalValidRecordCount := (sources.map TextOcrSourceReport.validRecordCount).sum
  totalDuplicateRecordCount := (sources.map TextOcrSourceReport.duplicateRecordCount).sum
  totalPiiRecordCount := (sources.map TextOcrSourceReport.piiRecordCount).sum
  totalRedactedRecordCount := (sources.map TextOcrSourceReport.redactedRecordCount).sum
  sources := sources
  totalIssueCount := (sources.map TextOcrSourceReport.issueCount).sum
  totalDuplicateGroupCount := (sources.map fun source => source.duplicateGroups.length).sum
  totalPiiTokenCount := (sources.map TextOcrSourceReport.piiTokenCount).sum
  reviewQueueObjectIds := sortedSet (sources.flatMap TextOcrSourceReport.reviewQueueObjectIds)

end Persisting

section Validation

variable {p : Platform} {loads : Text → Option Value} {engine : PatternEngine} {F : Type}
  [MetricLike F]

/-- Nothing is stored when no record is risky; otherwise the risky ones are. -/
theorem persistRedactedJsonl_eq_ok {a : MinioObjectStorageAdapter} {clock : Clock}
    {request : TextOcrBuildRequest} {sourceKind : TextOcrSourceKind} {sourceName : Text}
    {data : Bytes} {persisted : Option RegisteredArtifact} {s t : S3Objects}
    (h : (persistRedactedJsonl (F := F) p loads engine a clock request sourceKind sourceName
      data).run s = (.ok persisted, t)) :
    ∃ text, decodeUtf8 data = some text ∧
      (risky (redactedRecords loads engine F text) = [] ∧ persisted = none ∧ t = s ∨
        ∃ artifact, persisted = some artifact ∧ (saveArtifact p a clock
          (redactedSave request sourceKind sourceName
            (encodeUtf8 (redactedText true (redactedRecords loads engine F text)))
            (risky (redactedRecords loads engine F text)).length)).run s = (.ok artifact, t)) := by
  obtain ⟨⟨bytes, records⟩, hproduce, h⟩ := Effect.run_lift_bind_eq_ok.mp h
  obtain ⟨text, hdecode, rfl, rfl⟩ := produceRedactedJsonl_eq_ok hproduce
  refine ⟨text, hdecode, ?_⟩
  dsimp only at h
  split at h
  · next hempty =>
    obtain ⟨hpersisted, rfl⟩ := Prod.mk.inj h
    refine Or.inl ⟨hempty.elim id fun hsize => ?_, (Except.ok.inj hpersisted).symm, rfl⟩
    -- an output without bytes has no lines
    have hnil : redactedText true (redactedRecords loads engine F text) = [] := by
      apply encodeUtf8_injective
      rw [ByteArray.size_eq_zero_iff.mp hsize]
      rfl
    have hlines := splitLines_redactedText true (redactedRecords loads engine F text)
    rw [hnil] at hlines
    exact List.map_eq_nil_iff.mp hlines.symm
  · obtain ⟨artifact, u, hsave, h⟩ := Effect.run_bind_eq_ok.mp h
    obtain ⟨hpersisted, rfl⟩ := Prod.mk.inj h
    exact Or.inr ⟨artifact, (Except.ok.inj hpersisted).symm, hsave⟩

structure Persists (p : Platform) (loads : Text → Option Value) (engine : PatternEngine) (F : Type)
    [MetricLike F] (parser : TextRecordParser) (options : ValidateOptions) (clock : Clock)
    (sourceName : Text) (data : Bytes) (persisted : Option RegisteredArtifact) (s t : S3Objects) :
    Prop where
  supplied : ∀ a request, options.registry = some a → options.buildRequest = some request →
    (persistRedactedJsonl (F := F) p loads engine a clock request parser.sourceKind sourceName
      data).run s = (.ok persisted, t)
  missing : options.registry = none ∨ options.buildRequest = none → persisted = none ∧ t = s

/-- A validation that searches for personal data redacts what the walk kept, counts the
risky records and then, with a registry and a build request, stores its second pass. -/
theorem validateJsonl_eq_ok {parser : TextRecordParser} {options : ValidateOptions} {clock : Clock}
    {sourceName : Text} {data : Bytes} {report : TextOcrSourceReport F} {s t : S3Objects}
    (hpii : options.detectPii = true)
    (h : (validateJsonl p loads engine parser options clock sourceName data).run s =
      (.ok report, t)) :
    ∃ findings recordCount tokens persisted,
      aggregatePii ((walkJsonl p loads parser data).records.map fun record : ParsedRecord F =>
        redactRecord engine F record.objectId.1 record.rawText) =
          .ok (findings, recordCount, tokens) ∧
      Persists p loads engine F parser options clock sourceName data persisted s t ∧
      report = { walkReport (F := F) parser sourceName (walkJsonl p loads parser data) with
        piiFindings := findings
        piiTokenCount := tokens
        piiRecordCount := recordCount
        redactedRecordCount := recordCount
        redactedArtifactUri := persisted.map fun artifact => artifact.uri.1
        redactedArtifactHash := persisted.map fun artifact => artifact.hash.1
        reviewQueueObjectIds := sortedSet (((walkJsonl p loads parser data).records.filter
          fun record : ParsedRecord F =>
            0 < (redactRecord engine F record.objectId.1 record.rawText).piiTokenCount).map
              ParsedRecord.objectId) } := by
  rw [validateJsonl] at h
  dsimp only at h
  rw [if_pos hpii] at h
  obtain ⟨⟨findings, recordCount, tokens⟩, haggregate, h⟩ := Effect.run_lift_bind_eq_ok.mp h
  cases hregistry : options.registry with
  | none =>
    rw [hregistry] at h
    obtain ⟨hreport, rfl⟩ := Prod.mk.inj h
    exact ⟨findings, recordCount, tokens, none, haggregate, ⟨by simp [hregistry], by simp⟩,
      (Except.ok.inj hreport).symm⟩
  | some a =>
    cases hrequest : options.buildRequest with
    | none =>
      rw [hregistry, hrequest] at h
      obtain ⟨hreport, rfl⟩ := Prod.mk.inj h
      exact ⟨findings, recordCount, tokens, none, haggregate, ⟨by simp [hrequest], by simp⟩,
        (Except.ok.inj hreport).symm⟩
    | some request =>
      rw [hregistry, hrequest] at h
      obtain ⟨persisted, u, hpersist, h⟩ := Effect.run_bind_eq_ok.mp h
      obtain ⟨hreport, rfl⟩ := Prod.mk.inj h
      refine ⟨findings, recordCount, tokens, persisted, haggregate,
        ⟨?_, by simp [hregistry, hrequest]⟩, (Except.ok.inj hreport).symm⟩
      rintro a' request' ha hr
      obtain rfl := Option.some.inj (hregistry.symm.trans ha)
      obtain rfl := Option.some.inj (hrequest.symm.trans hr)
      exact hpersist

/-- The object ids of the findings are those of the kept records with personal data. -/
theorem validateJsonl_findings {parser : TextRecordParser} {options : ValidateOptions}
    {clock : Clock}
    {sourceName : Text} {data : Bytes} {report : TextOcrSourceReport F} {s t : S3Objects}
    (hpii : options.detectPii = true)
    (h : (validateJsonl p loads engine parser options clock sourceName data).run s =
      (.ok report, t)) (id : Text) :
    (∃ finding ∈ report.piiFindings, finding.objectId.1 = id) ↔
      ∃ record ∈ (walkJsonl (F := F) p loads parser data).records,
        record.objectId.1 = id ∧ HasPii engine record.rawText := by
  obtain ⟨findings, recordCount, tokens, persisted, haggregate, -, rfl⟩ :=
    validateJsonl_eq_ok hpii h
  obtain ⟨hfindings, -, -⟩ := aggregatePii_eq_ok haggregate
  have hids := map_of_mapM (p := fun finding => finding.objectId.1) (q := RedactedRecord.objectId)
    (fun record finding hok => (RedactedRecord.toRecordFindings_eq_ok hok).1) hfindings
  have hmem : (∃ finding ∈ findings, finding.objectId.1 = id) ↔
      id ∈ findings.map fun finding => finding.objectId.1 := List.mem_map.symm
  refine hmem.trans ?_
  rw [hids, List.mem_map]
  constructor
  · rintro ⟨redacted, hrisky, rfl⟩
    obtain ⟨hredacted, hpos⟩ := List.mem_filter.mp hrisky
    obtain ⟨record, hrecord, rfl⟩ := List.mem_map.mp hredacted
    exact ⟨record, hrecord, rfl, (redactRecord_pos_iff engine _ _).mp (of_decide_eq_true hpos)⟩
  · rintro ⟨record, hrecord, rfl, hfound⟩
    refine ⟨redactRecord engine F record.objectId.1 record.rawText, ?_, rfl⟩
    exact List.mem_filter.mpr ⟨List.mem_map.mpr ⟨record, hrecord, rfl⟩,
      decide_eq_true ((redactRecord_pos_iff engine _ _).mpr hfound)⟩

end Validation

end DataForge.Plugins.TextOcr.RedactedJsonl
