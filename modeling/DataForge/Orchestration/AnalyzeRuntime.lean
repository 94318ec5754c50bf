import DataForge.Plugins.ObjectAnalytics.Passports
import DataForge.Plugins.TextOcr.RedactedJsonl

namespace DataForge.Orchestration.AnalyzeRuntime

open DataForge.Foundation.Strings
open DataForge.Foundation.Lines
open DataForge.Foundation.Dictionary
open DataForge.Foundation.Json
open DataForge.Foundation.JsonReader
open DataForge.Foundation.Numbers
open DataForge.Foundation.Scores
open DataForge.Foundation.Sha256
open DataForge.Foundation.Outcome
open DataForge.Domain.Common
open DataForge.Domain.Artifact
open DataForge.Domain.Evidence
open DataForge.Domain.Passport
open DataForge.Domain.TextOcr
open DataForge.Adapters.ObjectStorage
open DataForge.Ingestion.ArchiveReader
open DataForge.Ingestion.ManifestBuilder
open DataForge.Plugins.TextOcr.Pii
open DataForge.Plugins.TextOcr.Validator
open DataForge.Plugins.TextOcr.RedactedJsonl
open DataForge.Plugins.ObjectAnalytics.Passports

/-- A later entry of the same kind replaces an earlier one. -/
def readTextPayloads (payloads : ArchivePayloads) (contents : ArchiveContents) :
    Result (Bytes × Bytes) :=
  match (contents.descriptorsByKind .supportMessages).getLast?,
    (contents.descriptorsByKind .ocrRecords).getLast? with
  | some support, some ocr => .ok (payloads.bytes support, payloads.bytes ocr)
  | _, _ => .error (.plain "ValueError"
      "demo archive must include support_messages and ocr_records")

/-- The two requests have the same fields. -/
def textRequest (request : BuildManifestRequest) : TextOcrBuildRequest :=
  ⟨request.datasetId, request.versionId, request.parentVersionId, request.createdByJobId,
    request.configHash⟩

/-- The archive and what the other stages of the run make of it. -/
structure AnalyzeInputs (F : Type) [ScoreLike F] where
  request : BuildManifestRequest
  payloads : ArchivePayloads
  contents : ArchiveContents
  evidenceRefs : List EvidenceRef
  tabular : TabularSignals F
  modelSignals : Dict Text (ObjectModelErrorSignals F)

def validateOptions (registry : MinioObjectStorageAdapter) (request : BuildManifestRequest) :
    ValidateOptions := ⟨true, some registry, some (textRequest request)⟩

section Runtime

variable (p : Platform) (loads : Text → Option Value) (engine : PatternEngine)
  {F : Type} [MetricLike F]

/-- The stages of the run that lead from the archive to the passports of its rows. -/
def buildRealOutputs (registry : MinioObjectStorageAdapter) (clock : Clock)
    (inputs : AnalyzeInputs F) :
    Effect Raised S3Objects (List ManifestRow × List (ObjectAnalyticalPassport F)) := do
  let manifest ← Effect.lift
    (buildAssetManifest loads inputs.request inputs.payloads inputs.contents)
  let (support, ocr) ← Effect.lift (readTextPayloads inputs.payloads inputs.contents)
  let options := validateOptions registry inputs.request
  let supportReport ← validateJsonl p loads engine (supportParser 1) options clock
    "support_messages.jsonl".toList support
  let ocrReport ← validateJsonl p loads engine (ocrParser 1) options clock
    "ocr_records.jsonl".toList ocr
  let passports ← Effect.lift (buildObjectAnalyticsPassports manifest.rows inputs.evidenceRefs
    inputs.tabular (some (buildTextOcrReport [supportReport, ocrReport])) inputs.modelSignals)
  pure (manifest.rows, passports)

end Runtime

section Evidence

variable (p : Platform) (loads : Text → Option Value) (engine : PatternEngine)
  {F : Type} [MetricLike F] (inputs : AnalyzeInputs F)

/-- The kinds of entries whose records are texts, with the modality of their rows. -/
def textEntries : List (ArchiveEntryKind × DataModality × Text) :=
  [(.supportMessages, .text, "support_messages".toList),
    (.ocrRecords, .documentOcr, "ocr_records".toList)]

/-- The row was built from a line of some entry with this text. -/
def RowText (row : ManifestRow) (text : Text) : Prop :=
  ∃ d ∈ inputs.contents.descriptors, ∃ entry ∈ textEntries, d.kind = entry.1 ∧
    ∃ source, decodeUtf8 (inputs.payloads.bytes d) = some source ∧
      ∃ numbered ∈ (streamLines source).zipIdx 1, ¬ Blank numbered.1 ∧
        ∃ record, JsonlRecord.read loads numbered.1 = .object record ∧
          get? "text".toList record = some (.str text) ∧
          jsonlRow inputs.request entry.2.1 entry.2.2 numbered.2 record = .ok row

def RedactedOnly (row : ManifestRow) (passport : ObjectAnalyticalPassport F) : Prop :=
  passport.objectId = row.objectId ∧ passport.privacy.piiDetected = true ∧
    passport.privacy.exportEligibility = literal "redacted_only"

/-- The entries that the run inspects, with the rules for their lines. -/
def inspectedEntries : List (ArchiveEntryKind × TextRecordParser) :=
  [(.supportMessages, supportParser 1), (.ocrRecords, ocrParser 1)]

/-- The last entry of a text kind keeps the record. -/
def Inspected (record : ParsedRecord F) : Prop :=
  ∃ entry ∈ inspectedEntries, ∃ d ∈ (inputs.contents.descriptorsByKind entry.1).getLast?,
    ∃ source, decodeUtf8 (inputs.payloads.bytes d) = some source ∧
      Keeps p loads entry.2 (splitLines source) record

/-- The last row of the manifest with a source object id has this row's id. -/
def StandsFor (rows : List ManifestRow) (id : Text) (row : ManifestRow) : Prop :=
  ∃ last ∈ (rows.filter fun r => rowSourceId r = some id).getLast?,
    last.objectId = row.objectId

/-- Some inspected record with personal data has an object id that leads to the row. -/
def Evidenced (rows : List ManifestRow) (row : ManifestRow) : Prop :=
  ∃ record : ParsedRecord F, Inspected p loads inputs record ∧ HasPii engine record.rawText ∧
    StandsFor rows record.objectId.1 row

variable {p loads engine inputs}

theorem get?_sourceObjectIdToManifestId {rows : List ManifestRow} {id : Text} {row : ManifestRow} :
    get? id (sourceObjectIdToManifestId rows) = some row.objectId.1 ↔ StandsFor rows id row := by
  have hfilter :
      (rows.filterMap fun row => (rowSourceId row).map fun id => (id, row.objectId.1)).filter
      (fun item => item.1 = id) =
        (rows.filter fun r => rowSourceId r = some id).map fun r => (id, r.objectId.1) := by
    induction rows with
    | nil => rfl
    | cons r rows ih =>
      cases hid : rowSourceId r with
      | none => simpa [hid] using ih
      | some found =>
        by_cases heq : found = id
        · subst heq
          simpa [hid] using ih
        · simpa [hid, heq] using ih
  rw [sourceObjectIdToManifestId, get?_update_eq_getLast?, hfilter, List.getLast?_map, StandsFor]
  cases (rows.filter fun r => rowSourceId r = some id).getLast? with
  | none => simp
  | some last => simp [Subtype.ext_iff]

/-- What a run that returns has read, and the passport of each row. -/
theorem buildRealOutputs_eq_ok {registry : MinioObjectStorageAdapter} {clock : Clock}
    {rows : List ManifestRow} {passports : List (ObjectAnalyticalPassport F)} {s t : S3Objects}
    (h : (buildRealOutputs p loads engine registry clock inputs).run s =
      (.ok (rows, passports), t)) :
    (∃ entries, buildAssetManifest loads inputs.request inputs.payloads inputs.contents =
      .ok ⟨rows, entries⟩) ∧ ∃ supportEntry ocrEntry supportReport ocrReport,
      (inputs.contents.descriptorsByKind .supportMessages).getLast? = some supportEntry ∧
      (inputs.contents.descriptorsByKind .ocrRecords).getLast? = some ocrEntry ∧
      (∃ u v, (validateJsonl (F := F) p loads engine (supportParser 1)
        (validateOptions registry inputs.request) clock "support_messages.jsonl".toList
        (inputs.payloads.bytes supportEntry)).run u = (.ok supportReport, v)) ∧
      (∃ u v, (validateJsonl (F := F) p loads engine (ocrParser 1)
        (validateOptions registry inputs.request) clock "ocr_records.jsonl".toList
        (inputs.payloads.bytes ocrEntry)).run u = (.ok ocrReport, v)) ∧
      buildObjectAnalyticsPassports rows inputs.evidenceRefs inputs.tabular
        (some (buildTextOcrReport [supportReport, ocrReport])) inputs.modelSignals =
          .ok passports := by
  obtain ⟨⟨rows', entries⟩, hmanifest, h⟩ := Effect.run_lift_bind_eq_ok.mp h
  obtain ⟨⟨support, ocr⟩, hread, h⟩ := Effect.run_lift_bind_eq_ok.mp h
  obtain ⟨supportReport, u, hsupport, h⟩ := Effect.run_bind_eq_ok.mp h
  obtain ⟨ocrReport, v, hocr, h⟩ := Effect.run_bind_eq_ok.mp h
  obtain ⟨built, hbuilt, h⟩ := Effect.run_lift_bind_eq_ok.mp h
  obtain ⟨rfl, rfl⟩ := Prod.mk.inj (Except.ok.inj (Prod.mk.inj h).1)
  rw [readTextPayloads] at hread
  split at hread
  · next supportEntry ocrEntry hsupportEntry hocrEntry =>
    obtain ⟨rfl, rfl⟩ := Prod.mk.inj (Except.ok.inj hread)
    exact ⟨⟨entries, hmanifest⟩, supportEntry, ocrEntry, supportReport, ocrReport, hsupportEntry,
      hocrEntry, ⟨_, _, hsupport⟩, ⟨_, _, hocr⟩, hbuilt⟩
  · cases hread

/-- The run stores what it redacts, so the bytes that it validates are text. -/
theorem decoded_of_validateJsonl {registry : MinioObjectStorageAdapter} {clock : Clock}
    {request : BuildManifestRequest} {parser : TextRecordParser} {sourceName : Text} {data : Bytes}
    {report : TextOcrSourceReport F} {s t : S3Objects}
    (h : (validateJsonl p loads engine parser (validateOptions registry request) clock sourceName
      data).run s = (.ok report, t)) : ∃ source, decodeUtf8 data = some source := by
  obtain ⟨_, _, _, persisted, -, hpersists, -⟩ := validateJsonl_eq_ok rfl h
  obtain ⟨source, hdecode, -⟩ := persistRedactedJsonl_eq_ok (hpersists.supplied _ _ rfl rfl)
  exact ⟨source, hdecode⟩

/-- The findings of one entry lead to the row exactly if a record that it keeps does. -/
theorem finding_iff_kept {registry : MinioObjectStorageAdapter} {clock : Clock}
    {request : BuildManifestRequest} {parser : TextRecordParser} {sourceName : Text} {data : Bytes}
    {report : TextOcrSourceReport F} {s t : S3Objects} {rows : List ManifestRow} {row : ManifestRow}
    (h : (validateJsonl p loads engine parser (validateOptions registry request) clock sourceName
      data).run s = (.ok report, t)) :
    (∃ finding ∈ report.piiFindings,
        get? finding.objectId.1 (sourceObjectIdToManifestId rows) = some row.objectId.1) ↔
      ∃ record : ParsedRecord F, (∃ source, decodeUtf8 data = some source ∧
        Keeps p loads parser (splitLines source) record) ∧ HasPii engine record.rawText ∧
          StandsFor rows record.objectId.1 row := by
  have hids := validateJsonl_findings rfl h
  obtain ⟨source, hdecode⟩ := decoded_of_validateJsonl h
  simp only [mem_walkJsonl_iff hdecode] at hids
  constructor
  · rintro ⟨finding, hfinding, hget⟩
    obtain ⟨record, hkeeps, hid, hpii⟩ := (hids finding.objectId.1).mp ⟨finding, hfinding, rfl⟩
    rw [← hid] at hget
    exact ⟨record, ⟨source, hdecode, hkeeps⟩, hpii, get?_sourceObjectIdToManifestId.mp hget⟩
  · rintro ⟨record, ⟨found, hfound, hkeeps⟩, hpii, hstands⟩
    obtain rfl := Option.some.inj (hdecode.symm.trans hfound)
    obtain ⟨finding, hfinding, hid⟩ := (hids record.objectId.1).mpr ⟨record, hkeeps, rfl, hpii⟩
    refine ⟨finding, hfinding, ?_⟩
    rw [hid]
    exact get?_sourceObjectIdToManifestId.mpr hstands

theorem isText_of_rowText {row : ManifestRow} {text : Text} (h : RowText loads inputs row text) :
    isText row.modality = true := by
  obtain ⟨d, -, entry, hentry, -, source, -, numbered, -, -, record, -, -, hrow⟩ := h
  obtain ⟨rowKey, -, hrow⟩ := bind_eq_ok.mp hrow
  obtain ⟨uri, -, hrow⟩ := bind_eq_ok.mp hrow
  obtain rfl := Except.ok.inj hrow
  obtain rfl | rfl : entry = _ ∨ entry = _ := by simpa [textEntries] using hentry
  · rfl
  · rfl

/-- The rows with personal data in their texts all get passports that say so exactly if
each of them is the one to which some inspected record with personal data leads. -/
theorem redactedOnly_iff_evidenced {registry : MinioObjectStorageAdapter} {clock : Clock}
    {rows : List ManifestRow} {passports : List (ObjectAnalyticalPassport F)} {s t : S3Objects}
    (h : (buildRealOutputs p loads engine registry clock inputs).run s =
      (.ok (rows, passports), t)) :
    List.Forall₂ (fun row passport => ∀ text, RowText loads inputs row text →
        HasPii engine text → RedactedOnly row passport) rows passports ↔
      ∀ row ∈ rows, ∀ text, RowText loads inputs row text → HasPii engine text →
        Evidenced p loads engine inputs rows row := by
  obtain ⟨-, supportEntry, ocrEntry, supportReport, ocrReport, hsupportEntry, hocrEntry,
    ⟨_, _, hsupport⟩, ⟨_, _, hocr⟩, hbuilt⟩ := buildRealOutputs_eq_ok h
  refine forall₂_of_mapM (fun row passport hpassport => ?_) hbuilt
  refine forall_congr' fun text => forall_congr' fun htext => forall_congr' fun _ => ?_
  obtain ⟨hid, -, -, hprivacy, -⟩ := buildPassport_eq_ok hpassport
  rw [RedactedOnly, hid, hprivacy, and_iff_right rfl,
    privacyBlock_flagged (isText_of_rowText htext), flagged_textSignals]
  have hsources : (buildTextOcrReport [supportReport, ocrReport]).sources =
      [supportReport, ocrReport] := rfl
  have hinspected : ∀ record : ParsedRecord F, Inspected p loads inputs record ↔
      (∃ source, decodeUtf8 (inputs.payloads.bytes supportEntry) = some source ∧
        Keeps p loads (supportParser 1) (splitLines source) record) ∨
      (∃ source, decodeUtf8 (inputs.payloads.bytes ocrEntry) = some source ∧
        Keeps p loads (ocrParser 1) (splitLines source) record) := by
    intro record
    simp [Inspected, inspectedEntries, hsupportEntry, hocrEntry]
  rw [hsources, List.exists_mem_cons_iff, List.exists_mem_cons_iff, finding_iff_kept hsupport,
    finding_iff_kept hocr, Evidenced]
  simp only [hinspected, or_and_right, exists_or, List.not_mem_nil, false_and,
    exists_false, or_false]

end Evidence

section Examples

def analyzeRegistry : MinioObjectStorageAdapter :=
  ⟨['b'], ['r'], ⟨literal "o", literal "p", literal "d"⟩, rooted_plain⟩

def manifestRequest : BuildManifestRequest :=
  ⟨literal "d", literal "v", literal "p", literal "j", zeroDigest⟩

def entryNamed (name : String) (kind : ArchiveEntryKind) : ArchiveFileDescriptor :=
  ⟨name.toList, kind, "application/jsonl", 1, 1, ⟨name.toList, 0, 1, 1⟩⟩

/-- A row of the table of transactions. -/
def transactionRow : ManifestRow :=
  ⟨literal "obj", literal "d", literal "v", .tabular, ⟨"s3://b/k".toList, uriPattern_key⟩,
    zeroDigest, [], none, "transactions".toList⟩

def messageWithoutId : Text := "\x7b\"text\":\"a@b.co\"\x7d".toList

/-- One message, without an object id, and no OCR records. -/
def analyzeSample : AnalyzeInputs ℚ where
  request := manifestRequest
  payloads :=
    ⟨fun d => if d.kind = .supportMessages then encodeUtf8 messageWithoutId else encodeUtf8 [],
    fun _ => .ok [transactionRow]⟩
  contents := ⟨[entryNamed "transactions.csv" .transactions,
    entryNamed "support_messages.jsonl" .supportMessages,
    entryNamed "ocr_records.jsonl" .ocrRecords],
    ⟨3, 3, 3, []⟩⟩
  evidenceRefs := []
  tabular := ⟨[], [], [], none, none⟩
  modelSignals := []

def analyzeRun : Result (List ManifestRow × List (ObjectAnalyticalPassport ℚ)) × S3Objects :=
  (buildRealOutputs asciiPlatform loads addressEngine analyzeRegistry ⟨⟨0, none⟩, none⟩
    analyzeSample).run []

def allowsSecond (result : Result (List ManifestRow × List (ObjectAnalyticalPassport ℚ))) : Bool :=
  match result with
  | .ok (_, [_, passport]) => passport.privacy.exportEligibility = literal "allowed"
  | _ => false

theorem allowsSecond_analyzeRun : allowsSecond analyzeRun.1 = true := by decide +kernel

/-- The one line of the messages is an object with a text. -/
theorem read_messageWithoutId : ∃ payload,
    JsonlRecord.read loads messageWithoutId = .object payload ∧
      get? "text".toList payload = some (.str "a@b.co".toList) := by
  have htext : lineString loads messageWithoutId "text" = some "a@b.co".toList := by decide +kernel
  rw [lineString] at htext
  split at htext
  · cases htext
  · split at htext
    · next payload hread =>
      split at htext
      · next value hvalue =>
        obtain rfl := Option.some.inj htext
        exact ⟨payload, hread, hvalue⟩
      · cases htext
    · cases htext

theorem rowText_of_manifest {rows : List ManifestRow} {entries : List UnsupportedEntry}
    (h : buildAssetManifest loads manifestRequest analyzeSample.payloads analyzeSample.contents =
      .ok ⟨rows, entries⟩) :
    ∃ row, rows = [transactionRow, row] ∧ RowText loads analyzeSample row "a@b.co".toList := by
  have hlines : streamLines messageWithoutId = [messageWithoutId] := by decide +kernel
  have hblank : ¬ Blank messageWithoutId := by decide +kernel
  obtain ⟨payload, hread, htext⟩ := read_messageWithoutId
  have htable : entryOutcomes loads manifestRequest analyzeSample.payloads
      (entryNamed "transactions.csv" .transactions) = .ok [.row transactionRow] := rfl
  have hempty : entryOutcomes loads manifestRequest analyzeSample.payloads
      (entryNamed "ocr_records.jsonl" .ocrRecords) = .ok [] := rfl
  have hbytes :
      analyzeSample.payloads.bytes (entryNamed "support_messages.jsonl" .supportMessages) =
      encodeUtf8 messageWithoutId := by
    simp [analyzeSample, entryNamed]
  have hmessages : entryOutcomes loads manifestRequest analyzeSample.payloads
      (entryNamed "support_messages.jsonl" .supportMessages) =
        (jsonlRow manifestRequest .text "support_messages".toList 1 payload).map fun row =>
          [.row row] := by
    have hentry : entryOutcomes loads manifestRequest analyzeSample.payloads
        (entryNamed "support_messages.jsonl" .supportMessages) =
          jsonlEntry loads manifestRequest analyzeSample.payloads .text "support_messages".toList
            (entryNamed "support_messages.jsonl" .supportMessages) := by
      rw [entryOutcomes, entryNamed]
    have hnumbered : ((streamLines messageWithoutId).zipIdx 1).filter
        (fun numbered => decide (¬ Blank numbered.1)) = [(messageWithoutId, 1)] := by
      simp [hlines, hblank]
    rw [hentry, jsonlEntry, hbytes, decodeUtf8_encodeUtf8]
    dsimp only
    rw [buildJsonlRows, hnumbered, List.mapM_cons, List.mapM_nil, hread, jsonlOutcome]
    cases jsonlRow manifestRequest .text "support_messages".toList 1 payload <;> rfl
  have hdescriptors : analyzeSample.contents.descriptors =
      [entryNamed "transactions.csv" .transactions,
        entryNamed "support_messages.jsonl" .supportMessages,
        entryNamed "ocr_records.jsonl" .ocrRecords] := rfl
  rw [buildAssetManifest, hdescriptors, List.mapM_cons, List.mapM_cons, List.mapM_cons,
    List.mapM_nil, htable, hmessages, hempty] at h
  cases hrow : jsonlRow manifestRequest .text "support_messages".toList 1 payload with
  | error e =>
    rw [hrow] at h
    cases h
  | ok row =>
    rw [hrow] at h
    obtain ⟨rfl, -⟩ := BuildManifestResult.mk.inj (Except.ok.inj h)
    refine ⟨row, rfl, entryNamed "support_messages.jsonl" .supportMessages, ?_,
      (.supportMessages, .text, "support_messages".toList), by simp [textEntries], rfl,
      messageWithoutId, ?_, (messageWithoutId, 1), ?_, hblank, payload, hread, htext, hrow⟩
    · simp [hdescriptors]
    · rw [hbytes, decodeUtf8_encodeUtf8]
    · simp [hlines]

theorem allowsSecond_eq_true
    {run : Result (List ManifestRow × List (ObjectAnalyticalPassport ℚ)) × S3Objects}
    (h : allowsSecond run.1 = true) :
    ∃ rows first second t, run = (.ok (rows, [first, second]), t) ∧
      second.privacy.exportEligibility = literal "allowed" := by
  obtain ⟨result, t⟩ := run
  unfold allowsSecond at h
  split at h
  · next rows first second hresult =>
    exact ⟨rows, first, second, t, Prod.ext hresult rfl, of_decide_eq_true h⟩
  · cases h

theorem redactedOnly_iff_evidenced_analyzeRun : ∃ rows passports t,
    analyzeRun = (.ok (rows, passports), t) ∧
      (List.Forall₂ (fun row passport => ∀ text, RowText loads analyzeSample row text →
          HasPii addressEngine text → RedactedOnly row passport) rows passports ↔
        ∀ row ∈ rows, ∀ text, RowText loads analyzeSample row text → HasPii addressEngine text →
          Evidenced asciiPlatform loads addressEngine analyzeSample rows row) := by
  obtain ⟨rows, first, second, t, hrun, -⟩ := allowsSecond_eq_true allowsSecond_analyzeRun
  exact ⟨rows, [first, second], t, hrun, redactedOnly_iff_evidenced hrun⟩

/-- The message's row is exported as it is, with the address in its text. -/
theorem message_without_id_allowed : ∃ rows passports t, analyzeRun = (.ok (rows, passports), t) ∧
    ¬ List.Forall₂ (fun row passport => ∀ text, RowText loads analyzeSample row text →
      HasPii addressEngine text → RedactedOnly row passport) rows passports := by
  obtain ⟨rows, first, second, t, hrun, hallowed⟩ := allowsSecond_eq_true allowsSecond_analyzeRun
  refine ⟨rows, [first, second], t, hrun, fun hall => ?_⟩
  obtain ⟨⟨entries, hmanifest⟩, -⟩ := buildRealOutputs_eq_ok hrun
  obtain ⟨row, rfl, htext⟩ := rowText_of_manifest hmanifest
  rw [List.forall₂_cons, List.forall₂_cons] at hall
  obtain ⟨-, -, heligible⟩ := hall.2.1 _ htext (by decide)
  rw [hallowed] at heligible
  exact absurd heligible (by decide)

end Examples

end DataForge.Orchestration.AnalyzeRuntime
