import DataForge.Foundation.Failures
import DataForge.Plugins.TextOcr.RedactionAction

namespace DataForge.Plugins.Export.TextOcrWriter

open DataForge.Foundation.Strings
open DataForge.Foundation.Lines
open DataForge.Foundation.Dictionary
open DataForge.Foundation.Json
open DataForge.Foundation.JsonReader
open DataForge.Foundation.Scores
open DataForge.Foundation.Sha256
open DataForge.Foundation.Outcome
open DataForge.Foundation.Failures
open DataForge.Domain.Common
open DataForge.Domain.Artifact
open DataForge.Domain.TextOcr
open DataForge.Adapters.ObjectStorage
open DataForge.Adapters.ArtifactRegistry
open DataForge.Adapters.RegistryStep
open DataForge.Plugins.TextOcr.Pii
open DataForge.Plugins.TextOcr.Validator
open DataForge.Plugins.TextOcr.RedactedJsonl
open DataForge.Plugins.TextOcr.RedactionAction

def writerError (reasonCode message : String) : Raised :=
  .reasoned "TextOcrExportWriterError" reasonCode .invalidJobPayload none message

structure TextOcrExportRequest where
  candidateDatasetVersionId : NonEmptyStr
  sourceArtifact : ArtifactRef
  sourceKind : TextOcrSourceKind
  sourceName : NonEmptyStr
  blockedObjectIds : List NonEmptyStr := []
  detectPiiOnlyRecords : Bool := false
  createdByJobId : NonEmptyStr
  configHash : Sha256Digest
  exportNamePrefix : NonEmptyStr := literal "text_ocr_export"

structure TextOcrExportArtifacts where
  redactedArtifact : RegisteredArtifact
  recordCount : Nat
  piiRecordCount : Nat
  excludedBlockedCount : Nat

section Writing

variable (p : Platform) (loads : Text → Option Value) (engine : PatternEngine)
  {F : Type} [ScoreLike F]

/-- A line is kept unless it is empty, no JSON or has a blocked id. -/
def keepsLine (blockedIds : List Text) (line : Text) : Result Bool :=
  if line = [] then .ok false
  else
    match loads line with
    | none => .ok false
    | some (.obj payload) =>
      match get? "object_id".toList payload with
      | some (.str objectId) => .ok (objectId ∉ blockedIds)
      | some (.arr _) | some (.obj _) => .error (.plain "TypeError" "unhashable type")
      | _ => .ok true
    | some _ => .error (.plain "AttributeError" "object has no attribute 'get'")

def filteredLines (blockedIds : List Text) : List Text → Result (List Text)
  | [] => .ok []
  | line :: lines => do
    let keeps ← keepsLine loads blockedIds line
    let rest ← filteredLines blockedIds lines
    pure (if keeps then line :: rest else rest)

/-- `splitlines()` of bytes: the ends of lines are ASCII, and so the lines of the bytes
are those of the text. -/
def byteLines (text : Text) : List Text := (streamLines text).map (rstripBy isNewline)

/-- The bytes to persist and the number of excluded records. -/
def exportedBytes (blockedIds : List Text) (redacted : Bytes) (recordCount : Nat) :
    Result (Bytes × Nat) :=
  if blockedIds = [] then .ok (redacted, 0)
  else
    match decodeUtf8 redacted with
    | none => .error (.plain "UnicodeDecodeError" "invalid utf-8")
    | some text => do
      let lines ← filteredLines loads blockedIds (byteLines text)
      pure (encodeUtf8 (linesText lines), recordCount - lines.length)

def exportSave (request : TextOcrExportRequest) (data : Bytes) (recordCount piiRecordCount : Nat) :
    SaveRequest where
  artifactKind := "text_ocr_export_redacted_jsonl".toList
  data := data
  artifactFormat := "jsonl".toList
  mediaType := "application/jsonl".toList
  schemaVersion := "text_ocr_export.v1".toList
  datasetVersionId := request.candidateDatasetVersionId.1
  createdByJobId := request.createdByJobId.1
  configHash := request.configHash.1
  metadata :=
    [("export-name".toList, request.exportNamePrefix.1),
      ("source-kind".toList, request.sourceKind.value),
      ("source-name".toList, request.sourceName.1),
      ("source-artifact-hash".toList, request.sourceArtifact.hash.1),
      ("candidate-version-id".toList, request.candidateDatasetVersionId.1),
      ("record-count".toList, Nat.toDigits 10 recordCount),
      ("pii-record-count".toList, Nat.toDigits 10 piiRecordCount)]

def writeTextOcrExport (F : Type) [ScoreLike F] (storage registry : MinioObjectStorageAdapter)
    (clock : Clock) (request : TextOcrExportRequest) :
    Effect Raised S3Objects TextOcrExportArtifacts := do
  let source ← storage.get p clock request.sourceArtifact.uri.1
  let (redacted, records) ← Effect.lift
    (produceRedactedJsonl (F := F) loads engine request.detectPiiOnlyRecords source.data)
  Effect.ensure (records ≠ []) (writerError "empty_text_ocr_source"
    "Text/OCR source did not produce any redacted records.")
  let (data, excluded) ← Effect.lift
    (exportedBytes loads (request.blockedObjectIds.map Subtype.val) redacted records.length)
  let artifact ← saveArtifact p registry clock
    (exportSave request data (records.length - excluded) (risky records).length)
  pure ⟨artifact, records.length - excluded, (risky records).length, excluded⟩

end Writing

section Lines

variable {loads : Text → Option Value} {F : Type} [ScoreLike F]

theorem streamLinesFrom_line {line : Text} (h : ∀ c ∈ line, isNewline c = false) (done s : Text) :
    streamLinesFrom done (line ++ '\n' :: s) =
      (done ++ line ++ ['\n']) :: streamLinesFrom [] s := by
  induction line generalizing done with
  | nil =>
    rw [List.nil_append, streamLinesFrom, if_pos (by decide), List.append_nil]
    rintro s' h -
    exact absurd h (by decide)
  | cons c line ih =>
    obtain ⟨hc, hline⟩ := List.forall_mem_cons.mp h
    rw [List.cons_append, streamLinesFrom, hc, if_neg Bool.false_ne_true, ih hline,
      List.append_assoc done, List.singleton_append]
    rintro s' rfl -
    exact absurd hc (by decide)

theorem byteLines_linesText {lines : List Text}
    (h : ∀ line ∈ lines, ∀ c ∈ line, isNewline c = false) :
    byteLines (linesText lines) = lines := by
  rw [linesText_eq_flatMap, byteLines, streamLines]
  induction lines with
  | nil => rfl
  | cons line lines ih =>
    obtain ⟨hline, hlines⟩ := List.forall_mem_cons.mp h
    rw [List.flatMap_cons, List.append_assoc, List.singleton_append, streamLinesFrom_line hline,
      List.map_cons, ih hlines, List.nil_append]
    have hstrip : rstripBy isNewline (line ++ ['\n']) = line := by
      rw [rstripBy, List.reverse_append, List.reverse_singleton, List.singleton_append,
        List.dropWhile_cons_of_pos (by decide)]
      have hkeep : line.reverse.dropWhile isNewline = line.reverse := by
        rw [List.dropWhile_eq_self_iff]
        intro hne
        rw [hline _ (List.mem_reverse.mp (List.getElem_mem hne))]
        exact Bool.false_ne_true
      rw [hkeep, List.reverse_reverse]
    rw [hstrip]

theorem isNewline_redactedLine (record : RedactedRecord F) :
    ∀ c ∈ redactedLine record, isNewline c = false := by
  intro c hc
  have hboundary := not_boundary_of_printable (printable_redactedLine record) c hc
  rw [Bool.eq_false_iff] at hboundary ⊢
  exact fun hnewline => hboundary (isLineBoundary_of_isNewline hnewline)

theorem keepsLine_of_lineString {blockedIds : List Text} {line objectId : Text}
    (h : lineString loads line "object_id" = some objectId) :
    keepsLine loads blockedIds line = .ok (objectId ∉ blockedIds) := by
  rw [lineString] at h
  split at h
  · cases h
  · next hblank =>
    have hne : line ≠ [] := by
      rintro rfl
      exact hblank rfl
    rw [keepsLine, if_neg hne]
    rw [JsonlRecord.read] at h
    generalize "object_id".toList = key at h ⊢
    cases hloads : loads line with
    | none => simp [hloads] at h
    | some value =>
      cases value with
      | obj payload =>
        simp only [hloads] at h
        dsimp only
        cases hid : get? key payload with
        | none => simp [hid] at h
        | some found =>
          cases found with
          | str id =>
            simp only [hid, Option.some.injEq] at h
            rw [h]
          | _ => simp [hid] at h
      | _ => simp [hloads] at h

/-- Of lines that read back, the filter keeps those without a blocked id. -/
theorem filteredLines_map {blockedIds : List Text} {records : List (RedactedRecord F)}
    (hread : ∀ record ∈ records,
      lineString loads (redactedLine record) "object_id" = some record.objectId) :
    filteredLines loads blockedIds (records.map redactedLine) =
      .ok ((records.filter fun record => record.objectId ∉ blockedIds).map redactedLine) := by
  induction records with
  | nil => rfl
  | cons record records ih =>
    obtain ⟨hrecord, hrecords⟩ := List.forall_mem_cons.mp hread
    rw [List.map_cons, filteredLines, keepsLine_of_lineString hrecord, ok_bind,
      ih hrecords, ok_bind, List.filter_cons]
    split <;> rfl

end Lines

section Counts

variable {p : Platform} {loads : Text → Option Value} {engine : PatternEngine} {F : Type}
  [ScoreLike F] {storage registry : MinioObjectStorageAdapter} {clock : Clock}
  {request : TextOcrExportRequest} {artifacts : TextOcrExportArtifacts} {s t : S3Objects}

/-- The records whose lines `produce_redacted_jsonl` emits. -/
def emitted (onlyRisky : Bool) (records : List (RedactedRecord F)) : List (RedactedRecord F) :=
  if onlyRisky then risky records else records

/-- The records whose lines are persisted. -/
def kept (blockedIds : List Text) (onlyRisky : Bool) (records : List (RedactedRecord F)) :
    List (RedactedRecord F) :=
  (emitted onlyRisky records).filter fun record => record.objectId ∉ blockedIds

theorem mem_of_mem_emitted {onlyRisky : Bool} {records : List (RedactedRecord F)}
    {record : RedactedRecord F} (h : record ∈ emitted onlyRisky records) : record ∈ records := by
  cases onlyRisky with
  | false => exact h
  | true => exact List.mem_of_mem_filter h

/-- The number that is counted as excluded. -/
def countedExcluded (blockedIds : List Text) (onlyRisky : Bool)
    (records : List (RedactedRecord F)) : Nat :=
  if blockedIds = [] then 0 else records.length - (kept blockedIds onlyRisky records).length

theorem exportedBytes_eq {blockedIds : List Text} {onlyRisky : Bool}
    {records : List (RedactedRecord F)} (hread : ∀ record ∈ records,
      lineString loads (redactedLine record) "object_id" = some record.objectId) :
    exportedBytes loads blockedIds (encodeUtf8 (redactedText onlyRisky records)) records.length =
      .ok (encodeUtf8 (linesText ((kept blockedIds onlyRisky records).map redactedLine)),
        countedExcluded blockedIds onlyRisky records) := by
  have hemitted : redactedText onlyRisky records =
      linesText ((emitted onlyRisky records).map redactedLine) := rfl
  rw [exportedBytes, countedExcluded]
  split
  · next hblocked =>
    have hkept : kept blockedIds onlyRisky records = emitted onlyRisky records := by
      rw [hblocked]
      exact List.filter_eq_self.mpr fun record _ => by simp
    rw [hkept, hemitted]
  · have hlines : byteLines (linesText ((emitted onlyRisky records).map redactedLine)) =
        (emitted onlyRisky records).map redactedLine := by
      apply byteLines_linesText
      intro line hline
      obtain ⟨record, -, rfl⟩ := List.mem_map.mp hline
      exact isNewline_redactedLine record
    rw [decodeUtf8_encodeUtf8, hemitted]
    dsimp only
    rw [hlines,
      filteredLines_map fun record hrecord => hread record (mem_of_mem_emitted hrecord), ok_bind,
      List.length_map]
    rfl

/-- What the counts of an export say of the records whose lines it persists. -/
structure Truthful (blockedIds : List Text) (records persisted : List (RedactedRecord F))
    (artifacts : TextOcrExportArtifacts) : Prop where
  unblocked : ∀ record ∈ persisted, record.objectId ∉ blockedIds
  recordCount : artifacts.recordCount = persisted.length
  piiRecordCount : artifacts.piiRecordCount = (risky persisted).length
  excludedBlockedCount : artifacts.excludedBlockedCount =
    (records.filter fun record => record.objectId ∈ blockedIds).length

theorem kept_eq (blockedIds : List Text) (onlyRisky : Bool) (records : List (RedactedRecord F)) :
    kept blockedIds onlyRisky records =
      emitted onlyRisky (records.filter fun record => record.objectId ∉ blockedIds) := by
  cases onlyRisky with
  | false => rfl
  | true => exact List.filter_comm _ _ _

theorem length_emitted_iff {onlyRisky : Bool} {records : List (RedactedRecord F)} :
    (emitted onlyRisky records).length = records.length ↔
      (onlyRisky = true → ∀ record ∈ records, 0 < record.piiTokenCount) := by
  cases onlyRisky with
  | false => simp [emitted]
  | true =>
    rw [emitted, if_pos rfl, risky, List.length_filter_eq_length_iff]
    simp

theorem risky_kept (blockedIds : List Text) (onlyRisky : Bool) (records : List (RedactedRecord F)) :
    risky (kept blockedIds onlyRisky records) =
      (risky records).filter fun record => record.objectId ∉ blockedIds := by
  have hemitted : risky (emitted onlyRisky records) = risky records := by
    cases onlyRisky with
    | false => rfl
    | true => exact List.filter_eq_self.mpr fun record hrecord => (List.mem_filter.mp hrecord).2
  rw [kept, risky, List.filter_comm, ← risky, hemitted]

theorem length_blocked_add (blockedIds : List Text) (records : List (RedactedRecord F)) :
    (records.filter fun record => record.objectId ∈ blockedIds).length +
      (records.filter fun record => record.objectId ∉ blockedIds).length = records.length := by
  have h := List.length_eq_length_filter_add (l := records) fun record =>
      decide (record.objectId ∈ blockedIds)
  rw [h]
  simp [decide_not]

/-- The counts are right exactly if nothing is found in the blocked records and, where only
records with findings are written, something is found in all the others. -/
theorem truthful_iff {blockedIds : List Text} {onlyRisky : Bool} {records : List (RedactedRecord F)}
    {artifact : RegisteredArtifact} :
    Truthful blockedIds records (kept blockedIds onlyRisky records)
        ⟨artifact, records.length - countedExcluded blockedIds onlyRisky records,
          (risky records).length, countedExcluded blockedIds onlyRisky records⟩ ↔
      (∀ record ∈ records, record.objectId ∈ blockedIds → ¬ 0 < record.piiTokenCount) ∧
      (onlyRisky = true → ∀ record ∈ records, record.objectId ∉ blockedIds →
        0 < record.piiTokenCount) := by
  have hlengths := length_blocked_add blockedIds records
  have hkept := kept_eq blockedIds onlyRisky records
  have hwritten : (kept blockedIds onlyRisky records).length =
      (records.filter fun record => record.objectId ∉ blockedIds).length ↔
        (onlyRisky = true → ∀ record ∈ records, record.objectId ∉ blockedIds →
          0 < record.piiTokenCount) := by
    rw [hkept, length_emitted_iff]
    simp
  have hfound : (risky records).length = (risky (kept blockedIds onlyRisky records)).length ↔
      ∀ record ∈ records, record.objectId ∈ blockedIds → ¬ 0 < record.piiTokenCount := by
    rw [risky_kept, eq_comm, List.length_filter_eq_length_iff]
    simp only [risky, List.mem_filter, decide_eq_true_eq]
    exact ⟨fun h record hrecord hblocked hpos => h record ⟨hrecord, hpos⟩ hblocked,
      fun h record hrecord hblocked => h record hrecord.1 hblocked hrecord.2⟩
  have hle : (kept blockedIds onlyRisky records).length ≤ 
      (records.filter fun record => record.objectId ∉ blockedIds).length := by
    rw [hkept, emitted]
    split
    · exact List.length_filter_le _ _
    · exact le_refl _
  constructor
  · rintro ⟨-, hcount, hpii, hexcluded⟩
    refine ⟨hfound.mp hpii, hwritten.mp ?_⟩
    dsimp only at hcount hexcluded
    rw [countedExcluded] at hcount hexcluded
    split at hexcluded
    · next hblocked =>
      rw [if_pos hblocked] at hcount
      omega
    · omega
  · rintro ⟨hclean, hrisky⟩
    have hall := hwritten.mpr hrisky
    refine ⟨fun record hrecord => by simpa using (List.mem_filter.mp hrecord).2, ?_,
      hfound.mpr hclean, ?_⟩
    · dsimp only
      rw [countedExcluded]
      split
      · next hblocked =>
        have hnone : (records.filter fun record => record.objectId ∈ blockedIds).length = 0 := by
          simp [hblocked]
        omega
      · omega
    · dsimp only
      rw [countedExcluded]
      split
      · next hblocked => simp [hblocked]
      · omega

theorem writeTextOcrExport_eq_ok {key text : Text} {source : S3Object}
    (hkey : storage.keyForUri request.sourceArtifact.uri.1 = .ok key)
    (hsource : get? (storage.bucketName, key) s = some source)
    (hdecode : decodeUtf8 source.body = some text)
    (hread : ∀ record ∈ redactedRecords loads engine F text,
      lineString loads (redactedLine record) "object_id" = some record.objectId)
    (h : (writeTextOcrExport p loads engine F storage registry clock request).run s =
      (.ok artifacts, t)) :
    let records := redactedRecords loads engine F text
    let blockedIds := request.blockedObjectIds.map Subtype.val
    let excluded := countedExcluded blockedIds request.detectPiiOnlyRecords records
    artifacts =
      ⟨artifacts.redactedArtifact, records.length - excluded, (risky records).length, excluded⟩ ∧
      ∃ u, (saveArtifact p registry clock (exportSave request (encodeUtf8 (linesText
          ((kept blockedIds request.detectPiiOnlyRecords records).map redactedLine)))
          artifacts.recordCount artifacts.piiRecordCount)).run u =
            (.ok artifacts.redactedArtifact, t) := by
  obtain ⟨stored, u, hget, h⟩ := Effect.run_bind_eq_ok.mp h
  obtain ⟨key', source', hkey', hsource', hbody⟩ := get_eq_ok hget
  obtain rfl := Except.ok.inj (hkey.symm.trans hkey')
  obtain rfl := Option.some.inj (hsource.symm.trans hsource')
  obtain ⟨⟨redacted, records⟩, hproduce, h⟩ := Effect.run_lift_bind_eq_ok.mp h
  obtain ⟨text', hdecode', hrecords, rfl⟩ := produceRedactedJsonl_eq_ok hproduce
  rw [hbody, hdecode] at hdecode'
  obtain rfl := Option.some.inj hdecode'
  obtain ⟨-, -, h⟩ := Effect.run_lift_bind_eq_ok.mp h
  obtain ⟨⟨data, excluded⟩, hexported, h⟩ := Effect.run_lift_bind_eq_ok.mp h
  subst hrecords
  rw [exportedBytes_eq hread] at hexported
  obtain ⟨rfl, rfl⟩ := Prod.mk.inj (Except.ok.inj hexported)
  obtain ⟨artifact, u', hsave, h⟩ := Effect.run_bind_eq_ok.mp h
  obtain ⟨hartifacts, rfl⟩ := Prod.mk.inj h
  obtain rfl := Except.ok.inj hartifacts
  exact ⟨rfl, u, hsave⟩

/-- An export succeeds where its source can be read, its records read back and the registry
takes the kept lines. -/
theorem exists_export {key text : Text} {source : S3Object} {blockedIds : List Text}
    {records : List (RedactedRecord F)} {excluded found : Nat} {lines : Text}
    (hget : ((storage.get p clock request.sourceArtifact.uri.1).run s).1.toOption.isSome = true)
    (hkey : storage.keyForUri request.sourceArtifact.uri.1 = .ok key)
    (hsource : get? (storage.bucketName, key) s = some source)
    (hdecode : decodeUtf8 source.body = some text)
    (hrecords : redactedRecords loads engine F text = records) (hread : ∀ record ∈ records,
      lineString loads (redactedLine record) "object_id" = some record.objectId)
    (hne : records ≠ []) (hblocked : request.blockedObjectIds.map Subtype.val = blockedIds)
    (hexcluded : countedExcluded blockedIds request.detectPiiOnlyRecords records = excluded)
    (hfound : (risky records).length = found)
    (hlines : linesText
      ((kept blockedIds request.detectPiiOnlyRecords records).map redactedLine) = lines)
    (hsave : ((saveArtifact p registry clock (exportSave request (encodeUtf8 lines)
      (records.length - excluded) found)).run s).1.toOption.isSome = true) :
    ∃ artifacts t, (writeTextOcrExport p loads engine F storage registry clock request).run s =
      (.ok artifacts, t) := by
  obtain ⟨stored, hstored⟩ := exists_ok hget
  have hrun : (storage.get p clock request.sourceArtifact.uri.1).run s = (.ok stored, s) :=
    Prod.ext hstored (run_get_snd _)
  obtain ⟨key', source', hkey', hsource', hbody⟩ := get_eq_ok hrun
  obtain rfl := Except.ok.inj (hkey.symm.trans hkey')
  obtain rfl := Option.some.inj (hsource.symm.trans hsource')
  have hproduce :
      produceRedactedJsonl (F := F) loads engine request.detectPiiOnlyRecords stored.data =
      .ok (encodeUtf8 (redactedText request.detectPiiOnlyRecords records), records) := by
    rw [produceRedactedJsonl, hbody, hdecode, ← hrecords]
  have hexported : exportedBytes loads blockedIds
      (encodeUtf8 (redactedText request.detectPiiOnlyRecords records)) records.length = .ok _ :=
    exportedBytes_eq hread
  obtain ⟨artifact, hartifact⟩ := exists_ok hsave
  rw [writeTextOcrExport, Effect.run_bind_ok hrun, hproduce, Effect.lift_ok_bind]
  dsimp only
  rw [Effect.ensure, guardOk, if_pos hne, Effect.lift_ok_bind, hblocked, hexported,
    hexcluded, hfound, hlines, Effect.lift_ok_bind]
  dsimp only
  exact ⟨_, _, Effect.run_bind_ok (Prod.ext hartifact rfl) _⟩

/-- An export that succeeds persists the lines of the kept records, and its counts are right
exactly if nothing is found in the blocked records and, where only records with findings are
written, something is found in all the others. -/
theorem export_counts_iff {key text : Text} {source : S3Object}
    (hkey : storage.keyForUri request.sourceArtifact.uri.1 = .ok key)
    (hsource : get? (storage.bucketName, key) s = some source)
    (hdecode : decodeUtf8 source.body = some text)
    (hread : ∀ record ∈ redactedRecords loads engine F text,
      lineString loads (redactedLine record) "object_id" = some record.objectId)
    (h : (writeTextOcrExport p loads engine F storage registry clock request).run s =
      (.ok artifacts, t)) :
    ∃ (persisted : List (RedactedRecord F)) (u : S3Objects),
      (saveArtifact p registry clock (exportSave request
          (encodeUtf8 (linesText (persisted.map redactedLine))) artifacts.recordCount
          artifacts.piiRecordCount)).run u = (.ok artifacts.redactedArtifact, t) ∧
      (Truthful (request.blockedObjectIds.map Subtype.val) (redactedRecords loads engine F text)
          persisted artifacts ↔
        ∀ found ∈ (splitLines text).filterMap (textRecord loads),
          (found.1 ∈ request.blockedObjectIds.map Subtype.val → ¬ HasPii engine found.2) ∧
          (request.detectPiiOnlyRecords = true →
            found.1 ∉ request.blockedObjectIds.map Subtype.val → HasPii engine found.2)) := by
  obtain ⟨hartifacts, u, hsave⟩ := writeTextOcrExport_eq_ok hkey hsource hdecode hread h
  refine ⟨_, u, hsave, ?_⟩
  rw [hartifacts, truthful_iff, redactedRecords]
  simp only [List.forall_mem_map, redactRecord_pos_iff, redactRecord_objectId]
  constructor
  · rintro ⟨hblocked, hrisky⟩ found hfound
    exact ⟨hblocked found hfound, fun honly => hrisky honly found hfound⟩
  · intro h
    exact ⟨fun found hfound => (h found hfound).1,
      fun honly found hfound => (h found hfound).2 honly⟩

/-- A finding in a blocked record is counted, and no persisted line has it. -/
theorem not_truthful_of_blocked {key text : Text} {source : S3Object} {record : RedactedRecord F}
    (hkey : storage.keyForUri request.sourceArtifact.uri.1 = .ok key)
    (hsource : get? (storage.bucketName, key) s = some source)
    (hdecode : decodeUtf8 source.body = some text)
    (hread : ∀ record ∈ redactedRecords loads engine F text,
      lineString loads (redactedLine record) "object_id" = some record.objectId)
    (h : (writeTextOcrExport p loads engine F storage registry clock request).run s =
      (.ok artifacts, t))
    (hrecord : record ∈ redactedRecords loads engine F text)
    (hblocked : record.objectId ∈ request.blockedObjectIds.map Subtype.val)
    (hfound : 0 < record.piiTokenCount) :
    ∃ (persisted : List (RedactedRecord F)) (u : S3Objects),
      (saveArtifact p registry clock (exportSave request
          (encodeUtf8 (linesText (persisted.map redactedLine))) artifacts.recordCount
          artifacts.piiRecordCount)).run u = (.ok artifacts.redactedArtifact, t) ∧
      ¬ Truthful (request.blockedObjectIds.map Subtype.val) (redactedRecords loads engine F text)
          persisted artifacts := by
  obtain ⟨hartifacts, u, hsave⟩ := writeTextOcrExport_eq_ok hkey hsource hdecode hread h
  refine ⟨_, u, hsave, fun htruthful => ?_⟩
  rw [hartifacts] at htruthful
  exact (truthful_iff.mp htruthful).1 record hrecord hblocked hfound

end Counts

section Examples

/-- The address is in the record that is blocked; the other record is clean. -/
def blockedSource : String :=
  "\x7b\"object_id\":\"b\",\"text\":\"a@b.co\"\x7d\n\x7b\"object_id\":\"c\",\"text\":\"\"\x7d\n"

def exportRequest : TextOcrExportRequest where
  candidateDatasetVersionId := literal "v2"
  sourceArtifact := redactRequest.sourceArtifact
  sourceKind := .supportMessages
  sourceName := literal "support_messages.jsonl"
  blockedObjectIds := [literal "b"]
  createdByJobId := literal "job"
  configHash := zeroDigest

def exportRun : Result TextOcrExportArtifacts × S3Objects :=
  (writeTextOcrExport asciiPlatform loads addressEngine ℚ sourceStorage sourceStorage
    ⟨⟨0, none⟩, none⟩ exportRequest).run (storedSource blockedSource)

theorem blockedSource_stored : get? (sourceStorage.bucketName, "r/o/p/d/s".toList)
    (storedSource blockedSource) =
      some ⟨encodeUtf8 blockedSource.toList, "application/jsonl".toList, [], none⟩ := by
  rw [storedSource, get?, if_pos (by decide)]

theorem blockedSource_key :
    sourceStorage.keyForUri redactRequest.sourceArtifact.uri.1 = .ok "r/o/p/d/s".toList := by
  decide +kernel

def blockedRecords : List (RedactedRecord ℚ) :=
  redactedRecords loads addressEngine ℚ blockedSource.toList

theorem blockedRecords_read : ∀ record ∈ blockedRecords,
    lineString loads (redactedLine record) "object_id" = some record.objectId := by
  decide +kernel

theorem blockedSource_reads :
    ∀ record ∈ redactedRecords loads addressEngine ℚ blockedSource.toList,
      lineString loads (redactedLine record) "object_id" = some record.objectId := by
  rw [← blockedRecords]
  exact blockedRecords_read

theorem length_blockedRecords : blockedRecords.length = 2 ∧ (risky blockedRecords).length = 1 := by
  decide +kernel

def cleanLine : String :=
  "\x7b\"object_id\":\"c\",\"pii_token_count\":0,\"redacted_text\":\"\",\"redacted_text_sha256\":\"sha256:" ++
    "e3b0c44298fc1c149afbf4c8996fb92427ae41e4649b934ca495991b7852b855\"\x7d\n"

theorem source_read : ((sourceStorage.get asciiPlatform ⟨⟨0, none⟩, none⟩
    redactRequest.sourceArtifact.uri.1).run (storedSource blockedSource)).1.toOption.isSome =
    true := by
  decide +kernel

theorem kept_cleanLine : countedExcluded [['b']] false blockedRecords = 1 ∧
    linesText ((kept [['b']] false blockedRecords).map redactedLine) = cleanLine.toList := by
  decide +kernel

theorem saved_cleanLine : ((saveArtifact asciiPlatform sourceStorage ⟨⟨0, none⟩, none⟩
    (exportSave exportRequest (encodeUtf8 cleanLine.toList) 1 1)).run
      (storedSource blockedSource)).1.toOption.isSome = true := by
  decide +kernel

theorem exists_exportRun : ∃ artifacts t, exportRun = (.ok artifacts, t) := by
  have hne : blockedRecords ≠ [] := by
    intro h
    have hlength := length_blockedRecords.1
    rw [h] at hlength
    cases hlength
  have hsaved :
      ((saveArtifact asciiPlatform sourceStorage ⟨⟨0, none⟩, none⟩ (exportSave exportRequest
      (encodeUtf8 cleanLine.toList) (blockedRecords.length - 1) 1)).run
        (storedSource blockedSource)).1.toOption.isSome = true := by
    rw [length_blockedRecords.1]
    exact saved_cleanLine
  have hrecords : redactedRecords loads addressEngine ℚ blockedSource.toList = blockedRecords := by
    rw [blockedRecords]
  exact @exists_export asciiPlatform loads addressEngine ℚ _ sourceStorage sourceStorage
    ⟨⟨0, none⟩, none⟩ exportRequest (storedSource blockedSource) "r/o/p/d/s".toList
    blockedSource.toList _ [['b']] blockedRecords 1 1 cleanLine.toList source_read blockedSource_key
    blockedSource_stored (decodeUtf8_encodeUtf8 _) hrecords blockedRecords_read hne
      rfl kept_cleanLine.1
    length_blockedRecords.2 kept_cleanLine.2 hsaved

theorem export_counts_sample : ∃ artifacts t, exportRun = (.ok artifacts, t) ∧
    ∃ (persisted : List (RedactedRecord ℚ)) (u : S3Objects),
      (saveArtifact asciiPlatform sourceStorage ⟨⟨0, none⟩, none⟩ (exportSave exportRequest
          (encodeUtf8 (linesText (persisted.map redactedLine))) artifacts.recordCount
          artifacts.piiRecordCount)).run u = (.ok artifacts.redactedArtifact, t) ∧
      (Truthful [['b']] (redactedRecords loads addressEngine ℚ blockedSource.toList)
          persisted artifacts ↔
        ∀ found ∈ (splitLines blockedSource.toList).filterMap (textRecord loads),
          (found.1 ∈ [['b']] → ¬ HasPii addressEngine found.2) ∧
          (false = true → found.1 ∉ [['b']] → HasPii addressEngine found.2)) := by
  obtain ⟨artifacts, t, hrun⟩ := exists_exportRun
  have hcounts :=
    @export_counts_iff asciiPlatform loads addressEngine ℚ _ sourceStorage sourceStorage
    ⟨⟨0, none⟩, none⟩ exportRequest artifacts (storedSource blockedSource) t
    "r/o/p/d/s".toList blockedSource.toList _ blockedSource_key blockedSource_stored
    (decodeUtf8_encodeUtf8 _) blockedSource_reads hrun
  exact ⟨artifacts, t, hrun, hcounts⟩

/-- The finding in the blocked record is counted, and no persisted line has one. -/
theorem blocked_finding_counted : ∃ artifacts t, exportRun = (.ok artifacts, t) ∧
    ∃ (persisted : List (RedactedRecord ℚ)) (u : S3Objects),
      (saveArtifact asciiPlatform sourceStorage ⟨⟨0, none⟩, none⟩ (exportSave exportRequest
          (encodeUtf8 (linesText (persisted.map redactedLine))) artifacts.recordCount
          artifacts.piiRecordCount)).run u = (.ok artifacts.redactedArtifact, t) ∧
      ¬ Truthful [['b']] (redactedRecords loads addressEngine ℚ blockedSource.toList) persisted
        artifacts := by
  obtain ⟨artifacts, t, hrun⟩ := exists_exportRun
  have hfound : ∃ record ∈ redactedRecords loads addressEngine ℚ blockedSource.toList,
      record.objectId ∈ [['b']] ∧ 0 < record.piiTokenCount := by decide +kernel
  obtain ⟨record, hrecord, hblocked, hpos⟩ := hfound
  have hcounted := @not_truthful_of_blocked asciiPlatform loads addressEngine ℚ _ sourceStorage
    sourceStorage ⟨⟨0, none⟩, none⟩ exportRequest artifacts (storedSource blockedSource) t
    "r/o/p/d/s".toList blockedSource.toList _ record blockedSource_key blockedSource_stored
    (decodeUtf8_encodeUtf8 _) blockedSource_reads hrun hrecord hblocked hpos
  exact ⟨artifacts, t, hrun, hcounted⟩

end Examples

end DataForge.Plugins.Export.TextOcrWriter
