import DataForge.Plugins.TextOcr.PayloadErrors
import DataForge.Plugins.TextOcr.WalkedLines

namespace DataForge.Plugins.TextOcr.TotalValidation

open DataForge.Foundation.Strings
open DataForge.Foundation.Lines
open DataForge.Foundation.Json
open DataForge.Foundation.JsonReader
open DataForge.Foundation.JsonErrors
open DataForge.Foundation.Numbers
open DataForge.Foundation.Scores
open DataForge.Foundation.Sha256
open DataForge.Foundation.Outcome
open DataForge.Foundation.Failures
open DataForge.Domain.Common
open DataForge.Domain.Artifact
open DataForge.Domain.TextOcr
open DataForge.Adapters.ObjectStorage
open DataForge.Adapters.ArtifactRegistry
open DataForge.Plugins.TextOcr.Pii
open DataForge.Plugins.TextOcr.Validator
open DataForge.Plugins.TextOcr.RedactedJsonl hiding validateJsonl
open DataForge.Plugins.TextOcr.PayloadErrors
open DataForge.Plugins.TextOcr.WalkedLines
open FloatLike ScoreLike

section Conditions

variable (p : Platform) (json : JsonModule Raised) (engine : PatternEngine) (F : Type)
  [MetricLike F]
  (parser : TextRecordParser) (options : ValidateOptions)

/-- What the lines of a payload have to be, so that no string of theirs raises. -/
structure Tolerable (text : Text) : Prop where
  loads : ∀ line ∈ splitLines text, ¬ Blank line → ¬ json.Raises line
  texts : ∀ line ∈ splitLines text, ∀ record : ParsedRecord F,
    AcceptsLine p json.decode parser line record → json.Encodes record.rawText
  duplicates : ∀ a b : ParsedRecord F, Keeps p json.decode parser (splitLines text) a →
    Keeps p json.decode parser (splitLines text) b → b.objectId ≠ a.objectId →
      b.normalizedTextHash = a.normalizedTextHash → json.Encodes a.objectId.1
  findings : options.detectPii = true → ∀ record : ParsedRecord F,
    Keeps p json.decode parser (splitLines text) record → HasPii engine record.rawText →
      json.Encodes record.objectId.1
  secondPass : Persisting options → ∀ line ∈ splitLines text, ∀ id source,
    textRecord json.decode line = some (id, source) → json.Encodes (detectPii engine source).2

variable {p json engine F parser options}

theorem checkLine_eq_ok (laws : Caseless p json) {numbered : Text × Nat} :
    checkLine p json F parser numbered = .ok () ↔ (¬ Blank numbered.1 → ¬ json.Raises numbered.1) ∧
      ∀ record : ParsedRecord F, AcceptsLine p json.decode parser numbered.1 record →
        json.Encodes record.rawText := by
  rw [checkLine]
  by_cases hblank : Blank numbered.1
  · rw [if_pos hblank]
    exact iff_of_true rfl ⟨fun h => absurd hblank h, fun record hline => absurd hblank hline.1⟩
  · rw [if_neg hblank, bind_eq_ok]
    simp only [acceptsLine_iff (n := numbered.2) hblank]
    have hread : (∃ record, json.read numbered.1 = .ok record) ↔
        (¬ Blank numbered.1 → ¬ json.Raises numbered.1) := by
      rw [imp_iff_right hblank]
      exact ⟨fun ⟨_, h⟩ => (JsonModule.read_eq_ok.mp h).1,
        fun h => ⟨_, JsonModule.read_eq_ok.mpr ⟨h, rfl⟩⟩⟩
    rw [← hread, exists_and_right]
    refine and_congr_right fun _ => ?_
    cases parseLine (F := F) p json.decode parser numbered.2 numbered.1 with
    | error issue => exact iff_of_true rfl fun record h => (by cases h)
    | ok found =>
      dsimp only
      rw [encodeText, guardOk_eq_ok, encodes_normalizeText laws]
      exact ⟨fun h record hrecord => Except.ok.inj hrecord ▸ h, fun h => h found rfl⟩

omit [MetricLike F] in
theorem checkGroups_eq_ok {records : List (ParsedRecord F)}
    (hnodup : (records.map ParsedRecord.objectId).Nodup) :
    checkGroups json records = .ok () ↔ ∀ a ∈ records, ∀ b ∈ records, b.objectId ≠ a.objectId →
      b.normalizedTextHash = a.normalizedTextHash → json.Encodes a.objectId.1 := by
  rw [checkGroups, forM_eq_ok]
  simp only [modelText, guardOk_eq_ok, mem_duplicateIds_iff hnodup]
  constructor
  · intro h a ha b hb hne hhash
    exact h a.objectId ⟨a, ha, rfl, b, hb, hne, hhash⟩
  · rintro h id ⟨a, ha, rfl, b, hb, hne, hhash⟩
    exact h a ha b hb hne hhash

omit [MetricLike F] in
theorem checkRecord_eq_ok (laws : Caseless p json) {record : ParsedRecord F}
    (htext : json.Encodes record.rawText) : checkRecord json engine record = .ok () ↔
      (HasPii engine record.rawText → json.Encodes record.objectId.1) := by
  rw [checkRecord, check_bind_eq_ok, encodeText, guardOk_eq_ok,
    and_iff_right (encodes_detectPii laws htext), checkIf_eq_ok, modelText, guardOk_eq_ok]

theorem checkSecondPass_eq_ok {text : Text} : checkSecondPass json engine text = .ok () ↔
    ∀ line ∈ splitLines text, ∀ id source, textRecord json.decode line = some (id, source) →
      json.Encodes (detectPii engine source).2 := by
  rw [checkSecondPass, forM_eq_ok]
  simp only [encodeText, guardOk_eq_ok, List.mem_filterMap]
  constructor
  · intro h line hline id source hrecord
    exact h (id, source) ⟨line, hline, hrecord⟩
  · rintro h ⟨id, source⟩ ⟨line, hline, hrecord⟩
    exact h line hline id source hrecord

theorem acceptsLine_of_keeps {lines : List Text} {record : ParsedRecord F}
    (h : Keeps p json.decode parser lines record) :
    ∃ line ∈ lines, AcceptsLine p json.decode parser line record := by
  obtain ⟨before, line, after, rfl, hline, -⟩ := h
  exact ⟨line, by simp, hline⟩

/-- The strings of a payload raise nothing exactly where its lines are such lines. -/
theorem payloadChecks_eq_ok (laws : Caseless p json) {data : Bytes} {text : Text}
    (hdecode : decodeUtf8 data = some text) :
    payloadChecks p json engine F parser options data = .ok () ↔
      Tolerable p json engine F parser options text := by
  have hlines : ((splitLines text).zipIdx 1).forM (checkLine p json F parser) = .ok () ↔
      (∀ line ∈ splitLines text, ¬ Blank line → ¬ json.Raises line) ∧
        ∀ line ∈ splitLines text, ∀ record : ParsedRecord F,
          AcceptsLine p json.decode parser line record → json.Encodes record.rawText := by
    rw [forM_eq_ok, ← forall₂_and]
    conv => rhs; rw [← List.zipIdx_map_fst 1 (splitLines text), List.forall_mem_map]
    exact forall₂_congr fun numbered _ => checkLine_eq_ok laws
  have hnodup := (@counts_walkJsonl p json.decode F _ parser data text hdecode).nodup
  rw [payloadChecks, hdecode]
  dsimp only
  rw [check_bind_eq_ok, check_bind_eq_ok, check_bind_eq_ok, hlines, checkGroups_eq_ok hnodup,
    checkIf_eq_ok, checkIf_eq_ok, checkSecondPass_eq_ok, forM_eq_ok]
  simp only [mem_walkJsonl_iff hdecode]
  constructor
  · rintro ⟨⟨hloads, htexts⟩, hduplicates, hrecords, hsecond⟩
    refine ⟨hloads, htexts, fun a b ha hb => hduplicates a ha b hb,
      fun hpii record hrecord hhas => ?_, hsecond⟩
    obtain ⟨line, hline, haccepts⟩ := acceptsLine_of_keeps hrecord
    exact (checkRecord_eq_ok laws (htexts line hline record haccepts)).mp
      (hrecords hpii record hrecord) hhas
  · rintro ⟨hloads, htexts, hduplicates, hfindings, hsecond⟩
    refine ⟨⟨hloads, htexts⟩, fun a ha b hb => hduplicates a b ha hb,
      fun hpii record hrecord => ?_, hsecond⟩
    obtain ⟨line, hline, haccepts⟩ := acceptsLine_of_keeps hrecord
    exact (checkRecord_eq_ok laws (htexts line hline record haccepts)).mpr
      (hfindings hpii record hrecord)

end Conditions

section Reports

variable {p : Platform} {loads : Text → Option Value} {engine : PatternEngine} {F : Type}
  [SignLike F]
  {parser : TextRecordParser} {options : ValidateOptions} {clock : Clock} {sourceName : Text}
  {data : Bytes} {s : S3Objects}

theorem inRange_computeRiskScore (counts : List (PiiCategory × Nat)) (textLength : Nat) :
    InRange 1 (computeRiskScore counts textLength : F) := by
  have hweight : ∀ category, lt (riskWeight F category) (ofInt 0) = false := by
    intro category
    cases category with
    | passport | paymentCard | secret => exact SignLike.ofInt_nonneg 1
    | bankAccount => exact (inRange_decimal 9 1 (by decide)).1
    | email | phone => exact (inRange_decimal 5 1 (by decide)).1
  have hdensity : lt (riskDensity F counts textLength) (ofInt 0) = false := by
    rw [riskDensity]
    apply SignLike.div_nonneg
    · apply sum_nonneg
      intro x hx
      obtain ⟨entry, -, rfl⟩ := List.mem_map.mp hx
      exact SignLike.mul_nonneg (hweight entry.1) (SignLike.ofInt_nonneg entry.2)
    · rw [FloatLike.max]
      split
      · next hlarge => exact lt_asymm hlarge
      · rw [lt_ofInt 1 1 (by decide) (by decide)]
        rfl
  rw [computeRiskScore]
  split
  · exact inRange_ofInt (le_refl 0) zero_le_one (by decide)
  · rw [DataForge.Foundation.Scores.min]
    split
    · next hsmall => exact ⟨hdensity, lt_asymm hsmall⟩
    · exact inRange_ofInt zero_le_one (le_refl 1) (by decide)

theorem exists_toRecordFindings (record : ParsedRecord F) :
    ∃ findings, (redactRecord engine F record.objectId.1 record.rawText).toRecordFindings =
      .ok findings := by
  have hscore : InRange 1 (redactRecord engine F record.objectId.1 record.rawText).piiRiskScore :=
    inRange_computeRiskScore (detectPii engine record.rawText).1 record.rawText.length
  have hid : field "TextPiiFindingsForRecord" "object_id" record.objectId.1 = .ok record.objectId :=
    field_eq_ok.mpr rfl
  rw [RedactedRecord.toRecordFindings, redactRecord_objectId, hid, ok_bind, dif_pos hscore]
  exact ⟨_, rfl⟩

theorem exists_aggregatePii (records : List (ParsedRecord F)) :
    ∃ result, aggregatePii (records.map fun record =>
      redactRecord engine F record.objectId.1 record.rawText) = .ok result := by
  have hfindings : ∃ findings, (risky (records.map fun record =>
      redactRecord engine F record.objectId.1 record.rawText)).mapM
        RedactedRecord.toRecordFindings =
        .ok findings := by
    apply exists_mapM_ok
    intro redacted hredacted
    obtain ⟨record, -, rfl⟩ := List.mem_map.mp (List.mem_of_mem_filter hredacted)
    exact exists_toRecordFindings record
  obtain ⟨findings, hfindings⟩ := hfindings
  exact ⟨_, bind_eq_ok.mpr ⟨findings, hfindings, rfl⟩⟩

variable (p loads engine F parser options clock sourceName data s) in
/-- The registry stores the redacted lines, when there are some. -/
def Stores : Prop :=
  ∀ a request text, options.registry = some a → options.buildRequest = some request →
    decodeUtf8 data = some text → ∃ artifact t, (saveArtifact p a clock (redactedSave request
      parser.sourceKind sourceName
      (encodeUtf8 (redactedText true (redactedRecords loads engine F text)))
      (risky (redactedRecords loads engine F text)).length)).run s = (.ok artifact, t)

/-- Every line that is not blank is a valid record or has an issue with its number; a
payload that is not UTF-8 has the one issue that says so. -/
def Counted (data : Bytes) (report : TextOcrSourceReport F) : Prop :=
  report.recordCount = report.validRecordCount + report.issueCount ∧
    report.issueCount = report.issues.length ∧
    match decodeUtf8 data with
    | none => report.validRecordCount = 0 ∧ ∃ issue, report.issues = [issue] ∧
        issue.reasonCode = "not_utf8_jsonl"
    | some text => report.recordCount = (lineNumbers text).length ∧
        (report.issues.map TextValidationIssue.lineNumber).Sublist (lineNumbers text)

theorem counted_walkReport : Counted data
    (walkReport (F := F) parser sourceName (walkJsonl p loads parser data)) := by
  refine ⟨rfl, rfl, ?_⟩
  cases hdecode : decodeUtf8 data with
  | none =>
    rw [walkJsonl, hdecode]
    exact ⟨rfl, _, rfl, rfl⟩
  | some text =>
    have hcounts := @counts_walkJsonl p loads F _ parser data text hdecode
    exact ⟨hcounts.total, hcounts.issues⟩

/-- A validation that returns has counted every line. -/
theorem counted_of_run {report : TextOcrSourceReport F} {t : S3Objects}
    (h : (RedactedJsonl.validateJsonl p loads engine parser options clock sourceName data).run s =
      (.ok report, t)) : Counted data report := by
  have hwalk := @counted_walkReport p loads F _ parser sourceName data
  cases hpii : options.detectPii with
  | true =>
    obtain ⟨findings, recordCount, tokens, persisted, -, -, rfl⟩ := validateJsonl_eq_ok hpii h
    exact hwalk
  | false =>
    rw [RedactedJsonl.validateJsonl] at h
    dsimp only at h
    rw [if_neg (by simp [hpii])] at h
    obtain rfl := Except.ok.inj (Prod.mk.inj h).1
    exact hwalk

theorem exists_persistRedactedJsonl {a : MinioObjectStorageAdapter} {request : TextOcrBuildRequest}
    {text : Text} (hdecode : decodeUtf8 data = some text)
    (hsave : ∃ artifact t,
      (saveArtifact p a clock (redactedSave request parser.sourceKind sourceName
      (encodeUtf8 (redactedText true (redactedRecords loads engine F text)))
      (risky (redactedRecords loads engine F text)).length)).run s = (.ok artifact, t)) :
    ∃ persisted t, (persistRedactedJsonl (F := F) p loads engine a clock request parser.sourceKind
      sourceName data).run s = (.ok persisted, t) := by
  have hproduce : produceRedactedJsonl loads engine true data = .ok
      (encodeUtf8 (redactedText true (redactedRecords loads engine F text)),
        redactedRecords loads engine F text) := by
    rw [produceRedactedJsonl, hdecode]
  rw [persistRedactedJsonl, hproduce]
  dsimp only [Effect.lift_ok_bind]
  split
  · exact ⟨none, s, rfl⟩
  · obtain ⟨artifact, t, hsave⟩ := hsave
    exact ⟨some artifact, t, Effect.run_bind_eq_ok.mpr ⟨artifact, t, hsave, rfl⟩⟩

/-- Beside its strings, a validation fails only for bytes that its second pass cannot decode. -/
theorem exists_validateJsonl
    (hsave : Stores p loads engine F parser options clock sourceName data s) :
    (∃ report : TextOcrSourceReport F, ∃ t,
      (RedactedJsonl.validateJsonl p loads engine parser options clock
        sourceName data).run s = (.ok report, t)) ↔
      (Persisting options → decodeUtf8 data ≠ none) := by
  constructor
  · rintro ⟨report, t, h⟩ ⟨hpii, hregistry, hrequest⟩ hnone
    obtain ⟨a, ha⟩ := Option.isSome_iff_exists.mp hregistry
    obtain ⟨request, hr⟩ := Option.isSome_iff_exists.mp hrequest
    obtain ⟨_, _, _, persisted, -, hpersists, -⟩ := validateJsonl_eq_ok hpii h
    obtain ⟨text, hdecode, -⟩ := persistRedactedJsonl_eq_ok (hpersists.supplied a request ha hr)
    rw [hnone] at hdecode
    cases hdecode
  · intro hdecode
    cases hpii : options.detectPii with
    | false =>
      rw [RedactedJsonl.validateJsonl]
      exact ⟨_, s, by rw [if_neg (by simp [hpii])]; rfl⟩
    | true =>
      obtain ⟨⟨findings, recordCount, tokens⟩, haggregate⟩ := @exists_aggregatePii engine F _
        (walkJsonl (F := F) p loads parser data).records
      rw [RedactedJsonl.validateJsonl]
      dsimp only
      rw [if_pos hpii, haggregate]
      cases hregistry : options.registry with
      | none => exact ⟨_, s, rfl⟩
      | some a =>
        cases hrequest : options.buildRequest with
        | none => exact ⟨_, s, rfl⟩
        | some request =>
          obtain ⟨text, htext⟩ := Option.ne_none_iff_exists'.mp
            (hdecode ⟨hpii, by simp [hregistry], by simp [hrequest]⟩)
          obtain ⟨persisted, t, hpersist⟩ :=
            exists_persistRedactedJsonl htext (hsave a request text hregistry hrequest htext)
          exact ⟨_, t, Effect.run_lift_bind_eq_ok.mpr ⟨_, rfl,
            Effect.run_bind_eq_ok.mpr ⟨persisted, t, hpersist, rfl⟩⟩⟩

end Reports

section Total

variable {p : Platform} {json : JsonModule Raised} {engine : PatternEngine} {F : Type} [SignLike F]
  {parser : TextRecordParser} {options : ValidateOptions} {clock : Clock} {sourceName : Text}
  {data : Bytes} {s : S3Objects}

/-- The validator returns a report that counts every line exactly where the second pass can
decode the payload, if there is one, and no string of the lines raises. -/
theorem validateJsonl_total_iff (laws : Caseless p json)
    (hsave : Stores p json.decode engine F parser options clock sourceName data s) :
    (∃ report : TextOcrSourceReport F, ∃ t, (validateJsonl p json engine parser options clock
        sourceName data).run s = (.ok report, t) ∧ Counted data report) ↔
      (Persisting options → decodeUtf8 data ≠ none) ∧
        ∀ text, decodeUtf8 data = some text → Tolerable p json engine F parser options text := by
  have hchecks : payloadChecks p json engine F parser options data = .ok () ↔
      ∀ text, decodeUtf8 data = some text → Tolerable p json engine F parser options text := by
    cases hdecode : decodeUtf8 data with
    | none =>
      rw [payloadChecks, hdecode]
      exact iff_of_true rfl fun text h => (by cases h)
    | some text =>
      rw [payloadChecks_eq_ok laws hdecode]
      exact ⟨fun h other hother => Option.some.inj hother ▸ h, fun h => h text rfl⟩
  rw [← hchecks, ← exists_validateJsonl hsave]
  constructor
  · rintro ⟨report, t, h, -⟩
    obtain ⟨_, hok, h⟩ := Effect.run_lift_bind_eq_ok.mp h
    exact ⟨⟨report, t, h⟩, hok⟩
  · rintro ⟨⟨report, t, h⟩, hok⟩
    exact ⟨report, t, Effect.run_lift_bind_eq_ok.mpr ⟨(), hok, h⟩, counted_of_run h⟩

end Total

section Example

def supportRegistry : MinioObjectStorageAdapter :=
  ⟨['b'], ['r'], ⟨literal "o", literal "p", literal "d"⟩, rooted_plain⟩

def supportRequest : TextOcrBuildRequest :=
  ⟨literal "d", literal "v1", literal "v0", literal "j1", zeroDigest⟩

/-- A validation that looks for personal data and stores their redaction. -/
def storingOptions : ValidateOptions := ⟨true, some supportRegistry, some supportRequest⟩

def supportClock : Clock := ⟨⟨0, some 0⟩, none⟩

def addressLine : Text := "\x7b\"object_id\":\"m1\",\"text\":\"a@b.co\"\x7d".toList

theorem caseless_scanner : Caseless asciiPlatform (scanner Raised) :=
  ⟨fun _ _ => rfl, fun _ _ => rfl, fun _ => iff_of_true (fun _ _ => rfl) fun _ _ => rfl⟩

theorem tolerable_scanner (text : Text) :
    Tolerable asciiPlatform (scanner Raised) addressEngine ℚ (supportParser 1) storingOptions
      text := by
  refine ⟨fun line _ _ hraises => ?_, fun _ _ _ _ _ _ => rfl, fun _ _ _ _ _ _ _ _ => rfl,
    fun _ _ _ _ _ _ => rfl, fun _ _ _ _ _ _ _ _ => rfl⟩
  obtain ⟨e, he⟩ := hraises
  rw [scanner] at he
  dsimp only at he
  cases h : DataForge.Foundation.JsonReader.loads line with
  | none =>
    rw [h] at he
    cases he
  | some v =>
    rw [h] at he
    cases he

def redactedAddress : List (RedactedRecord ℚ) :=
  redactedRecords (scanner Raised).decode addressEngine ℚ addressLine

theorem stores_addressLine :
    Stores asciiPlatform (scanner Raised).decode addressEngine ℚ (supportParser 1)
    storingOptions supportClock "support.jsonl".toList (encodeUtf8 addressLine) [] := by
  intro a request text ha hrequest htext
  obtain rfl := Option.some.inj ha
  obtain rfl := Option.some.inj hrequest
  obtain rfl := Option.some.inj ((decodeUtf8_encodeUtf8 addressLine).symm.trans htext)
  have hsaved :
      ((saveArtifact asciiPlatform supportRegistry supportClock (redactedSave supportRequest
        (supportParser 1).sourceKind "support.jsonl".toList
      (encodeUtf8 (redactedText true redactedAddress))
      (risky redactedAddress).length)).run []).1.toOption.isSome = true := by decide +kernel
  obtain ⟨artifact, hartifact⟩ := exists_ok hsaved
  exact ⟨artifact, _, Prod.ext hartifact rfl⟩

/-- A line with an address: it is counted, and its redaction is stored. -/
theorem addressLine_counted : ∃ report : TextOcrSourceReport ℚ, ∃ t,
    (validateJsonl asciiPlatform (scanner Raised) addressEngine (supportParser 1) storingOptions
      supportClock
      "support.jsonl".toList (encodeUtf8 addressLine)).run [] = (.ok report, t) ∧
        Counted (encodeUtf8 addressLine) report := by
  refine (validateJsonl_total_iff caseless_scanner stores_addressLine).mpr
    ⟨fun _ => ?_, fun text _ =>
    tolerable_scanner text⟩
  rw [decodeUtf8_encodeUtf8]
  exact Option.some_ne_none addressLine

/-- A byte that is no UTF-8: the first pass has an issue for it, the second pass raises. -/
theorem undecodable_payload_raises :
    ¬ ∀ (p : Platform) (json : JsonModule Raised) (engine : PatternEngine)
      (parser : TextRecordParser)
      (options : ValidateOptions) (clock : Clock) (sourceName : Text) (data : Bytes)
      (s : S3Objects),
      Caseless p json → Stores p json.decode engine ℚ parser options clock sourceName data s →
      ∃ report : TextOcrSourceReport ℚ, ∃ t, (validateJsonl p json engine parser options clock
        sourceName data).run s = (.ok report, t) ∧ Counted data report := by
  intro h
  have hnone : decodeUtf8 ⟨#[0xff]⟩ = none := by decide +kernel
  have hstores : Stores asciiPlatform (scanner Raised).decode addressEngine ℚ (supportParser 1)
      storingOptions supportClock "support.jsonl".toList ⟨#[0xff]⟩ [] := by
    intro a request text _ _ htext
    rw [hnone] at htext
    cases htext
  obtain ⟨report, t, hrun, -⟩ := h _ _ _ _ _ _ _ _ _ caseless_scanner hstores
  obtain ⟨_, -, hrun⟩ := Effect.run_lift_bind_eq_ok.mp hrun
  exact (exists_validateJsonl hstores).mp ⟨report, t, hrun⟩ ⟨rfl, rfl, rfl⟩ hnone

end Example

end DataForge.Plugins.TextOcr.TotalValidation
