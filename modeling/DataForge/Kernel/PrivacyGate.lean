import DataForge.Adapters.RegistryRuns
import DataForge.Kernel.ExportPackage
import DataForge.Plugins.TextOcr.RedactedJsonl
import Mathlib.Data.List.Forall2

namespace DataForge.Kernel.PrivacyGate

open DataForge.Foundation.Strings
open DataForge.Foundation.Lines
open DataForge.Foundation.Dictionary
open DataForge.Foundation.Json
open DataForge.Foundation.JsonReader
open DataForge.Foundation.Scores
open DataForge.Foundation.Sha256
open DataForge.Foundation.Outcome
open DataForge.Foundation.Runs
open DataForge.Domain.Common
open DataForge.Domain.Artifact
open DataForge.Domain.TextOcr
open DataForge.Domain.ExportPackage
open DataForge.Adapters.ObjectStorage
open DataForge.Adapters.ArtifactRegistry
open DataForge.Adapters.RegistryRuns
open DataForge.Adapters.HonestStore
open DataForge.Kernel.ExportPackage
open DataForge.Plugins.TextOcr.Pii
open DataForge.Plugins.TextOcr.Validator
open DataForge.Plugins.TextOcr.RedactedJsonl

structure SourcePayload where
  parser : TextRecordParser
  options : ValidateOptions
  clock : Clock
  sourceName : Text
  data : Bytes

section Gate

variable (p : Platform) (loads : Text → Option Value) (engine : PatternEngine) (F : Type)
  [MetricLike F]

def validate (payload : SourcePayload) : Effect Raised S3Objects (TextOcrSourceReport F) :=
  validateJsonl p loads engine payload.parser payload.options payload.clock payload.sourceName
    payload.data

def validateAll : List SourcePayload → Effect Raised S3Objects (List (TextOcrSourceReport F))
  | [] => pure []
  | payload :: payloads => do
    let report ← validate p loads engine F payload
    let reports ← validateAll payloads
    pure (report :: reports)

/-- The validator keeps a record of the source in which something is found. -/
def CountsPii (payload : SourcePayload) : Prop :=
  ∃ source, decodeUtf8 payload.data = some source ∧ ∃ record : ParsedRecord F,
    Keeps p loads payload.parser (splitLines source) record ∧ HasPii engine record.rawText

/-- The report names an object that is there and has a line with the object id and the
redacted text of every record that was counted. -/
def Redacted (objects : S3Objects) (payload : SourcePayload)
    (report : TextOcrSourceReport F) : Prop :=
  ∃ a key obj text, payload.options.registry = some a ∧
    report.redactedArtifactUri = some (a.uriForKey key) ∧
    get? (a.bucketName, key) objects = some obj ∧ decodeUtf8 obj.body = some text ∧
    ∀ record : ParsedRecord F, record ∈ (walkJsonl p loads payload.parser payload.data).records →
      HasPii engine record.rawText →
      redactedLine (redactRecord engine F record.objectId.1 record.rawText) ∈ splitLines text

/-- The redacted output of a source. -/
def RedactedOutput (payload : SourcePayload) (bytes : Bytes) : Prop :=
  ∃ source, decodeUtf8 payload.data = some source ∧
    bytes = encodeUtf8 (redactedText true (redactedRecords loads engine F source))

variable {p loads engine F}

theorem lowerKeys_redactedSave (request : TextOcrBuildRequest) (sourceKind : TextOcrSourceKind)
    (sourceName : Text) (data : Bytes) (count : Nat) :
    LowerKeys p (redactedSave request sourceKind sourceName data count).metadata := by
  have hascii : ∀ k ∈ ["source-kind".toList, "source-name".toList, "redacted-record-count".toList,
      "parent-version-id".toList], (k.all fun c => decide (c.toNat < 128)) = true ∧
        k.map Char.toLower = k := forall_mem_of_all (by decide)
  intro k hk
  obtain ⟨hall, hlower⟩ := hascii k hk
  rw [p.lower_ascii k (by simpa using hall), hlower]

/-- The second pass redacts every record that the first one keeps. -/
theorem redactRecord_mem_risky {parser : TextRecordParser} {source : Text} {record : ParsedRecord F}
    (hkeeps : Keeps p loads parser (splitLines source) record)
    (hpii : HasPii engine record.rawText) :
    redactRecord engine F record.objectId.1 record.rawText ∈
      risky (redactedRecords loads engine F source) := by
  obtain ⟨before, line, after, hlines, ⟨hblank, payload, hread, haccepts⟩, -⟩ := hkeeps
  refine List.mem_filter.mpr ⟨List.mem_map.mpr ⟨(record.objectId.1, record.rawText), ?_, rfl⟩, ?_⟩
  · refine List.mem_filterMap.mpr ⟨line, by simp [hlines], ?_⟩
    rw [textRecord, if_neg hblank, hread]
    simp only [haccepts.objectId, haccepts.text]
  · exact decide_eq_true ((redactRecord_pos_iff engine _ _).mpr hpii)

theorem risky_walk_ne_nil_iff {parser : TextRecordParser} {data : Bytes} :
    risky ((walkJsonl p loads parser data).records.map fun record : ParsedRecord F =>
        redactRecord engine F record.objectId.1 record.rawText) ≠ [] ↔
      ∃ record : ParsedRecord F, record ∈ (walkJsonl p loads parser data).records ∧
        HasPii engine record.rawText := by
  rw [risky, ne_eq, List.filter_eq_nil_iff]
  simp [← tokenCount_pos_iff, redactRecord, Nat.pos_iff_ne_zero]

theorem countsPii_iff {payload : SourcePayload} : CountsPii p loads engine F payload ↔
    ∃ record : ParsedRecord F,
      record ∈ (walkJsonl p loads payload.parser payload.data).records ∧
        HasPii engine record.rawText := by
  rw [CountsPii]
  cases hdecode : decodeUtf8 payload.data with
  | none => simp [walkJsonl, hdecode]
  | some source => simp [mem_walkJsonl_iff hdecode]

/-- What is true of a report in a store that holds the output of its validation. -/
structure Validated (p : Platform) (loads : Text → Option Value) (engine : PatternEngine) (F : Type)
    [MetricLike F] (payload : SourcePayload) (report : TextOcrSourceReport F)
    (objects : S3Objects) : Prop where
  balanced : report.redactedRecordCount = report.piiRecordCount
  counted : 0 < report.piiRecordCount ↔ CountsPii p loads engine F payload
  stored : payload.options.registry.isSome = true → payload.options.buildRequest.isSome = true →
    CountsPii p loads engine F payload → Redacted p loads engine F objects payload report
  unstored : payload.options.registry = none ∨ payload.options.buildRequest = none →
    report.redactedArtifactUri = none

theorem validated {inPlay : Bytes → Prop} {payload : SourcePayload} {report : TextOcrSourceReport F}
    {s t : S3Objects} (hpii : payload.options.detectPii = true) (hhonest : Honest p inPlay s)
    (hdata : ∀ bytes, RedactedOutput loads engine F payload bytes → inPlay bytes)
    (hsha : ∀ x y, inPlay x → inPlay y → sha256 x = sha256 y → x = y)
    (hrun : (validate p loads engine F payload).run s = (.ok report, t)) :
    Honest p inPlay t ∧ (∀ k obj, get? k s = some obj → get? k t = some obj) ∧
      Validated p loads engine F payload report t := by
  obtain ⟨findings, recordCount, tokens, persisted, haggregate, hpersists, rfl⟩ :=
    validateJsonl_eq_ok hpii hrun
  obtain ⟨-, hcount, -⟩ := aggregatePii_eq_ok haggregate
  have hcounted : 0 < recordCount ↔ CountsPii p loads engine F payload := by
    rw [hcount, List.length_pos_iff, risky_walk_ne_nil_iff, countsPii_iff]
  cases hregistry : payload.options.registry with
  | none =>
    obtain ⟨rfl, rfl⟩ := hpersists.missing (Or.inl hregistry)
    exact ⟨hhonest, fun _ _ h => h, rfl, hcounted, by simp [hregistry], fun _ => rfl⟩
  | some a =>
    cases hrequest : payload.options.buildRequest with
    | none =>
      obtain ⟨rfl, rfl⟩ := hpersists.missing (Or.inr hrequest)
      exact ⟨hhonest, fun _ _ h => h, rfl, hcounted, by simp [hrequest], fun _ => rfl⟩
    | some request =>
      have hunstored :
          ¬ (payload.options.registry = none ∨ payload.options.buildRequest = none) := by
        simp [hregistry, hrequest]
      obtain ⟨source, hdecode, ⟨hempty, rfl, rfl⟩ | ⟨artifact, rfl, hsave⟩⟩ :=
        persistRedactedJsonl_eq_ok (hpersists.supplied a request hregistry hrequest)
      · refine ⟨hhonest, fun _ _ h => h, rfl, hcounted, fun _ _ hpii => ?_,
          fun h => (hunstored h).elim⟩
        obtain ⟨source', hdecode', record, hkeeps, hhas⟩ := hpii
        obtain rfl := Option.some.inj (hdecode.symm.trans hdecode')
        exact absurd hempty (List.ne_nil_of_mem (redactRecord_mem_risky hkeeps hhas))
      · let call : SaveCall :=
          ⟨redactedSave request payload.parser.sourceKind payload.sourceName
            (encodeUtf8 (redactedText true (redactedRecords loads engine F source)))
            (risky (redactedRecords loads engine F source)).length, payload.clock⟩
        have hcall : (save p a call).run s = (.ok artifact, t) := hsave
        have hlower : LowerKeys p call.request.metadata := lowerKeys_redactedSave _ _ _ _ _
        have hbytes : inPlay call.request.data := hdata _ ⟨source, hdecode, rfl⟩
        have hhonest' : Honest p inPlay t := by
          have h := save_honest (a := a) hbytes hlower hhonest
          rwa [hcall] at h
        obtain ⟨key, obj, huri, hobj, hbody⟩ :=
          save_stored (a := a) hhonest (congrArg Prod.fst hcall)
        rw [hcall] at hobj
        have hsame : obj.body = call.request.data := hsha _ _ (hhonest' _ _ hobj).1 hbytes hbody
        refine ⟨hhonest', fun k obj hk => ?_, rfl, hcounted, fun _ _ _ => ?_,
          fun h => (hunstored h).elim⟩
        · have h := @save_keeps p a call s k obj hk
          rwa [hcall] at h
        · refine ⟨a, key, obj, redactedText true (redactedRecords loads engine F source),
            hregistry, ?_, hobj, hsame ▸ decodeUtf8_encodeUtf8 _, fun record hrecord hhas => ?_⟩
          · exact congrArg some huri
          · rw [splitLines_redactedText]
            exact List.mem_map_of_mem
              (redactRecord_mem_risky ((mem_walkJsonl_iff hdecode).mp hrecord) hhas)

theorem redacted_mono {payload : SourcePayload} {report : TextOcrSourceReport F} {s t : S3Objects}
    (hkeeps : ∀ k obj, get? k s = some obj → get? k t = some obj)
    (h : Redacted p loads engine F s payload report) :
    Redacted p loads engine F t payload report := by
  obtain ⟨a, key, obj, text, hregistry, huri, hobj, hrest⟩ := h
  exact ⟨a, key, obj, text, hregistry, huri, hkeeps _ _ hobj, hrest⟩

/-- The run: what each validation leaves is still there at the end. -/
theorem validateAll_validated {inPlay : Bytes → Prop}
    (hsha : ∀ x y, inPlay x → inPlay y → sha256 x = sha256 y → x = y)
    {payloads : List SourcePayload} {reports : List (TextOcrSourceReport F)} {s t : S3Objects}
    (hpii : ∀ payload ∈ payloads, payload.options.detectPii = true) (hhonest : Honest p inPlay s)
    (hdata : ∀ payload ∈ payloads, ∀ bytes, RedactedOutput loads engine F payload bytes →
      inPlay bytes)
    (hrun : (validateAll p loads engine F payloads).run s = (.ok reports, t)) :
    (∀ k obj, get? k s = some obj → get? k t = some obj) ∧
      List.Forall₂ (fun payload report => Validated p loads engine F payload report t)
        payloads reports := by
  induction payloads generalizing s reports with
  | nil =>
    obtain ⟨hreports, rfl⟩ := Prod.mk.inj hrun
    obtain rfl := Except.ok.inj hreports
    exact ⟨fun _ _ h => h, List.Forall₂.nil⟩
  | cons payload payloads ih =>
    obtain ⟨report, u, hfirst, hrun⟩ := Effect.run_bind_eq_ok.mp hrun
    obtain ⟨rest, v, hrest, hrun⟩ := Effect.run_bind_eq_ok.mp hrun
    obtain ⟨hreports, rfl⟩ := Prod.mk.inj hrun
    obtain rfl := Except.ok.inj hreports
    obtain ⟨hhonest, hfirstKeeps, hvalidated⟩ :=
      validated (hpii payload (by simp)) hhonest (hdata payload (by simp)) hsha hfirst
    obtain ⟨hkeeps, hall⟩ := ih (fun x hx => hpii x (by simp [hx])) hhonest
      (fun x hx => hdata x (by simp [hx])) hrest
    refine ⟨fun k obj h => hkeeps k obj (hfirstKeeps k obj h), List.Forall₂.cons ?_ hall⟩
    exact { hvalidated with
      stored := fun ha hr hc => redacted_mono hkeeps (hvalidated.stored ha hr hc) }

/-- The gate passes on whatever the validator reports. -/
theorem privacyGate_passed {reports : List (TextOcrSourceReport F)}
    (h : ∀ report ∈ reports, report.redactedRecordCount = report.piiRecordCount) :
    (privacyGate (some (buildTextOcrReport reports).toTextOcrReport)).status = .passed := by
  have hsame : (buildTextOcrReport reports).totalRedactedRecordCount =
      (buildTextOcrReport reports).totalPiiRecordCount :=
    congrArg List.sum (List.map_congr_left h)
  rw [privacyGate, if_neg (by omega)]
  rfl

/-- A passing gate promises the redacted artifact of each source with findings. -/
def GateMeansRedacted (p : Platform) (loads : Text → Option Value) (engine : PatternEngine)
    (payloads : List SourcePayload) (reports : List (TextOcrSourceReport F)) (objects : S3Objects) :
    Prop :=
  (privacyGate (some (buildTextOcrReport reports).toTextOcrReport)).status = .passed →
    ∀ checked ∈ payloads.zip reports, 0 < checked.2.piiRecordCount →
      Redacted p loads engine F objects checked.1 checked.2

/-- The bytes of a run: what was saved before it and what it redacts. -/
def InPlay (loads : Text → Option Value) (engine : PatternEngine) (F : Type) [MetricLike F]
    (saves : List (MinioObjectStorageAdapter × SaveCall)) (payloads : List SourcePayload)
    (bytes : Bytes) : Prop :=
  (∃ call ∈ saves, bytes = call.2.request.data) ∨
    ∃ payload ∈ payloads, RedactedOutput loads engine F payload bytes

end Gate

section Examples

def sampleRequest : TextOcrBuildRequest :=
  ⟨literal "d", literal "v2", literal "v1", literal "job-1", zeroDigest⟩

/-- A source that is validated without a registry. -/
def samplePayload (source : String) : SourcePayload where
  parser := supportParser 1
  options := ⟨true, none, some sampleRequest⟩
  clock := ⟨⟨0, some 0⟩, none⟩
  sourceName := "support.jsonl".toList
  data := source.toUTF8

def cleanSource : String := "\x7b\"object_id\":\"m1\",\"text\":\"hi\"\x7d"

def addressSource : String := "\x7b\"object_id\":\"m1\",\"text\":\"a@b.co\"\x7d"

def sampleRun (source : String) : Result (List (TextOcrSourceReport ℚ)) × S3Objects :=
  (validateAll asciiPlatform loads addressEngine ℚ [samplePayload source]).run []

/-- The counted records of a run, with what its reports say of stored outputs. -/
def sampleOutcome (source : String) : Option (List (Nat × Bool)) :=
  match (sampleRun source).1 with
  | .ok reports => some (reports.map fun report =>
      (report.piiRecordCount, report.redactedArtifactUri.isSome))
  | .error _ => none

theorem sampleRun_of_outcome {source : String} {outcome : List (Nat × Bool)}
    (h : sampleOutcome source = some outcome) : ∃ reports t, sampleRun source = (.ok reports, t) ∧
      reports.map (fun report => (report.piiRecordCount, report.redactedArtifactUri.isSome)) =
        outcome := by
  rw [sampleOutcome] at h
  cases hrun : sampleRun source with
  | mk result t =>
    cases result with
    | error e => simp [hrun] at h
    | ok reports =>
      rw [hrun] at h
      exact ⟨reports, t, rfl, Option.some.inj h⟩

theorem inPlay_unique {source : String} {x y : Bytes}
    (hx : InPlay loads addressEngine ℚ [] [samplePayload source] x)
    (hy : InPlay loads addressEngine ℚ [] [samplePayload source] y) : x = y := by
  have hout : ∀ bytes, InPlay loads addressEngine ℚ [] [samplePayload source] bytes →
      RedactedOutput loads addressEngine ℚ (samplePayload source) bytes := by
    rintro bytes (⟨_, hcall, -⟩ | ⟨payload, hpayload, hbytes⟩)
    · simp at hcall
    · rwa [List.mem_singleton.mp hpayload] at hbytes
  obtain ⟨text, htext, rfl⟩ := hout x hx
  obtain ⟨text', htext', rfl⟩ := hout y hy
  rw [Option.some.inj (htext.symm.trans htext')]

end Examples

end DataForge.Kernel.PrivacyGate
