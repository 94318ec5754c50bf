import DataForge.Ingestion.ManifestArtifact

namespace DataForge.Ingestion.BuildableLines

open DataForge.Foundation.Strings
open DataForge.Foundation.Lines
open DataForge.Foundation.Dictionary
open DataForge.Foundation.Grouping
open DataForge.Foundation.Json
open DataForge.Foundation.JsonReader
open DataForge.Foundation.JsonErrors
open DataForge.Foundation.Sha256
open DataForge.Foundation.Outcome
open DataForge.Foundation.Failures
open DataForge.Foundation.Tables
open DataForge.Domain.Common
open DataForge.Domain.Artifact
open DataForge.Domain.Evidence
open DataForge.Adapters.ArtifactRegistry
open DataForge.Ingestion.ArchiveReader
open DataForge.Ingestion.ManifestBuilder hiding BuildManifestResult buildAssetManifest entryOutcomes
  buildJsonlRows jsonlEntry
open DataForge.Ingestion.TabularRows
open DataForge.Ingestion.ManifestArtifact
open DataForge.Kernel.Policy

section Rows

variable (json : JsonModule Raised) (request : BuildManifestRequest)

/-- The version id fits into a URI. -/
def UriVersion : Prop := ∀ c ∈ request.versionId.1, isWhiteSpace c = false

/-- A record's id is a text that can be encoded, unless the line number stands in for it. -/
def KeyText (payload : Dict Text Value) : Prop :=
  ∀ v, get? "object_id".toList payload = some v → truthy v = true →
    ∃ id, v = .str id ∧ json.Encodes id

variable {json request}

theorem uriPattern_manifestAssetUri {sourceSystem : Text} {objectId : NonEmptyStr}
    (hsource : ∀ c ∈ sourceSystem, isWhiteSpace c = false)
    (hid : ∀ c ∈ objectId.1, isWhiteSpace c = false) :
    UriPattern (manifestAssetUri request sourceSystem objectId.1) ↔ UriVersion request := by
  have hrest : ∀ c ∈ "dataforge-manifest/versions/".toList ++ "/objects/".toList,
      isWhiteSpace c = false := by decide
  have huri : manifestAssetUri request sourceSystem objectId.1 = "s3://".toList ++
      ("dataforge-manifest/versions/".toList ++ request.versionId.1 ++ "/objects/".toList ++
        sourceSystem ++ '/' :: objectId.1) := rfl
  rw [huri]
  constructor
  · rintro ⟨rest, h, -, hspace⟩ c hc
    apply hspace
    rw [← List.append_cancel_left h]
    simp [hc]
  · intro hversion
    refine ⟨_, rfl, by simp, fun c hc => ?_⟩
    simp only [List.mem_append, List.mem_cons] at hc
    rcases hc with (((hc | hc) | hc) | hc) | rfl | hc
    · exact hrest c (List.mem_append_left _ hc)
    · exact hversion c hc
    · exact hrest c (List.mem_append_right _ hc)
    · exact hsource c hc
    · rfl
    · exact hid c hc

theorem isWhiteSpace_deriveObjectId (version rowKey : Text) (hash : Sha256Digest) :
    ∀ c ∈ (deriveObjectId version rowKey hash).1, isWhiteSpace c = false := by
  intro c hc
  have hprefix : ∀ c ∈ "obj_".toList, isWhiteSpace c = false := by decide
  have hdigits : ∀ c ∈ hexDigits, isWhiteSpace c = false := by decide
  rcases List.mem_append.mp hc with hc | hc
  · exact hprefix c hc
  · exact hdigits c (mem_hexdigest (List.mem_of_mem_take hc))

/-- A row is refused only for its URI. -/
theorem exists_manifestRow {modality : DataModality} {sourceSystem version rowKey : Text}
    {hash key : Sha256Digest} {metadata : Dict Text Value}
    (hsource : ∀ c ∈ sourceSystem, isWhiteSpace c = false) :
    (∃ row, manifestRow request modality sourceSystem (deriveObjectId version rowKey key) hash
      metadata = .ok row) ↔ UriVersion request := by
  rw [← uriPattern_manifestAssetUri hsource (isWhiteSpace_deriveObjectId version rowKey key)]
  constructor
  · rintro ⟨row, h⟩
    obtain ⟨uri, huri, -⟩ := bind_eq_ok.mp h
    exact field_eq_ok.mp huri ▸ uri.2
  · intro huri
    exact ⟨_, bind_eq_ok.mpr ⟨_, field_of_holds huri, rfl⟩⟩

theorem manifestRow_eq_ok {modality : DataModality} {sourceSystem : Text} {objectId : NonEmptyStr}
    {hash : Sha256Digest} {metadata : Dict Text Value} {row : ManifestRow}
    (h : manifestRow request modality sourceSystem objectId hash metadata = .ok row) :
    row.modality = modality ∧ row.hash = hash := by
  obtain ⟨uri, -, h⟩ := bind_eq_ok.mp h
  obtain rfl := Except.ok.inj h
  exact ⟨rfl, rfl⟩

end Rows

section Tabular

variable {request : BuildManifestRequest}

theorem dictRow_cells_eq_nil {header values : List Text} :
    (dictRow header values).cells = [] ↔ header = [] := by
  constructor
  · intro h
    cases header with
    | nil => rfl
    | cons name header =>
      have hkey : name ∈ ((dictRow (name :: header) values).cells).map Prod.fst :=
        mem_keys_update.mpr (.inr (by simp))
      rw [h] at hkey
      cases hkey
  · rintro rfl
    rfl

theorem exists_record {header values : List Text} :
    (∃ record, (dictRow header values).record = .ok record) ↔
      values.length ≤ header.length ∨ header = [] := by
  have hrest : (dictRow header values).rest = [] ↔ values.length ≤ header.length :=
    List.drop_eq_nil_iff
  have hempty : (dictRow header values).cells = [] ↔ header = [] := dictRow_cells_eq_nil
  rw [← hrest, ← hempty]
  by_cases h : (dictRow header values).rest = []
  · exact ⟨fun _ => .inl h, fun _ => ⟨_, if_pos h⟩⟩
  · by_cases hcells : (dictRow header values).cells = []
    · exact ⟨fun _ => .inr hcells, fun _ => ⟨_, by rw [DictRow.record, if_neg h, if_pos hcells]⟩⟩
    · rw [DictRow.record, if_neg h, if_neg hcells]
      exact ⟨fun ⟨_, hok⟩ => (by cases hok), fun hor => absurd hor (by simp [h, hcells])⟩

/-- A line makes a row unless it is longer than a header that has names. -/
theorem exists_tabularRow {header values : List Text} :
    (∃ row, tabularRow request (dictRow header values) = .ok row) ↔
      (values.length ≤ header.length ∨ header = []) ∧ UriVersion request := by
  have hsource : ∀ c ∈ tabularSource, isWhiteSpace c = false := by decide
  rw [← exists_record]
  constructor
  · rintro ⟨row, h⟩
    obtain ⟨record, hok, h⟩ := bind_eq_ok.mp h
    obtain ⟨built, hbuilt, -⟩ := bind_eq_ok.mp h
    exact ⟨⟨record, hok⟩, (exists_manifestRow hsource).mp ⟨built, hbuilt⟩⟩
  · rintro ⟨⟨record, hok⟩, hversion⟩
    obtain ⟨built, hbuilt⟩ := (exists_manifestRow hsource).mpr hversion
    exact ⟨_, bind_eq_ok.mpr ⟨record, hok, bind_eq_ok.mpr ⟨built, hbuilt, rfl⟩⟩⟩

/-- A row of the manifest that comes from this line of a table. -/
def TabularRowOf (line : DictRow) (outcome : JsonlOutcome) : Prop :=
  ∃ row record, outcome = .row row ∧ row.modality = .tabular ∧ line.record = .ok record ∧
    row.hash = computeRecordSha256 record

theorem tabularRow_of {line : DictRow} {row : ManifestRow} (h : tabularRow request line = .ok row) :
    TabularRowOf line (.row row) := by
  obtain ⟨record, hrecord, h⟩ := bind_eq_ok.mp h
  obtain ⟨built, hbuilt, h⟩ := bind_eq_ok.mp h
  obtain rfl := Except.ok.inj h
  obtain ⟨hmodality, hhash⟩ := manifestRow_eq_ok hbuilt
  exact ⟨_, record, rfl, hmodality, hrecord, hhash⟩

end Tabular

section Lines

variable {json : JsonModule Raised} {request : BuildManifestRequest} {modality : DataModality}
  {sourceSystem : Text} {d : ArchiveFileDescriptor}

theorem sourceObjectId_eq_some {payload : Dict Text Value} {id : Text} :
    sourceObjectId payload = some id ↔ get? "object_id".toList payload =
      some (.str id) ∧ id ≠ [] := by
  rw [sourceObjectId]
  split
  · next c s h =>
    rw [h]
    constructor
    · intro hid
      obtain rfl := Option.some.inj hid
      exact ⟨rfl, List.cons_ne_nil c s⟩
    · rintro ⟨hid, -⟩
      simpa using hid
  · next hother =>
    refine iff_of_false (by simp) ?_
    rintro ⟨hid, hne⟩
    obtain ⟨c, s, rfl⟩ := List.exists_cons_of_ne_nil hne
    exact hother c s hid

theorem encodeRowKey_eq_ok {payload : Dict Text Value} :
    encodeRowKey json payload = .ok () ↔ ∀ id, sourceObjectId payload =
      some id → json.Encodes id := by
  rw [encodeRowKey]
  cases sourceObjectId payload with
  | none => simp
  | some id => simp [guardOk_eq_ok]

theorem exists_jsonlRowKey {payload : Dict Text Value} {fallback : Text} :
    (∃ key, jsonlRowKey payload fallback = .ok key) ↔
      ∀ v, get? "object_id".toList payload = some v → truthy v = true → ∃ id, v = .str id := by
  rw [jsonlRowKey]
  split
  · next h => exact iff_of_true ⟨_, rfl⟩ fun v hv => by rw [h] at hv; cases hv
  · next c s h =>
    refine iff_of_true ⟨_, rfl⟩ fun v hv _ => ⟨c :: s, ?_⟩
    rw [h] at hv
    exact (Option.some.inj hv).symm
  · next v hstr hv =>
    by_cases htrue : truthy v = true
    · rw [if_pos htrue]
      refine iff_of_false (by simp) fun hall => ?_
      obtain ⟨id, rfl⟩ := hall v hv htrue
      cases id with
      | nil => cases htrue
      | cons c s => exact hstr c s rfl
    · rw [if_neg htrue]
      refine iff_of_true ⟨_, rfl⟩ fun w hw hwtrue => ?_
      rw [hv] at hw
      obtain rfl := Option.some.inj hw
      exact absurd hwtrue htrue

/-- A record makes a row where its id can be joined and encoded. -/
theorem exists_objectOutcome {n : Nat} {payload : Dict Text Value}
    (hsource : ∀ c ∈ sourceSystem, isWhiteSpace c = false) :
    (∃ outcome,
      recordOutcome json request modality sourceSystem d n (.object payload) = .ok outcome) ↔
      KeyText json payload ∧ UriVersion request := by
  have hkey : KeyText json payload ↔ encodeRowKey json payload = .ok () ∧
      ∃ key, jsonlRowKey payload (sourceSystem ++ ':' :: Nat.toDigits 10 n) = .ok key := by
    rw [encodeRowKey_eq_ok, exists_jsonlRowKey]
    constructor
    · intro h
      refine ⟨fun id hid => ?_, fun v hv htrue => ?_⟩
      · obtain ⟨hget, hne⟩ := sourceObjectId_eq_some.mp hid
        obtain ⟨id', hsame, hencodes⟩ := h _ hget (by cases id <;> simp_all [truthy])
        obtain rfl := Value.str.inj hsame
        exact hencodes
      · obtain ⟨id, hid, -⟩ := h v hv htrue
        exact ⟨id, hid⟩
    · rintro ⟨hencodes, hstr⟩ v hv htrue
      obtain ⟨id, rfl⟩ := hstr v hv htrue
      refine ⟨id, rfl, hencodes id (sourceObjectId_eq_some.mpr ⟨hv, ?_⟩)⟩
      rintro rfl
      cases htrue
  rw [hkey]
  constructor
  · rintro ⟨outcome, h⟩
    obtain ⟨_, hencode, h⟩ := bind_eq_ok.mp h
    rw [jsonlOutcome] at h
    cases hrow : jsonlRow request modality sourceSystem n payload with
    | error e =>
      rw [hrow] at h
      cases h
    | ok row =>
      obtain ⟨key, hok, hrow⟩ := bind_eq_ok.mp hrow
      exact ⟨⟨hencode, key, hok⟩, (exists_manifestRow hsource).mp ⟨row, hrow⟩⟩
  · rintro ⟨⟨hencode, key, hok⟩, hversion⟩
    have hbuilds : ∃ row, jsonlRow request modality sourceSystem n payload = .ok row := by
      obtain ⟨row, hrow⟩ := (exists_manifestRow hsource).mpr hversion
      exact ⟨row, bind_eq_ok.mpr ⟨key, hok, hrow⟩⟩
    obtain ⟨row, hbuilt⟩ := hbuilds
    exact ⟨_, bind_eq_ok.mpr ⟨_, hencode, by rw [jsonlOutcome, hbuilt]; rfl⟩⟩

/-- What a line has to be: no trouble for the decoder, and a record only with such an id. -/
def LineBuildable (json : JsonModule Raised) (request : BuildManifestRequest)
    (line : Text) : Prop :=
  ¬ json.Raises line ∧ ∀ payload, JsonlRecord.read json.decode line = .object payload →
    KeyText json payload ∧ UriVersion request

theorem exists_lineOutcome {numbered : Text × Nat}
    (hsource : ∀ c ∈ sourceSystem, isWhiteSpace c = false) :
    (∃ outcome, lineOutcome json request modality sourceSystem d numbered = .ok outcome) ↔
      LineBuildable json request numbered.1 := by
  have hread : (∃ outcome, recordOutcome json request modality sourceSystem d numbered.2
      (JsonlRecord.read json.decode numbered.1) = .ok outcome) ↔
        ∀ payload, JsonlRecord.read json.decode numbered.1 = .object payload →
          KeyText json payload ∧ UriVersion request := by
    cases JsonlRecord.read json.decode numbered.1 with
    | invalid | notObject => exact iff_of_true ⟨_, rfl⟩ fun payload h => (by cases h)
    | object payload =>
      rw [exists_objectOutcome hsource]
      exact ⟨fun h other hother => (JsonlRecord.object.inj hother) ▸ h, fun h => h payload rfl⟩
  rw [LineBuildable, ← hread]
  constructor
  · rintro ⟨outcome, h⟩
    obtain ⟨record, hrecord, h⟩ := bind_eq_ok.mp h
    obtain ⟨hraises, rfl⟩ := JsonModule.read_eq_ok.mp hrecord
    exact ⟨hraises, outcome, h⟩
  · rintro ⟨hraises, outcome, h⟩
    exact ⟨outcome, bind_eq_ok.mpr ⟨_, JsonModule.read_eq_ok.mpr ⟨hraises, rfl⟩, h⟩⟩

/-- The row or the unsupported entry of a line: it has the digest of the record, or the
number of the line and why it holds none. -/
def LineOutcomeOf (json : JsonModule Raised) (modality : DataModality) (d : ArchiveFileDescriptor)
    (numbered : Text × Nat) (outcome : JsonlOutcome) : Prop :=
  outcome.Of (JsonlRecord.read json.decode numbered.1) ∧
    (∀ row, outcome = .row row → row.modality = modality) ∧
    ∀ entry, outcome = .unsupported entry → entry.name = d.name ∧ entry.lineNumber = some numbered.2

theorem lineOutcome_of {numbered : Text × Nat} {outcome : JsonlOutcome}
    (h : lineOutcome json request modality sourceSystem d numbered = .ok outcome) :
    LineOutcomeOf json modality d numbered outcome := by
  have hok := jsonlOutcome_of_lineOutcome h
  refine ⟨jsonlOutcome_of hok, ?_, ?_⟩
  · rintro row rfl
    cases hread : JsonlRecord.read json.decode numbered.1 with
    | invalid | notObject =>
      rw [hread] at hok
      cases hok
    | object payload =>
      rw [hread, jsonlOutcome] at hok
      cases hrow : jsonlRow request modality sourceSystem numbered.2 payload with
      | error e =>
        rw [hrow] at hok
        cases hok
      | ok built =>
        rw [hrow] at hok
        obtain rfl := JsonlOutcome.row.inj (Except.ok.inj hok)
        obtain ⟨key, -, hrow⟩ := bind_eq_ok.mp hrow
        exact (manifestRow_eq_ok hrow).1
  · rintro entry rfl
    cases hread : JsonlRecord.read json.decode numbered.1 with
    | invalid | notObject =>
      rw [hread] at hok
      obtain rfl := JsonlOutcome.unsupported.inj (Except.ok.inj hok)
      exact ⟨rfl, rfl⟩
    | object payload =>
      rw [hread, jsonlOutcome] at hok
      cases hrow : jsonlRow request modality sourceSystem numbered.2 payload with
      | error e =>
        rw [hrow] at hok
        cases hok
      | ok built =>
        rw [hrow] at hok
        cases hok

end Lines

end DataForge.Ingestion.BuildableLines
