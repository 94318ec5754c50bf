import DataForge.Domain.Splits
import DataForge.Foundation.JsonSchema
import DataForge.Ingestion.TabularRows

namespace DataForge.Ingestion.ManifestRows

open DataForge.Foundation.Strings
open DataForge.Foundation.Dictionary
open DataForge.Foundation.Canonical
open DataForge.Foundation.Outcome
open DataForge.Foundation.Json
open DataForge.Foundation.JsonRoundTrip
open DataForge.Foundation.JsonSchema
open DataForge.Foundation.JsonModels
open DataForge.Domain.Common
open DataForge.Domain.Evidence
open DataForge.Domain.Splits

section Model

structure ManifestLineage where
  sourceArtifactId : NonEmptyStr
  parentVersionId : NonEmptyStr
  createdByJobId : NonEmptyStr
  configHash : Sha256Digest

structure ManifestRow where
  objectId : NonEmptyStr
  datasetId : NonEmptyStr
  versionId : NonEmptyStr
  modality : DataModality
  assetUri : S3Uri
  hash : Sha256Digest
  metadata : Dict Text Value
  lineage : ManifestLineage
  annotationUri : Option S3Uri
  label : Option Text
  split : Option DataSplit
  sourceSystem : Option Text
  embeddingRefs : Dict Text Text

def modalityValue : DataModality → Text
  | .tabular => "tabular".toList
  | .text => "text".toList
  | .image => "image".toList
  | .video => "video".toList
  | .audio => "audio".toList
  | .documentOcr => "document_ocr".toList
  | .multimodal => "multimodal".toList

def modalities : List DataModality :=
  [.tabular, .text, .image, .video, .audio, .documentOcr, .multimodal]

def splits : List DataSplit := [.train, .validation, .test, .holdout, .unknown]

def nonEmptyStr : Check NonEmptyStr := constrained (· ≠ []) "string_too_short"

def s3Uri : Check S3Uri := constrained UriPattern "string_pattern_mismatch"

def digest : Check Sha256Digest := constrained DigestPattern "string_pattern_mismatch"

def lineageFields : List Text :=
  ["source_artifact_id".toList, "parent_version_id".toList, "created_by_job_id".toList,
    "config_hash".toList]

def ManifestLineage.modelValidate : Check ManifestLineage
  | .obj ms => do
    let sourceArtifactId ← requiredField ms "source_artifact_id".toList nonEmptyStr
    let parentVersionId ← requiredField ms "parent_version_id".toList nonEmptyStr
    let createdByJobId ← requiredField ms "created_by_job_id".toList nonEmptyStr
    let configHash ← requiredField ms "config_hash".toList digest
    forbidExtra ms lineageFields
    pure ⟨sourceArtifactId, parentVersionId, createdByJobId, configHash⟩
  | _ => fail "model_type"

def rowFields : List Text :=
  ["object_id".toList, "dataset_id".toList, "version_id".toList, "modality".toList,
    "asset_uri".toList, "hash".toList, "metadata".toList, "lineage".toList,
    "annotation_uri".toList, "label".toList, "split".toList, "source_system".toList,
    "embedding_refs".toList]

def ManifestRow.modelValidate (ms : Dict Text Value) : Except ModelError ManifestRow := do
  let objectId ← requiredField ms "object_id".toList nonEmptyStr
  let datasetId ← requiredField ms "dataset_id".toList nonEmptyStr
  let versionId ← requiredField ms "version_id".toList nonEmptyStr
  let modality ← requiredField ms "modality".toList (choice modalities modalityValue)
  let assetUri ← requiredField ms "asset_uri".toList s3Uri
  let hash ← requiredField ms "hash".toList digest
  let metadata ← defaultField ms "metadata".toList [] checkDict
  let lineage ← requiredField ms "lineage".toList ManifestLineage.modelValidate
  let annotationUri ← defaultField ms "annotation_uri".toList none (nullable s3Uri)
  let label ← defaultField ms "label".toList none (nullable checkText)
  let split ← defaultField ms "split".toList none (nullable (choice splits DataSplit.value))
  let sourceSystem ← defaultField ms "source_system".toList none (nullable checkText)
  let embeddingRefs ← defaultField ms "embedding_refs".toList [] (mapping .ok checkText)
  forbidExtra ms rowFields
  pure ⟨objectId, datasetId, versionId, modality, assetUri, hash, metadata, lineage, annotationUri,
    label, split, sourceSystem, embeddingRefs⟩

/-- `model_dump(mode="json")`. -/
def ManifestLineage.modelDump (lineage : ManifestLineage) : Value :=
  .obj [("source_artifact_id".toList, .str lineage.sourceArtifactId.1),
    ("parent_version_id".toList, .str lineage.parentVersionId.1),
    ("created_by_job_id".toList, .str lineage.createdByJobId.1),
    ("config_hash".toList, .str lineage.configHash.1)]

def optionalText (o : Option Text) : Value := o.elim .null .str

def ManifestRow.modelDump (row : ManifestRow) : Dict Text Value :=
  [("object_id".toList, .str row.objectId.1), ("dataset_id".toList, .str row.datasetId.1),
    ("version_id".toList, .str row.versionId.1),
    ("modality".toList, .str (modalityValue row.modality)),
    ("asset_uri".toList, .str row.assetUri.1), ("hash".toList, .str row.hash.1),
    ("metadata".toList, .obj row.metadata), ("lineage".toList, row.lineage.modelDump),
    ("annotation_uri".toList, optionalText (row.annotationUri.map Subtype.val)),
    ("label".toList, optionalText row.label),
    ("split".toList, optionalText (row.split.map DataSplit.value)),
    ("source_system".toList, optionalText row.sourceSystem),
    ("embedding_refs".toList, .obj (row.embeddingRefs.map fun m => (m.1, .str m.2)))]

/-- `_row_to_json`. -/
def rowToJson (row : ManifestRow) : Text := dumps (.obj row.modelDump)

end Model

section Contract

/-- `re.search` with a pattern that ends in `$`, which also stands before a last newline. -/
def EndMatch (p : Text → Prop) (s : Text) : Prop :=
  p s ∨ s.getLast? = some '\n' ∧ p s.dropLast

instance (p : Text → Prop) [DecidablePred p] (s : Text) : Decidable (EndMatch p s) :=
  inferInstanceAs (Decidable (_ ∨ _))

/-- `^s3://[^\s]+$` where `\s` is what `str.isspace` says. -/
def UriText (s : Text) : Prop := UriPattern s ∧ ∀ c ∈ s, isSpace c = false

instance (s : Text) : Decidable (UriText s) := inferInstanceAs (Decidable (_ ∧ _))

def textSchema : Schema := keywords [type ["string"], onText "minLength" fun s => 1 ≤ s.length]

def uriKeyword : Schema := onText "pattern" (EndMatch UriText)

def digestSchema : Schema := keywords [type ["string"], onText "pattern" (EndMatch DigestPattern)]

def lineageProperties : List (Text × Schema) :=
  [("source_artifact_id".toList, textSchema), ("parent_version_id".toList, textSchema),
    ("created_by_job_id".toList, textSchema), ("config_hash".toList, digestSchema)]

def lineageSchema : Schema :=
  keywords [type ["object"], required lineageFields, closed lineageFields,
    properties lineageProperties]

def rowProperties : List (Text × Schema) :=
  [("object_id".toList, textSchema), ("dataset_id".toList, textSchema),
    ("version_id".toList, textSchema),
    ("modality".toList, keywords [type ["string"], enum (modalities.map (some ∘ modalityValue))]),
    ("asset_uri".toList, keywords [type ["string"], uriKeyword]),
    ("hash".toList, digestSchema), ("metadata".toList, keywords [type ["object"]]),
    ("lineage".toList, lineageSchema),
    ("annotation_uri".toList, keywords [type ["string", "null"], uriKeyword]),
    ("label".toList, keywords [type ["string", "null"]]),
    ("split".toList, keywords [type ["string", "null"],
      enum (splits.map (some ∘ DataSplit.value) ++ [none])]),
    ("source_system".toList, keywords [type ["string", "null"]]),
    ("embedding_refs".toList, keywords [type ["object"],
      additionalProperties [] (keywords [type ["string"]])])]

def requiredFields : List Text := rowFields.take 8

/-- `manifest_row.schema.json`. -/
def manifestRowSchema : Schema :=
  keywords [type ["object"], required requiredFields, closed rowFields, properties rowProperties]

end Contract

section Texts

variable {s : Text}

/-- The separators that `str.isspace` counts as white space and Unicode does not. -/
def isSeparator (c : Char) : Bool := 28 ≤ c.toNat && c.toNat ≤ 31

theorem newline_not_mem {p : Text → Prop} (hp : ∀ s, p s → '\n' ∉ s) (h : p s) :
    s.getLast? ≠ some '\n' :=
  fun hlast => hp s h (List.mem_of_getLast? hlast)

theorem newline_not_mem_uri {s : Text} (h : UriPattern s) : '\n' ∉ s := by
  obtain ⟨rest, rfl, -, hrest⟩ := h
  intro hmem
  obtain hmem | hmem := List.mem_append.mp hmem
  · exact absurd hmem (by decide)
  · exact absurd (hrest _ hmem) (by decide)

theorem newline_not_mem_digest {s : Text} (h : DigestPattern s) : '\n' ∉ s := by
  obtain ⟨hex, rfl, -, hhex⟩ := h
  intro hmem
  obtain hmem | hmem := List.mem_append.mp hmem
  · exact absurd hmem (by decide)
  · exact absurd (hhex _ hmem) (by decide)

theorem uriText_iff (h : UriPattern s) : UriText s ↔ ∀ c ∈ s, isSeparator c = false := by
  obtain ⟨rest, rfl, hne, hrest⟩ := h
  have hspace : ∀ c ∈ "s3://".toList ++ rest, isSpace c = isSeparator c := by
    intro c hc
    obtain hc | hc := List.mem_append.mp hc
    · have hall : ∀ c ∈ "s3://".toList, isSpace c = isSeparator c := forall_mem_of_all (by decide)
      exact hall c hc
    · rw [isSpace, hrest c hc, Bool.false_or, isSeparator]
  exact ⟨fun htext c hc => hspace c hc ▸ htext.2 c hc,
    fun hsep => ⟨⟨rest, rfl, hne, hrest⟩, fun c hc => (hspace c hc).trans (hsep c hc)⟩⟩

theorem endMatch_iff {p q : Text → Prop} (hq : ∀ s, q s → '\n' ∉ s) (h : q s) :
    EndMatch p s ↔ p s := by
  refine ⟨fun hmatch => hmatch.resolve_right ?_, .inl⟩
  rintro ⟨hlast, -⟩
  exact newline_not_mem hq h hlast

/-- What matches before a last newline, but not to the end, ends in one. -/
theorem holds_iff_of_endMatch {p q : Text → Prop} (hq : ∀ s, q s → '\n' ∉ s)
    (hpq : ∀ s, p s → q s) (h : EndMatch p s) : q s ↔ s.getLast? ≠ some '\n' := by
  refine ⟨newline_not_mem hq, fun hlast => ?_⟩
  obtain h | ⟨hend, -⟩ := h
  · exact hpq s h
  · exact absurd hend hlast

end Texts

section Fields

variable {v : Value} {ms : Dict Text Value}

theorem exists_constrained {p : Text → Prop} [DecidablePred p] {error : String} :
    (∃ s, constrained p error v = .ok s) ↔ ∃ s, v = .str s ∧ p s := by
  simp only [constrained_eq_ok]
  constructor
  · rintro ⟨s, rfl⟩
    exact ⟨s.1, rfl, s.2⟩
  · rintro ⟨s, rfl, hs⟩
    exact ⟨⟨s, hs⟩, rfl⟩

/-- A schema accepts a text with or without a last newline, a field only without. -/
theorem endMatch_check {p q : Text → Prop} [DecidablePred p] [DecidablePred q]
    (hq : ∀ s, q s → '\n' ∉ s) (hpq : ∀ s, p s → q s) {error : String}
    (h : keywords [type ["string"], onText "pattern" (EndMatch p)] v = []) :
    (∃ s, constrained q error v = .ok s) ↔ ∀ s, v = .str s → s.getLast? ≠ some '\n' := by
  obtain ⟨htype, hpattern, -⟩ := by
    simpa only [keywords_eq_nil, List.forall_mem_cons] using h
  rw [exists_constrained]
  cases v with
  | str s =>
    have hmatch := holds_iff_of_endMatch hq hpq (onText_eq_nil.mp hpattern)
    constructor
    · rintro ⟨t, ht, hqt⟩ _ hs
      obtain rfl := Value.str.inj ht
      obtain rfl := Value.str.inj hs
      exact hmatch.mp hqt
    · intro hlast
      exact ⟨s, rfl, hmatch.mpr (hlast s rfl)⟩
  | _ =>
    rw [type_eq_nil] at htype
    simp [typeName] at htype

theorem exists_requiredField {α : Type} {name : Text} {check : Check α} :
    (∃ a, requiredField ms name check = .ok a) ↔
      ∃ v, get? name ms = some v ∧ ∃ a, check v = .ok a := by
  simp only [requiredField_eq_ok]
  constructor
  · rintro ⟨a, v, hget, hcheck⟩
    exact ⟨v, hget, a, hcheck⟩
  · rintro ⟨v, hget, a, hcheck⟩
    exact ⟨a, v, hget, hcheck⟩

/-- A required field with such a pattern. -/
theorem endMatch_required {p q : Text → Prop} [DecidablePred p] [DecidablePred q]
    (hq : ∀ s, q s → '\n' ∉ s) (hpq : ∀ s, p s → q s) {error : String} {name : Text}
    (hname : contains name ms = true)
    (h : property ms name (keywords [type ["string"], onText "pattern" (EndMatch p)]) = []) :
    (∃ s, requiredField ms name (constrained q error) = .ok s) ↔
      ∀ s, follow [name] (.obj ms) = some (.str s) → s.getLast? ≠ some '\n' := by
  obtain ⟨v, hget⟩ := Option.isSome_iff_exists.mp hname
  rw [property_eq_nil] at h
  rw [exists_requiredField]
  simp only [hget, Option.some.injEq, exists_eq_left', follow, Option.bind_some]
  exact endMatch_check hq hpq (h v hget)

theorem agree_nonEmptyStr : Agree textSchema nonEmptyStr :=
  agree_onText (fun s => by rw [Nat.one_le_iff_ne_zero, ne_eq, List.length_eq_zero_iff]) _ _

end Fields

section Lineage

variable {ms : Dict Text Value}

/-- What the schema and the model of a lineage ask alike. -/
structure LineageCommon (ms : Dict Text Value) : Prop where
  sourceArtifactId : ∃ s, requiredField ms "source_artifact_id".toList nonEmptyStr = .ok s
  parentVersionId : ∃ s, requiredField ms "parent_version_id".toList nonEmptyStr = .ok s
  createdByJobId : ∃ s, requiredField ms "created_by_job_id".toList nonEmptyStr = .ok s
  known : ∀ m ∈ ms, m.1 ∈ lineageFields

theorem lineage_eq_ok {lineage : ManifestLineage} :
    ManifestLineage.modelValidate (.obj ms) = .ok lineage ↔
      requiredField ms "source_artifact_id".toList nonEmptyStr = .ok lineage.sourceArtifactId ∧
      requiredField ms "parent_version_id".toList nonEmptyStr = .ok lineage.parentVersionId ∧
      requiredField ms "created_by_job_id".toList nonEmptyStr = .ok lineage.createdByJobId ∧
      requiredField ms "config_hash".toList digest = .ok lineage.configHash ∧
      ∀ m ∈ ms, m.1 ∈ lineageFields := by
  simp only [ManifestLineage.modelValidate, bind_eq_ok, pure_eq, Except.ok.injEq,
    forbidExtra_eq_ok]
  constructor
  · rintro ⟨a, ha, b, hb, c, hc, d, hd, _, hknown, rfl⟩
    exact ⟨ha, hb, hc, hd, hknown⟩
  · rintro ⟨ha, hb, hc, hd, hknown⟩
    exact ⟨_, ha, _, hb, _, hc, _, hd, (), hknown, rfl⟩

theorem exists_lineage : (∃ l, ManifestLineage.modelValidate (.obj ms) = .ok l) ↔
    LineageCommon ms ∧ ∃ d, requiredField ms "config_hash".toList digest = .ok d := by
  simp only [lineage_eq_ok]
  constructor
  · rintro ⟨l, ha, hb, hc, hd, hknown⟩
    exact ⟨⟨⟨_, ha⟩, ⟨_, hb⟩, ⟨_, hc⟩, hknown⟩, _, hd⟩
  · rintro ⟨⟨⟨a, ha⟩, ⟨b, hb⟩, ⟨c, hc⟩, hknown⟩, d, hd⟩
    exact ⟨⟨a, b, c, d⟩, ha, hb, hc, hd, hknown⟩

theorem lineageSchema_eq_nil : lineageSchema (.obj ms) = [] ↔
    LineageCommon ms ∧ contains "config_hash".toList ms = true ∧
      property ms "config_hash".toList digestSchema = [] := by
  rw [lineageSchema, closedObject_eq_nil]
  simp only [lineageFields, lineageProperties, List.forall_mem_cons, List.mem_singleton, forall_eq]
  constructor
  · rintro ⟨⟨ha, hb, hc, hd⟩, hknown, pa, pb, pc, pd⟩
    exact ⟨⟨(agree_required agree_nonEmptyStr).mp ⟨ha, pa⟩,
      (agree_required agree_nonEmptyStr).mp ⟨hb, pb⟩,
      (agree_required agree_nonEmptyStr).mp ⟨hc, pc⟩, hknown⟩, hd, pd⟩
  · rintro ⟨⟨ha, hb, hc, hknown⟩, hd, pd⟩
    obtain ⟨ha, pa⟩ := (agree_required agree_nonEmptyStr).mpr ha
    obtain ⟨hb, pb⟩ := (agree_required agree_nonEmptyStr).mpr hb
    obtain ⟨hc, pc⟩ := (agree_required agree_nonEmptyStr).mpr hc
    exact ⟨⟨ha, hb, hc, hd⟩, hknown, pa, pb, pc, pd⟩

end Lineage

section Rows

variable {ms : Dict Text Value}

/-- What the schema and the model of a row ask alike. -/
structure RowCommon (ms : Dict Text Value) : Prop where
  objectId : ∃ s, requiredField ms "object_id".toList nonEmptyStr = .ok s
  datasetId : ∃ s, requiredField ms "dataset_id".toList nonEmptyStr = .ok s
  versionId : ∃ s, requiredField ms "version_id".toList nonEmptyStr = .ok s
  modality : ∃ m, requiredField ms "modality".toList (choice modalities modalityValue) = .ok m
  metadata : ∃ d, defaultField ms "metadata".toList [] checkDict = .ok d
  label : ∃ o, defaultField ms "label".toList none (nullable checkText) = .ok o
  split : ∃ o, defaultField ms "split".toList none (nullable (choice splits DataSplit.value)) =
    .ok o
  sourceSystem : ∃ o, defaultField ms "source_system".toList none (nullable checkText) = .ok o
  embeddingRefs : ∃ d, defaultField ms "embedding_refs".toList [] (mapping .ok checkText) = .ok d
  known : ∀ m ∈ ms, m.1 ∈ rowFields

def uriSchema : Schema := keywords [type ["string"], uriKeyword]

def nullableUriSchema : Schema := keywords [type ["string", "null"], uriKeyword]

theorem row_eq_ok {row : ManifestRow} : ManifestRow.modelValidate ms = .ok row ↔
    requiredField ms "object_id".toList nonEmptyStr = .ok row.objectId ∧
    requiredField ms "dataset_id".toList nonEmptyStr = .ok row.datasetId ∧
    requiredField ms "version_id".toList nonEmptyStr = .ok row.versionId ∧
    requiredField ms "modality".toList (choice modalities modalityValue) = .ok row.modality ∧
    requiredField ms "asset_uri".toList s3Uri = .ok row.assetUri ∧
    requiredField ms "hash".toList digest = .ok row.hash ∧
    defaultField ms "metadata".toList [] checkDict = .ok row.metadata ∧
    requiredField ms "lineage".toList ManifestLineage.modelValidate = .ok row.lineage ∧
    defaultField ms "annotation_uri".toList none (nullable s3Uri) = .ok row.annotationUri ∧
    defaultField ms "label".toList none (nullable checkText) = .ok row.label ∧
    defaultField ms "split".toList none (nullable (choice splits DataSplit.value)) =
      .ok row.split ∧
    defaultField ms "source_system".toList none (nullable checkText) = .ok row.sourceSystem ∧
    defaultField ms "embedding_refs".toList [] (mapping .ok checkText) = .ok row.embeddingRefs ∧
    ∀ m ∈ ms, m.1 ∈ rowFields := by
  simp only [ManifestRow.modelValidate, bind_eq_ok, pure_eq, Except.ok.injEq, forbidExtra_eq_ok]
  constructor
  · rintro ⟨a, ha, b, hb, c, hc, d, hd, e, he, f, hf, g, hg, l, hl, i, hi, j, hj, k, hk, m, hm,
      n, hn, _, hknown, rfl⟩
    exact ⟨ha, hb, hc, hd, he, hf, hg, hl, hi, hj, hk, hm, hn, hknown⟩
  · rintro ⟨ha, hb, hc, hd, he, hf, hg, hl, hi, hj, hk, hm, hn, hknown⟩
    exact ⟨_, ha, _, hb, _, hc, _, hd, _, he, _, hf, _, hg, _, hl, _, hi, _, hj, _, hk, _, hm,
      _, hn, (), hknown, rfl⟩

theorem exists_row : (∃ row, ManifestRow.modelValidate ms = .ok row) ↔
    RowCommon ms ∧ (∃ uri, requiredField ms "asset_uri".toList s3Uri = .ok uri) ∧
      (∃ d, requiredField ms "hash".toList digest = .ok d) ∧
      (∃ l, requiredField ms "lineage".toList ManifestLineage.modelValidate = .ok l) ∧
      ∃ o, defaultField ms "annotation_uri".toList none (nullable s3Uri) = .ok o := by
  simp only [row_eq_ok]
  constructor
  · rintro ⟨row, ha, hb, hc, hd, he, hf, hg, hl, hi, hj, hk, hm, hn, hknown⟩
    exact ⟨⟨⟨_, ha⟩, ⟨_, hb⟩, ⟨_, hc⟩, ⟨_, hd⟩, ⟨_, hg⟩, ⟨_, hj⟩, ⟨_, hk⟩, ⟨_, hm⟩, ⟨_, hn⟩,
      hknown⟩, ⟨_, he⟩, ⟨_, hf⟩, ⟨_, hl⟩, _, hi⟩
  · rintro ⟨⟨⟨a, ha⟩, ⟨b, hb⟩, ⟨c, hc⟩, ⟨d, hd⟩, ⟨g, hg⟩, ⟨j, hj⟩, ⟨k, hk⟩, ⟨m, hm⟩, ⟨n, hn⟩, hknown⟩,
      ⟨e, he⟩, ⟨f, hf⟩, ⟨l, hl⟩, i, hi⟩
    exact ⟨⟨a, b, c, d, e, f, g, l, i, j, k, m, n⟩, ha, hb, hc, hd, he, hf, hg, hl, hi, hj, hk, hm,
      hn, hknown⟩

theorem manifestRowSchema_eq_nil : manifestRowSchema (.obj ms) = [] ↔
    RowCommon ms ∧ contains "metadata".toList ms = true ∧
      (contains "asset_uri".toList ms = true ∧ property ms "asset_uri".toList uriSchema = []) ∧
      (contains "hash".toList ms = true ∧ property ms "hash".toList digestSchema = []) ∧
      (contains "lineage".toList ms = true ∧ property ms "lineage".toList lineageSchema = []) ∧
      property ms "annotation_uri".toList nullableUriSchema = [] := by
  rw [manifestRowSchema, closedObject_eq_nil]
  simp only [requiredFields, rowFields, List.take_succ_cons, List.take_zero, rowProperties,
    List.forall_mem_cons, List.mem_singleton, forall_eq]
  constructor
  · rintro ⟨⟨ra, rb, rc, rd, re, rf, rg, rl⟩, hknown, pa, pb, pc, pd, pe, pf, pg, pl, pi, pj, pk,
      pm, pn⟩
    exact ⟨⟨(agree_required agree_nonEmptyStr).mp ⟨ra, pa⟩,
      (agree_required agree_nonEmptyStr).mp ⟨rb, pb⟩,
      (agree_required agree_nonEmptyStr).mp ⟨rc, pc⟩,
      (agree_required (agree_enum _ _)).mp ⟨rd, pd⟩, (agree_default agree_dict).mp pg,
      (agree_default agree_nullableText).mp pj, (agree_default (agree_nullableEnum _ _)).mp pk,
      (agree_default agree_nullableText).mp pm,
      (agree_default (agree_mapping agree_text)).mp pn, hknown⟩,
      rg, ⟨re, pe⟩, ⟨rf, pf⟩, ⟨rl, pl⟩, pi⟩
  · rintro ⟨h, rg, ⟨re, pe⟩, ⟨rf, pf⟩, ⟨rl, pl⟩, pi⟩
    obtain ⟨ra, pa⟩ := (agree_required agree_nonEmptyStr).mpr h.objectId
    obtain ⟨rb, pb⟩ := (agree_required agree_nonEmptyStr).mpr h.datasetId
    obtain ⟨rc, pc⟩ := (agree_required agree_nonEmptyStr).mpr h.versionId
    obtain ⟨rd, pd⟩ := (agree_required (agree_enum _ _)).mpr h.modality
    exact ⟨⟨ra, rb, rc, rd, re, rf, rg, rl⟩, h.known, pa, pb, pc, pd, pe, pf,
      (agree_default agree_dict).mpr h.metadata, pl, pi,
      (agree_default agree_nullableText).mpr h.label,
      (agree_default (agree_nullableEnum _ _)).mpr h.split,
      (agree_default agree_nullableText).mpr h.sourceSystem,
      (agree_default (agree_mapping agree_text)).mpr h.embeddingRefs⟩

end Rows

section Layers

variable {ms : Dict Text Value}

/-- The places of the texts that a pattern is asked of. -/
def patternPaths : List (List Text) :=
  [["asset_uri".toList], ["hash".toList], ["lineage".toList, "config_hash".toList],
    ["annotation_uri".toList]]

def NoFinalNewline (ms : Dict Text Value) : Prop :=
  ∀ path ∈ patternPaths, ∀ s, follow path (.obj ms) = some (.str s) → s.getLast? ≠ some '\n'

theorem uriPattern_of_uriText {s : Text} (h : UriText s) : UriPattern s := h.1

theorem lineage_of_schema (hname : contains "lineage".toList ms = true)
    (h : property ms "lineage".toList lineageSchema = []) :
    (∃ l, requiredField ms "lineage".toList ManifestLineage.modelValidate = .ok l) ↔
      ∀ s, follow ["lineage".toList, "config_hash".toList] (.obj ms) = some (.str s) →
        s.getLast? ≠ some '\n' := by
  obtain ⟨v, hget⟩ := Option.isSome_iff_exists.mp hname
  have hschema := property_eq_nil.mp h v hget
  rw [exists_requiredField]
  simp only [hget, Option.some.injEq, exists_eq_left', follow, Option.bind_some]
  cases v with
  | obj ls =>
    obtain ⟨hcommon, hconfig, hproperty⟩ := lineageSchema_eq_nil.mp hschema
    have hdigest : (∃ d, requiredField ls "config_hash".toList digest = .ok d) ↔ _ :=
      endMatch_required (fun _ => newline_not_mem_digest) (fun _ => id) hconfig hproperty
    exact exists_lineage.trans ((and_iff_right hcommon).trans hdigest)
  | _ =>
    have htype := keywords_eq_nil.mp hschema _ List.mem_cons_self
    rw [type_eq_nil] at htype
    simp [typeName] at htype

theorem annotation_of_schema (h : property ms "annotation_uri".toList nullableUriSchema = []) :
    (∃ o, defaultField ms "annotation_uri".toList none (nullable s3Uri) = .ok o) ↔
      ∀ s, follow ["annotation_uri".toList] (.obj ms) = some (.str s) →
        s.getLast? ≠ some '\n' := by
  simp only [defaultField_eq_ok, follow]
  cases hget : get? "annotation_uri".toList ms with
  | none => simp
  | some v =>
    have hschema := property_eq_nil.mp h v hget
    simp only [reduceCtorEq, false_and, false_or, Option.some.injEq, exists_eq_left',
      Option.bind_some]
    by_cases hnull : v = .null
    · subst hnull
      simp [nullable]
    · rw [nullable_of_ne_null hnull]
      obtain ⟨htype, hpattern, -⟩ := by
        simpa only [nullableUriSchema, keywords_eq_nil, List.forall_mem_cons] using hschema
      refine endMatch_check (fun _ => newline_not_mem_uri) (fun _ => uriPattern_of_uriText)
        (keywords_eq_nil.mpr ?_)
      cases v with
      | null => exact absurd rfl hnull
      | str s => exact List.forall_mem_cons.mpr ⟨rfl, List.forall_mem_singleton.mpr hpattern⟩
      | _ =>
        rw [type_eq_nil] at htype
        simp [typeName] at htype

theorem model_of_schema (h : manifestRowSchema (.obj ms) = []) :
    (∃ row, ManifestRow.modelValidate ms = .ok row) ↔ NoFinalNewline ms := by
  obtain ⟨hcommon, -, ⟨hasset, hassets⟩, ⟨hhash, hhashes⟩, ⟨hlineage, hlineages⟩, hannotation⟩ :=
    manifestRowSchema_eq_nil.mp h
  rw [exists_row, and_iff_right hcommon, lineage_of_schema hlineage hlineages,
    annotation_of_schema hannotation]
  simp only [NoFinalNewline, patternPaths, List.forall_mem_cons, List.mem_singleton, forall_eq]
  exact and_congr
    (endMatch_required (fun _ => newline_not_mem_uri) (fun _ => uriPattern_of_uriText) hasset
      hassets)
    (and_congr_left' (endMatch_required (fun _ => newline_not_mem_digest) (fun _ => id) hhash
      hhashes))

theorem uriKeyword_eq_nil (uri : S3Uri) :
    uriKeyword (.str uri.1) = [] ↔ ∀ c ∈ uri.1, isSeparator c = false := by
  rw [uriKeyword, onText_eq_nil, endMatch_iff (fun _ => newline_not_mem_uri) uri.2,
    uriText_iff uri.2]

theorem digestSchema_of_check {v : Value} {d : Sha256Digest} (h : digest v = .ok d) :
    digestSchema v = [] := by
  rw [digest, constrained_eq_ok] at h
  rw [h, digestSchema, keywords_eq_nil]
  exact List.forall_mem_cons.mpr ⟨rfl, List.forall_mem_singleton.mpr
    (onText_eq_nil.mpr (.inl d.2))⟩

theorem schema_of_digest {name : Text} {d : Sha256Digest}
    (h : requiredField ms name digest = .ok d) :
    contains name ms = true ∧ property ms name digestSchema = [] := by
  obtain ⟨v, hget, hcheck⟩ := requiredField_eq_ok.mp h
  refine ⟨by rw [contains, hget]; rfl, property_eq_nil.mpr fun w hw => ?_⟩
  obtain rfl : v = w := Option.some.inj (hget.symm.trans hw)
  exact digestSchema_of_check hcheck

theorem schema_of_lineage {v : Value} {l : ManifestLineage}
    (h : ManifestLineage.modelValidate v = .ok l) : lineageSchema v = [] := by
  cases v with
  | obj ls =>
    obtain ⟨hcommon, d, hd⟩ := exists_lineage.mp ⟨l, h⟩
    exact lineageSchema_eq_nil.mpr ⟨hcommon, schema_of_digest hd⟩
  | _ => simp [ManifestLineage.modelValidate, fail] at h

theorem schema_of_annotation {o : Option S3Uri}
    (h : defaultField ms "annotation_uri".toList none (nullable s3Uri) = .ok o) :
    property ms "annotation_uri".toList nullableUriSchema = [] ↔
      ∀ uri ∈ o, ∀ c ∈ uri.1, isSeparator c = false := by
  have hnull : ∀ uri, s3Uri .null ≠ .ok uri := fun uri h => by cases h
  rw [property_eq_nil]
  obtain ⟨hget, rfl⟩ | ⟨v, hget, hcheck⟩ := defaultField_eq_ok.mp h
  · exact iff_of_true (fun w hw => by rw [hget] at hw; cases hw) (fun uri huri => by cases huri)
  · simp only [hget, Option.some.injEq, forall_eq', nullableUriSchema, keywords_eq_nil,
      List.forall_mem_cons, List.mem_singleton, forall_eq, type_eq_nil]
    obtain ⟨rfl, rfl⟩ | ⟨uri, huri, rfl⟩ := (nullable_eq_ok hnull).mp hcheck
    · simp [typeName, uriKeyword, onText]
    · obtain rfl := constrained_eq_ok.mp huri
      rw [uriKeyword_eq_nil]
      simp [typeName]

theorem schema_of_model {row : ManifestRow} (h : ManifestRow.modelValidate ms = .ok row) :
    manifestRowSchema (.obj ms) = [] ↔ contains "metadata".toList ms = true ∧
      (∀ c ∈ row.assetUri.1, isSeparator c = false) ∧
      ∀ uri ∈ row.annotationUri, ∀ c ∈ uri.1, isSeparator c = false := by
  obtain ⟨hcommon, -, -, -, -⟩ := exists_row.mp ⟨row, h⟩
  obtain ⟨-, -, -, -, hasset, hhash, -, hlineage, hannotation, -⟩ := row_eq_ok.mp h
  obtain ⟨v, hget, hcheck⟩ := requiredField_eq_ok.mp hlineage
  have hlineages : contains "lineage".toList ms = true ∧
      property ms "lineage".toList lineageSchema = [] := by
    refine ⟨by rw [contains, hget]; rfl, property_eq_nil.mpr fun w hw => ?_⟩
    obtain rfl : v = w := Option.some.inj (hget.symm.trans hw)
    exact schema_of_lineage hcheck
  have hassets : (contains "asset_uri".toList ms = true ∧
      property ms "asset_uri".toList uriSchema = []) ↔
        ∀ c ∈ row.assetUri.1, isSeparator c = false := by
    obtain ⟨v, hget, hcheck⟩ := requiredField_eq_ok.mp hasset
    obtain rfl := constrained_eq_ok.mp hcheck
    rw [and_iff_right (by rw [contains, hget]; rfl), property_eq_nil, ← uriKeyword_eq_nil]
    simp only [hget, Option.some.injEq, forall_eq', uriSchema, keywords_eq_nil,
      List.forall_mem_cons, List.mem_singleton, forall_eq, type_eq_nil, typeName, true_and]
  rw [manifestRowSchema_eq_nil, and_iff_right hcommon, hassets,
    and_iff_right (schema_of_digest hhash), and_iff_right hlineages,
    schema_of_annotation hannotation]

end Layers

section RoundTrip

/-- The row with the keys of its two dictionaries in order. -/
def ManifestRow.canonical (row : ManifestRow) : ManifestRow :=
  { row with
    metadata := sortedItems (sortKeysMembers row.metadata)
    embeddingRefs := sortedItems row.embeddingRefs }

def ManifestRow.payload (row : ManifestRow) : Dict Text Value :=
  sortedItems (sortKeysMembers row.modelDump)

theorem keys_modelDump (row : ManifestRow) : row.modelDump.map Prod.fst = rowFields := rfl

theorem nodup_modelDump (row : ManifestRow) : (row.modelDump.map Prod.fst).Nodup := by
  rw [keys_modelDump]
  decide

theorem get?_sorted {ms : Dict Text Value} (h : (ms.map Prod.fst).Nodup) (name : Text) :
    get? name (sortedItems (sortKeysMembers ms)) = (get? name ms).map sortKeys := by
  rw [get?_sortedItems (by rwa [keys_sortKeysMembers]), get?_sortKeysMembers]

theorem mem_keys_sorted {ms : Dict Text Value} {m : Text × Value}
    (h : m ∈ sortedItems (sortKeysMembers ms)) : m.1 ∈ ms.map Prod.fst := by
  rw [← keys_sortKeysMembers]
  exact List.mem_map_of_mem ((sortedItems_perm _).mem_iff.mp h)

theorem requiredField_sorted {α : Type} {ms : Dict Text Value} (h : (ms.map Prod.fst).Nodup)
    {name : Text} {v : Value} (hget : get? name ms = some v) {check : Check α} {a : α}
    (hcheck : check (sortKeys v) = .ok a) :
    requiredField (sortedItems (sortKeysMembers ms)) name check = .ok a :=
  requiredField_eq_ok.mpr ⟨sortKeys v, by rw [get?_sorted h, hget]; rfl, hcheck⟩

theorem defaultField_sorted {α : Type} {ms : Dict Text Value} (h : (ms.map Prod.fst).Nodup)
    {name : Text} {v : Value} (hget : get? name ms = some v) {check : Check α} {default a : α}
    (hcheck : check (sortKeys v) = .ok a) :
    defaultField (sortedItems (sortKeysMembers ms)) name default check = .ok a :=
  defaultField_eq_ok.mpr (.inr ⟨sortKeys v, by rw [get?_sorted h, hget]; rfl, hcheck⟩)

theorem constrained_str {p : Text → Prop} [DecidablePred p] {error : String}
    (s : { s : Text // p s }) : constrained p error (sortKeys (.str s.1)) = .ok s :=
  constrained_eq_ok.mpr rfl

theorem choice_label {α : Type} {members : List α} {label : α → Text}
    (hinj : ∀ x ∈ members, ∀ y ∈ members, label x = label y → x = y) {a : α} (ha : a ∈ members) :
    choice members label (sortKeys (.str (label a))) = .ok a :=
  (choice_eq_ok hinj).mpr ⟨ha, rfl⟩

theorem nullable_optionalText {α : Type} {check : Check α} {text : α → Text}
    (hcheck : ∀ a, check (sortKeys (.str (text a))) = .ok a) (o : Option α) :
    nullable check (sortKeys (optionalText (o.map text))) = .ok o := by
  cases o with
  | none => rfl
  | some a =>
    change (check (sortKeys (.str (text a)))).map some = _
    rw [hcheck]
    rfl

theorem nullable_text (o : Option Text) :
    nullable checkText (sortKeys (optionalText o)) = .ok o := by
  cases o <;> rfl

theorem mem_modalities (m : DataModality) : m ∈ modalities := by cases m <;> decide

theorem mem_splits (split : DataSplit) : split ∈ splits := by cases split <;> decide

theorem modalityValue_injective : ∀ x ∈ modalities, ∀ y ∈ modalities,
    modalityValue x = modalityValue y → x = y := by decide

theorem splitValue_injective : ∀ x ∈ splits, ∀ y ∈ splits, x.value = y.value → x = y := by decide

theorem mapping_texts (refs : Dict Text Text) :
    mapping .ok checkText (sortKeys (.obj (refs.map fun m => (m.1, .str m.2)))) =
      .ok (sortedItems refs) := by
  have hsorted : sortKeysMembers (refs.map fun m => (m.1, .str m.2)) =
      refs.map fun m => (m.1, .str m.2) := by
    rw [sortKeysMembers_eq_map, List.map_map]
    rfl
  rw [sortKeys, hsorted, sortedItems_map_values, mapping_eq_ok, List.forall₂_map_left_iff,
    List.forall₂_same]
  exact fun m _ => ⟨rfl, rfl⟩

theorem lineage_dump (lineage : ManifestLineage) :
    ManifestLineage.modelValidate (sortKeys lineage.modelDump) = .ok lineage := by
  have hkeys : ∀ ls : Dict Text Value, lineage.modelDump = .obj ls →
      ls.map Prod.fst = lineageFields := by
    intro ls hls
    obtain rfl := Value.obj.inj hls
    rfl
  obtain ⟨ls, hls⟩ : ∃ ls, lineage.modelDump = .obj ls := ⟨_, rfl⟩
  have hnodup : (ls.map Prod.fst).Nodup := by
    rw [hkeys ls hls]
    decide
  rw [hls, sortKeys]
  have hknown := hkeys ls hls
  obtain rfl := Value.obj.inj hls
  exact lineage_eq_ok.mpr ⟨requiredField_sorted hnodup rfl (constrained_str _),
    requiredField_sorted hnodup rfl (constrained_str _),
    requiredField_sorted hnodup rfl (constrained_str _),
    requiredField_sorted hnodup rfl (constrained_str _), fun m hm => hknown ▸ mem_keys_sorted hm⟩

theorem modelValidate_payload (row : ManifestRow) :
    ManifestRow.modelValidate row.payload = .ok row.canonical := by
  have h := nodup_modelDump row
  exact row_eq_ok.mpr ⟨requiredField_sorted h rfl (constrained_str _),
    requiredField_sorted h rfl (constrained_str _), requiredField_sorted h rfl (constrained_str _),
    requiredField_sorted h rfl
      (choice_label modalityValue_injective (mem_modalities _)),
    requiredField_sorted h rfl (constrained_str _), requiredField_sorted h rfl (constrained_str _),
    defaultField_sorted h rfl (by rw [sortKeys]; rfl),
    requiredField_sorted h rfl (lineage_dump _),
    defaultField_sorted h rfl (nullable_optionalText (fun a => constrained_str a) _),
    defaultField_sorted h rfl (nullable_text _),
    defaultField_sorted h rfl
      (nullable_optionalText (fun a => choice_label splitValue_injective (mem_splits a)) _),
    defaultField_sorted h rfl (nullable_text _),
    defaultField_sorted h rfl (mapping_texts _), fun m hm => keys_modelDump row ▸ mem_keys_sorted hm⟩

end RoundTrip

end DataForge.Ingestion.ManifestRows
