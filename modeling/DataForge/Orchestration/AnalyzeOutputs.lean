import DataForge.Adapters.RegistryStep
import DataForge.Orchestration.AnalyzeRuns

namespace DataForge.Orchestration.AnalyzeOutputs

open DataForge.Foundation.Strings
open DataForge.Foundation.Sha256
open DataForge.Foundation.Outcome
open DataForge.Foundation.Dictionary
open DataForge.Domain.Common
open DataForge.Domain.Artifact
open DataForge.Adapters.ObjectStorage
open DataForge.Adapters.ArtifactRegistry
open DataForge.Adapters.RegistryStep (schemaVersion_saveArtifact)
open DataForge.Orchestration.AnalyzeRuns (AnalyzeAsset)

section State

structure AnalyzeExecutionState where
  artifacts : Dict Text RegisteredArtifact
  counts : Dict Text Nat
  statuses : Dict Text Text
  built : Bool

/-- The counts of a whole analysis. -/
structure AnalysisCounts where
  manifestRows : Nat
  reviewQueueSize : Nat

/-- The state of a run with its storage. Of the last two fields nothing is computed: they
say whether the run is reading an input object, and what the analysis counted that has
built the outputs. -/
structure World (σ : Type) where
  state : AnalyzeExecutionState
  store : σ
  atInput : Bool
  analysed : Option AnalysisCounts

variable {σ α : Type}

def onStore (m : Effect Raised σ α) : Effect Raised (World σ) α := fun w =>
  ((m.run w.store).1, { w with store := (m.run w.store).2 })

theorem run_onStore {m : Effect Raised σ α} {w : World σ} {r : Result α} {store : σ}
    (h : m.run w.store = (r, store)) : (onStore m).run w = (r, { w with store := store }) := by
  show ((m.run w.store).1, { w with store := (m.run w.store).2 }) = _
  rw [h]

def onState (f : AnalyzeExecutionState → AnalyzeExecutionState) : Effect Raised (World σ) Unit :=
  .modify fun w => { w with state := f w.state }

/-- A read of an object that the run was given. -/
def readInput (m : Effect Raised σ α) : Effect Raised (World σ) α := do
  Effect.modify fun w => { w with atInput := true }
  let a ← onStore m
  Effect.modify fun w => { w with atInput := false }
  pure a

def record (asset : AnalyzeAsset) (artifact : RegisteredArtifact) : Effect Raised (World σ) Unit :=
  onState fun s => { s with artifacts := set asset.name artifact s.artifacts }

def manifestRowCount : Text := "manifest_row_count".toList

def reviewQueueSize : Text := "review_queue_size".toList

def analysisMode : Text := "analysis_mode".toList

def count (name : Text) (n : Nat) : Effect Raised (World σ) Unit :=
  onState fun s => { s with counts := set name n s.counts }

end State

section Artifacts

/-- What is fixed about the artifacts of one kind. -/
structure ArtifactSpec where
  kind : Text
  format : Text
  mediaType : Text
  schemaVersion : Text
deriving DecidableEq

def jsonl (kind schemaVersion : String) : ArtifactSpec :=
  ⟨kind.toList, "jsonl".toList, "application/jsonl".toList, schemaVersion.toList⟩

def json (kind schemaVersion : String) : ArtifactSpec :=
  ⟨kind.toList, "json".toList, "application/json".toList, schemaVersion.toList⟩

def assetManifest : ArtifactSpec := jsonl "asset_manifest" "manifest_row.v1"
def validatedManifest : ArtifactSpec := jsonl "validated_manifest" "manifest_row.v1"
def predictionManifest : ArtifactSpec := jsonl "prediction_manifest" "prediction_manifest_row.v1"
def predictionValidation : ArtifactSpec :=
  json "prediction_validation_report" "prediction_validation_report.v1"
def modelErrorReport : ArtifactSpec := json "model_error_analysis_report" "model_error_report.v1"
def ambiguousCandidates : ArtifactSpec :=
  json "ambiguous_object_candidates" "ambiguous_object_candidates.v1"
def probableLabelErrorCandidates : ArtifactSpec :=
  json "probable_label_error_candidates" "probable_label_error_candidates.v1"
def profileReport : ArtifactSpec := json "tabular_profile_report" "tabular_profile_report.v1"
def redactedJsonl : ArtifactSpec := jsonl "text_ocr_redacted_jsonl" "text_ocr_redacted_jsonl.v1"
def objectAnalytics : ArtifactSpec :=
  jsonl "object_analytics_passports" "object_analytical_passport.v1"
def evidenceBundle : ArtifactSpec := jsonl "evidence_bundle" "evidence_bundle.v1"
def decisionReport : ArtifactSpec := json "decision_report" "decision_report.v1"
def methodRecommendations : ArtifactSpec := json "method_recommendations" "method_recommendation.v1"
def safePreview : ArtifactSpec := json "review_queue_safe_preview" "review_safe_preview.v1"
def reviewQueue : ArtifactSpec := jsonl "review_queue" "review_queue.v1"

def referenceOnlySuffix : Text := ".reference_only.v1".toList

def referenceOnly (asset : AnalyzeAsset) : ArtifactSpec :=
  ⟨asset.name, "json".toList, "application/json".toList, asset.name ++ referenceOnlySuffix⟩

/-- The registry as a run sees it: any call may fail, and a saved artifact has the schema
version that it was saved under. -/
structure Registry (σ : Type) where
  saveArtifact : SaveRequest → Effect Raised σ RegisteredArtifact
  schema : ∀ {r s artifact t}, (saveArtifact r).run s = (.ok artifact, t) →
    artifact.schemaVersion.1 = strip r.schemaVersion

/-- The registry over the object storage. -/
def minioRegistry (p : Platform) (a : MinioObjectStorageAdapter) (clock : Clock) :
    Registry S3Objects where
  saveArtifact := DataForge.Adapters.ArtifactRegistry.saveArtifact p a clock
  schema := schemaVersion_saveArtifact

/-- The same where a call fails, before it does anything, whenever the schedule says so. -/
def Registry.interrupted {σ : Type} (registry : Registry σ) :
    Registry (σ × List (Option Raised)) where
  saveArtifact r := fun s =>
    match s.2 with
    | some e :: schedule => (.error e, (s.1, schedule))
    | schedule => (((registry.saveArtifact r).run s.1).1,
      (((registry.saveArtifact r).run s.1).2, schedule.tail))
  schema := by
    intro r s artifact t h
    obtain ⟨store, schedule⟩ := s
    obtain _ | ⟨_ | e, schedule⟩ := schedule
    · exact registry.schema (Prod.ext (Prod.mk.inj h).1 rfl)
    · exact registry.schema (Prod.ext (Prod.mk.inj h).1 rfl)
    · cases (Prod.mk.inj h).1

/-- What all artifacts of a run carry. -/
structure RunIds where
  datasetVersionId : Text
  createdByJobId : Text
  configHash : Text

def saveRequest (ids : RunIds) (spec : ArtifactSpec) (data : Bytes) (metadata : Dict Text Text) :
    SaveRequest where
  artifactKind := spec.kind
  data := data
  artifactFormat := spec.format
  mediaType := spec.mediaType
  schemaVersion := spec.schemaVersion
  datasetVersionId := ids.datasetVersionId
  createdByJobId := ids.createdByJobId
  configHash := ids.configHash
  metadata := metadata

end Artifacts

section Stages

/-- What the stages of a run do, over what the run has read and computed so far. The reads
may fail with the storage; a payload may fail on its own. -/
structure AnalyzeStages (σ L : Type) where
  registry : Registry σ
  ids : RunIds
  includePredictions : Bool
  begin : L
  openArchive : L → Effect Raised σ L
  readPredictions : L → Effect Raised σ L
  readBack : RegisteredArtifact → L → Effect Raised σ L
  payload : ArtifactSpec → L → Result (Bytes × Dict Text Text × L)
  redactedSupport : L → Result (List (Bytes × Dict Text Text) × L)
  redactedOcr : L → Result (List (Bytes × Dict Text Text) × L)
  safePreviews : L → Result (List (Bytes × Dict Text Text) × L)
  manifestRows : L → Nat
  queuedObjects : L → Nat
  referencePayload : AnalyzeAsset → Bytes

variable {σ L : Type} (stages : AnalyzeStages σ L)

def saveData (spec : ArtifactSpec) (data : Bytes) (metadata : Dict Text Text) :
    Effect Raised (World σ) RegisteredArtifact :=
  onStore (stages.registry.saveArtifact (saveRequest stages.ids spec data metadata))

def save (spec : ArtifactSpec) (l : L) : Effect Raised (World σ) (RegisteredArtifact × L) := do
  let (data, metadata, l) ← Effect.lift (stages.payload spec l)
  let artifact ← saveData stages spec data metadata
  pure (artifact, l)

def saveAll (spec : ArtifactSpec) : List (Bytes × Dict Text Text) → Effect Raised (World σ) Unit
  | [] => pure ()
  | item :: items => do
    let _ ← saveData stages spec item.1 item.2
    saveAll spec items

def saveAs (asset : AnalyzeAsset) (spec : ArtifactSpec) (l : L) : Effect Raised (World σ) L := do
  let (artifact, l) ← save stages spec l
  record asset artifact
  pure l

/-- From the manifest of the opened archive to its counted rows. -/
def manifestStage (l : L) : Effect Raised (World σ) L := do
  let (manifest, l) ← save stages assetManifest l
  record .rawManifest manifest
  let l ← onStore (stages.readBack manifest l)
  let (validated, l) ← save stages validatedManifest l
  record .validatedManifest validated
  let l ← onStore (stages.readBack validated l)
  count manifestRowCount (stages.manifestRows l)
  pure l

def predictionStage (l : L) : Effect Raised (World σ) L := do
  let l ← readInput (stages.readPredictions l)
  let (manifest, l) ← save stages predictionManifest l
  record .predictionManifest manifest
  let l ← saveAs stages .predictionValidationReport predictionValidation l
  onStore (stages.readBack manifest l)

def candidateStage (report : RegisteredArtifact) (l : L) : Effect Raised (World σ) L := do
  record .modelErrorAnalysisReport report
  let l ← saveAs stages .ambiguousObjectCandidates ambiguousCandidates l
  saveAs stages .probableLabelErrorCandidates probableLabelErrorCandidates l

def modelErrorStage (l : L) : Effect Raised (World σ) L := do
  let l ← if stages.includePredictions then predictionStage stages l else pure l
  let (report, l) ← save stages modelErrorReport l
  if stages.includePredictions then candidateStage stages report l else pure l

def profileStage (l : L) : Effect Raised (World σ) L := do
  let l ← readInput (stages.openArchive l)
  saveAs stages .tabularProfileReport profileReport l

def textStage (l : L) : Effect Raised (World σ) L := do
  let l ← readInput (stages.openArchive l)
  let (support, l) ← Effect.lift (stages.redactedSupport l)
  saveAll stages redactedJsonl support
  let (ocr, l) ← Effect.lift (stages.redactedOcr l)
  saveAll stages redactedJsonl ocr
  pure l

def decisionStage (l : L) : Effect Raised (World σ) L := do
  let (passports, l) ← save stages objectAnalytics l
  let (evidence, l) ← save stages evidenceBundle l
  let (decision, l) ← save stages decisionReport l
  record .objectAnalyticsPassports passports
  record .evidenceBundle evidence
  record .decisionReport decision
  saveAs stages .recommendedActions methodRecommendations l

def reviewStage (l : L) : Effect Raised (World σ) L := do
  let (previews, l) ← Effect.lift (stages.safePreviews l)
  saveAll stages safePreview previews
  let l ← saveAs stages .reviewQueue reviewQueue l
  count reviewQueueSize (stages.queuedObjects l)
  pure l

/-- The stages after the first read of the archive, with what they counted. -/
def buildFromArchive (l : L) : Effect Raised (World σ) AnalysisCounts := do
  let rows ← manifestStage stages l
  let l ← modelErrorStage stages rows
  let l ← profileStage stages l
  let l ← textStage stages l
  let l ← decisionStage stages l
  let l ← reviewStage stages l
  pure ⟨stages.manifestRows rows, stages.queuedObjects l⟩

def buildRealOutputs : Effect Raised (World σ) AnalysisCounts := do
  let l ← readInput (stages.openArchive stages.begin)
  buildFromArchive stages l

def expectedAssets : List AnalyzeAsset :=
  AnalyzeAsset.base ++ if stages.includePredictions then AnalyzeAsset.prediction else []

def saveReferences : List AnalyzeAsset → Effect Raised (World σ) Unit
  | [] => pure ()
  | asset :: assets => do
    let artifact ← saveData stages (referenceOnly asset) (stages.referencePayload asset) []
    record asset artifact
    saveReferences assets

def buildReferenceOnlyOutputs : Effect Raised (World σ) Unit := do
  onState fun s => { s with statuses := set analysisMode "reference_only".toList s.statuses }
  saveReferences stages (expectedAssets stages)

def IsStorageError : Raised → Prop
  | .coded "ObjectStorageError" _ _ => True
  | _ => False

instance : DecidablePred IsStorageError := fun e => by
  unfold IsStorageError
  split <;> infer_instance

/-- The real outputs, or references where the storage has failed. -/
def buildOutputs : Effect Raised (World σ) Unit :=
  Effect.tryCatch
    (do
      let counts ← buildRealOutputs stages
      Effect.modify fun w => { w with analysed := some counts })
    fun e =>
      if IsStorageError e then do
        buildReferenceOnlyOutputs stages
        Effect.modify fun w => { w with analysed := none }
      else Effect.raise e

def ensureAnalyzeOutputs : Effect Raised (World σ) Unit := do
  let w ← Effect.get
  if w.state.built then pure ()
  else do
    buildOutputs stages
    onState fun s => { s with built := true }

/-- A run that has not begun. -/
def World.initial (store : σ) : World σ := ⟨⟨[], [], [], false⟩, store, false, none⟩

end Stages

end DataForge.Orchestration.AnalyzeOutputs
