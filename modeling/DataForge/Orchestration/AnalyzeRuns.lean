import DataForge.Orchestration.ApplyRuns

namespace DataForge.Orchestration.AnalyzeRuns

open DataForge.Foundation.Strings
open DataForge.Foundation.Outcome
open DataForge.Domain.Common
open DataForge.Domain.Artifact
open DataForge.Domain.Compute
open DataForge.Orchestration.Cancellation
open DataForge.Orchestration.StatusBridge
open DataForge.Orchestration.ApplyRuns (AssetStatus)
open DataForge.Orchestration.Workflows (AnalyzeDatasetRequest Raised.text)

section Assets

inductive AnalyzeAsset where
  | rawManifest
  | validatedManifest
  | tabularProfileReport
  | objectAnalyticsPassports
  | evidenceBundle
  | decisionReport
  | recommendedActions
  | reviewQueue
  | predictionManifest
  | predictionValidationReport
  | modelErrorAnalysisReport
  | ambiguousObjectCandidates
  | probableLabelErrorCandidates
deriving DecidableEq

namespace AnalyzeAsset

def base : List AnalyzeAsset :=
  [.rawManifest, .validatedManifest, .tabularProfileReport, .objectAnalyticsPassports,
    .evidenceBundle, .decisionReport, .recommendedActions, .reviewQueue]

def prediction : List AnalyzeAsset :=
  [.predictionManifest, .predictionValidationReport, .modelErrorAnalysisReport,
    .ambiguousObjectCandidates, .probableLabelErrorCandidates]

def name : AnalyzeAsset → Text
  | .rawManifest => "raw_manifest".toList
  | .validatedManifest => "validated_manifest".toList
  | .tabularProfileReport => "tabular_profile_report".toList
  | .objectAnalyticsPassports => "object_analytics_passports".toList
  | .evidenceBundle => "evidence_bundle".toList
  | .decisionReport => "decision_report".toList
  | .recommendedActions => "recommended_actions".toList
  | .reviewQueue => "review_queue".toList
  | .predictionManifest => "prediction_manifest".toList
  | .predictionValidationReport => "prediction_validation_report".toList
  | .modelErrorAnalysisReport => "model_error_analysis_report".toList
  | .ambiguousObjectCandidates => "ambiguous_object_candidates".toList
  | .probableLabelErrorCandidates => "probable_label_error_candidates".toList

def deps : AnalyzeAsset → List AnalyzeAsset
  | .rawManifest => []
  | .validatedManifest => [.rawManifest]
  | .tabularProfileReport => [.validatedManifest]
  | .objectAnalyticsPassports => [.tabularProfileReport]
  | .evidenceBundle => [.objectAnalyticsPassports]
  | .decisionReport => [.evidenceBundle]
  | .recommendedActions => [.decisionReport]
  | .reviewQueue => [.decisionReport]
  | .predictionManifest => [.validatedManifest]
  | .predictionValidationReport => [.predictionManifest]
  | .modelErrorAnalysisReport => [.predictionValidationReport]
  | .ambiguousObjectCandidates => [.modelErrorAnalysisReport]
  | .probableLabelErrorCandidates => [.modelErrorAnalysisReport]

def stage : AnalyzeAsset → JobStage × Nat
  | .rawManifest => (.ingesting, 10)
  | .validatedManifest => (.buildingManifest, 25)
  | .tabularProfileReport => (.profilingTabular, 45)
  | .objectAnalyticsPassports => (.profilingTabular, 55)
  | .evidenceBundle => (.buildingEvidence, 70)
  | .predictionManifest => (.buildingManifest, 35)
  | .predictionValidationReport => (.buildingEvidence, 62)
  | .modelErrorAnalysisReport => (.buildingEvidence, 68)
  | .ambiguousObjectCandidates => (.buildingEvidence, 72)
  | .probableLabelErrorCandidates => (.buildingEvidence, 74)
  | .decisionReport => (.runningDecisionCore, 80)
  | .recommendedActions => (.runningDecisionCore, 90)
  | .reviewQueue => (.runningDecisionCore, 95)

end AnalyzeAsset

/-- The assets that a request asks for. -/
def expectedOutputs (request : AnalyzeDatasetRequest) : List AnalyzeAsset :=
  AnalyzeAsset.base ++ if request.predictionArtifactRefs ≠ [] then AnalyzeAsset.prediction else []

/-- What the assets of a run build on its storage, and the artifacts found there afterwards. -/
structure AnalyzeAssets (σ : Type) where
  ensureAnalyzeOutputs : AnalyzeAsset → Effect Raised σ Unit
  artifacts : σ → List (AnalyzeAsset × ArtifactRef)

end Assets

section System

inductive Phase where
  | start
  | materializing
  | checked
  | returned
  | raised
deriving DecidableEq

structure RunState (σ : Type) where
  phase : Phase
  settled : AnalyzeAsset → Option AssetStatus
  events : List JobEvent
  store : σ

/-- What a run does next: the launcher goes on to its next look, an asset settles, or the
materialization raises. -/
inductive RunMove (A : Type) where
  | launch
  | settle (a : A)
  | crash (e : Raised)

variable {σ : Type}

namespace RunState

variable (request : AnalyzeDatasetRequest) (s : RunState σ)

def record (e : JobEvent) (phase : Phase) : RunState σ :=
  { s with phase := phase, events := s.events ++ [e] }

def AllSettled : Prop := ∀ a ∈ expectedOutputs request, s.settled a ≠ none

/-- `result.success` -/
def Success : Prop := ∀ a ∈ expectedOutputs request, s.settled a = some .materialized

instance : Decidable (s.AllSettled request) := inferInstanceAs (Decidable (∀ _ ∈ _, _))

instance : Decidable (s.Success request) := inferInstanceAs (Decidable (∀ _ ∈ _, _))

def Enabled (a : AnalyzeAsset) : Prop :=
  s.phase = .materializing ∧ a ∈ expectedOutputs request ∧ s.settled a = none ∧
    ∀ d ∈ a.deps, s.settled d ≠ none

instance (a : AnalyzeAsset) : Decidable (s.Enabled request a) :=
  inferInstanceAs (Decidable (_ ∧ _ ∧ _ ∧ _))

def settle (a : AnalyzeAsset) (status : AssetStatus) : RunState σ :=
  { s with settled := Function.update s.settled a (some status) }

end RunState

variable (p : Platform) (request : AnalyzeDatasetRequest) (assets : AnalyzeAssets σ)

/-- The refs of the completed event: the artifacts of the materialized assets. -/
def completedRefs (s : RunState σ) : List ArtifactRef :=
  ((assets.artifacts s.store).filter fun artifact =>
    decide (s.settled artifact.1 = some .materialized)).map Prod.snd

/-- The launcher between two of its looks at the run. -/
def launch (token : CancellationToken) (s : RunState σ) : RunState σ :=
  match s.phase with
  | .start =>
    if token.cancelled then s.record (emitCancelled request.platformJobId 0) .raised
    else { s with phase := .materializing }
  | .materializing =>
    if ¬ s.AllSettled request then s
    else if token.cancelled then s.record (emitCancelled request.platformJobId 50) .raised
    else { s with phase := .checked }
  | .checked =>
    if s.Success request then
      s.record (emitCompleted request.platformJobId (completedRefs assets s)) .returned
    else s.record (emitFailed request.platformJobId 0 .internalError) .raised
  | .returned | .raised => s

/-- An asset records its stage once its outputs are there; one that fails records nothing. -/
def settleAsset (a : AnalyzeAsset) (s : RunState σ) : RunState σ :=
  if ∀ d ∈ a.deps, s.settled d = some .materialized then
    match (assets.ensureAnalyzeOutputs a).run s.store with
    | (.error _, store) => { s.settle a .failed with store := store }
    | (.ok (), store) =>
      let e := emitStage request.platformJobId a.stage.1 a.stage.2 []
      { s.settle a .materialized with events := s.events ++ [e], store := store }
  else s.settle a .skipped

def step (token : CancellationToken) (s : RunState σ) : RunMove AnalyzeAsset → RunState σ
  | .launch => launch request assets token s
  | .settle a => if s.Enabled request a then settleAsset request assets a s else s
  | .crash e =>
    if s.phase = .materializing then
      s.record (emitFailed request.platformJobId 0 (classifyFailure p (Raised.text e))) .raised
    else s

def initial (store : σ) : RunState σ := ⟨.start, fun _ => none, [], store⟩

end System

end DataForge.Orchestration.AnalyzeRuns
