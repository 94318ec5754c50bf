import DataForge.Kernel.ActionPlanPreview
import DataForge.Kernel.Idempotency
import DataForge.Orchestration.Cancellation
import DataForge.Orchestration.Contexts

namespace DataForge.Orchestration.Workflows

open DataForge.Foundation.Strings
open DataForge.Foundation.Outcome
open DataForge.Domain.Common
open DataForge.Domain.Artifact
open DataForge.Domain.Decision
open DataForge.Domain.CandidateVersion
open DataForge.Kernel.Idempotency
open DataForge.Kernel.ActionPlanExecution
open DataForge.Orchestration.Cancellation
open DataForge.Orchestration.Contexts

structure ServiceConfig where
  configHash : Sha256Digest
  contractPackVersion : NonEmptyStr

structure AnalyzeDatasetRequest where
  platformJobId : NonEmptyStr
  organizationId : NonEmptyStr
  projectId : NonEmptyStr
  datasetId : NonEmptyStr
  datasetVersionId : NonEmptyStr
  datasetObjectRefs : { refs : List ArtifactRef // refs ≠ [] }
  predictionArtifactRefs : List ArtifactRef

structure ActionPlanExecuteApprovedRequest where
  platformJobId : NonEmptyStr
  organizationId : NonEmptyStr
  projectId : NonEmptyStr
  datasetId : NonEmptyStr
  sourceDatasetVersionId : NonEmptyStr
  actionPlan : ActionPlan
  approvalMetadata : Option ActionPlanApprovalMetadata
  sourceArtifacts : List ArtifactRef

/-- One asset of a materialization, with the metadata the launchers read. -/
structure AssetMaterialization where
  assetName : Text
  artifactUri : Option Text
  assetStatus : Option Text
  finalCandidate : Option (Text × Text)
  finalExportUri : Option Text

structure Materialization where
  success : Bool
  events : List AssetMaterialization

structure AnalyzeWorkflowResult where
  jobId : NonEmptyStr
  statusUrl : Text
  expectedOutputs : List Text
  materializedAssets : List Text
  idempotencyKey : Sha256Digest

structure ApplyWorkflowResult where
  jobId : NonEmptyStr
  statusUrl : Text
  expectedOutputs : List Text
  materializedAssets : List Text
  idempotencyKey : Sha256Digest
  candidateArtifact : Option (Text × Text)
  syntheticArtifactUri : Option Text
  syntheticStatus : Text
  modelImpactArtifactUri : Option Text
  exportPackageArtifactUri : Option Text

def statusUrl (jobId : NonEmptyStr) : Text := "/api/v1/jobs/".toList ++ jobId.1 ++ "/status".toList

def cancelledError (workflow moment : String) (token : CancellationToken) : Raised :=
  .plain "RunCancelledError"
    (workflow ++ " workflow cancelled " ++ moment ++ ": " ++ String.ofList token.reasonCode)

def Raised.text : Raised → Text
  | .coded _ _ message | .reasoned _ _ _ _ message | .plain _ message => message.toList
  | .validation model field => model.toList ++ '.' :: field.toList

section Materialize

variable {σ : Type} (p : Platform) (workflow : String) (token : CancellationToken)

/-- A run between the launcher's two looks at its token. What `materialize` does to
the run's storage is a parameter. -/
def runAssets (materialize : Effect Raised σ Materialization) :
    Effect Raised σ (List AssetMaterialization) := do
  Effect.ensure (token.cancelled = false) (cancelledError workflow "before materialization" token)
  let result ← Effect.tryCatch materialize fun e => Effect.raise (.plain "RuntimeError"
    (workflow ++ " workflow materialization raised: " ++ (classifyFailure p (Raised.text e)).value))
  Effect.ensure (token.cancelled = false) (cancelledError workflow "after materialization" token)
  Effect.ensure (result.success = true)
    (.plain "RuntimeError" (workflow ++ " workflow materialization failed"))
  pure result.events

variable {p workflow token} {materialize : Effect Raised σ Materialization}
  {events : List AssetMaterialization} {s t : σ}

theorem run_runAssets_ok (htoken : token.cancelled = false)
    (h : materialize.run s = (.ok ⟨true, events⟩, t)) :
    (runAssets p workflow token materialize).run s = (.ok events, t) := by
  simp only [runAssets, Effect.ensure, guardOk, htoken, if_true, Effect.lift_ok_bind]
  rw [Effect.run_bind_ok (Effect.run_tryCatch_ok h _)]
  simp only [if_true, Effect.lift_ok_bind, Effect.run_pure]

theorem run_runAssets_failed (htoken : token.cancelled = false)
    (h : materialize.run s = (.ok ⟨false, events⟩, t)) :
    (runAssets p workflow token materialize).run s =
      (.error (.plain "RuntimeError" (workflow ++ " workflow materialization failed")), t) := by
  simp only [runAssets, Effect.ensure, guardOk, htoken, if_true, Effect.lift_ok_bind]
  rw [Effect.run_bind_ok (Effect.run_tryCatch_ok h _)]
  rfl

end Materialize

section Analyze

def baseAnalyzeAssets : List Text :=
  ["raw_manifest".toList, "validated_manifest".toList, "tabular_profile_report".toList,
    "object_analytics_passports".toList, "evidence_bundle".toList, "decision_report".toList,
    "recommended_actions".toList, "review_queue".toList]

def predictionAnalyzeAssets : List Text :=
  ["prediction_manifest".toList, "prediction_validation_report".toList,
    "model_error_analysis_report".toList, "ambiguous_object_candidates".toList,
    "probable_label_error_candidates".toList]

def expectedAnalyzeOutputs (includePredictions : Bool) : List Text :=
  baseAnalyzeAssets ++ if includePredictions then predictionAnalyzeAssets else []

def analyzeIdempotencyInputs (config : ServiceConfig) (footprints : List PluginVersionFootprint)
    (request : AnalyzeDatasetRequest) : AnalyzeIdempotencyInputs where
  organizationId := request.organizationId
  projectId := request.projectId
  datasetId := request.datasetId
  datasetVersionId := request.datasetVersionId
  inputArtifactHashes := collectArtifactHashes request.datasetObjectRefs.1
  predictionArtifactHashes := collectArtifactHashes request.predictionArtifactRefs
  configHash := config.configHash
  contractPackVersion := config.contractPackVersion
  pluginVersions := footprints

variable {σ : Type} (p : Platform) (config : ServiceConfig)
  (footprints : List PluginVersionFootprint)
  (materialize : AnalyzeDatasetRequest → Effect Raised σ Materialization)

def launchAnalyzeDatasetWorkflow (request : AnalyzeDatasetRequest) (token : CancellationToken) :
    Effect Raised σ AnalyzeWorkflowResult := do
  let events ← runAssets p "ANALYZE_ONLY" token (materialize request)
  pure
    { jobId := request.platformJobId
      statusUrl := statusUrl request.platformJobId
      expectedOutputs := expectedAnalyzeOutputs !request.predictionArtifactRefs.isEmpty
      materializedAssets := events.map AssetMaterialization.assetName
      idempotencyKey := computeAnalyzeIdempotencyKey
        (analyzeIdempotencyInputs config footprints request) }

end Analyze

section Apply

def applyAssets : List Text :=
  ["action_plan".toList, "remediation_execution_report".toList, "prepared_dataset".toList,
    "synthetic_dataset".toList, "model_impact_report".toList, "export_package".toList]

def syntheticActionTypes : List Text :=
  ["AUGMENT_RARE_CLASS".toList, "GENERATE_SYNTHETIC_CANDIDATE".toList]

def collectSyntheticStepIds (plan : ActionPlan) : List Text :=
  (plan.steps.filter fun step => step.type.1 ∈ syntheticActionTypes).map fun step => step.stepId.1

/-- `source.replace(old, new)` for a text that is not empty. -/
def replaceAll (old new : Text) : Nat → Text → Text
  | 0, s => s
  | _, [] => []
  | n + 1, c :: s =>
    if old.isPrefixOf (c :: s) then new ++ replaceAll old new n ((c :: s).drop old.length)
    else c :: replaceAll old new n s

def defaultProposedVersionName (sourceDatasetVersionId actionPlanId : NonEmptyStr) : NonEmptyStr :=
  let stripped := replaceAll "action_plan_".toList [] actionPlanId.1.length actionPlanId.1
  let suffix := stripped.map fun c => if c = '/' then '_' else c
  ⟨(sourceDatasetVersionId.1 ++ "__candidate_".toList ++ suffix).take 200, by
    have hne := sourceDatasetVersionId.2
    simp [hne]⟩

def defaultConfigHash (plan : ActionPlan) : Sha256Digest :=
  (plan.steps.head?.map ActionPlanStep.configHash).getD zeroDigest

def defaultPolicyVersions : CandidatePolicyVersions where
  profilePolicyVersion := literal "demo_strict_v1"
  decisionPolicyVersion := literal "decision_policy_v0"
  scorePolicyVersion := literal "dataforge_score_v0"
  methodPolicyVersion := literal "method_policy_v0"
  validationGatesPolicyVersion := some (literal "validation_gates_policy_v0")

def buildApplyContext (request : ActionPlanExecuteApprovedRequest) : ApplyRunContext where
  actionPlanId := request.actionPlan.actionPlanId.1
  decisionReportId := request.actionPlan.createdFromDecisionReport.1
  sourceDatasetVersionId := request.sourceDatasetVersionId.1
  proposedVersionName := (defaultProposedVersionName request.sourceDatasetVersionId
    request.actionPlan.actionPlanId).1
  configHash := (defaultConfigHash request.actionPlan).1
  policyVersions := defaultPolicyVersions
  actionPlan := some request.actionPlan
  inputArtifacts := request.sourceArtifacts
  syntheticStepIds := collectSyntheticStepIds request.actionPlan
  requireModelImpactEligibility := false

def policyVersionTexts (versions : CandidatePolicyVersions) : TextMapping :=
  ⟨[("profile".toList, versions.profilePolicyVersion.1),
    ("decision".toList, versions.decisionPolicyVersion.1),
    ("score".toList, versions.scorePolicyVersion.1),
    ("method".toList, versions.methodPolicyVersion.1),
    ("validation_gates".toList, (versions.validationGatesPolicyVersion.map Subtype.val).getD
      "not_recorded".toList)], by
    have hkeys : ["profile".toList, "decision".toList, "score".toList, "method".toList,
      "validation_gates".toList].Nodup := by decide
    exact hkeys⟩

def pluginFootprintsFromActionPlan (plan : ActionPlan) : List PluginVersionFootprint :=
  plan.steps.map fun step => ⟨step.pluginId, step.pluginVersion, step.methodId, step.pluginVersion⟩

def applyIdempotencyInputs (config : ServiceConfig) (request : ActionPlanExecuteApprovedRequest)
    (actionPlanHash : Sha256Digest) : ApplyIdempotencyInputs where
  organizationId := request.organizationId
  projectId := request.projectId
  datasetId := request.datasetId
  sourceDatasetVersionId := request.sourceDatasetVersionId
  proposedVersionName := defaultProposedVersionName request.sourceDatasetVersionId
    request.actionPlan.actionPlanId
  actionPlanHash := actionPlanHash
  inputArtifactHashes := collectArtifactHashes request.sourceArtifacts
  predictionArtifactHashes := []
  configHash := defaultConfigHash request.actionPlan
  contractPackVersion := config.contractPackVersion
  policyVersions := policyVersionTexts defaultPolicyVersions
  stepIdempotencyKeys := request.actionPlan.steps.map ActionPlanStep.idempotencyKey
  pluginVersions := pluginFootprintsFromActionPlan request.actionPlan

def ApplyWorkflowResult.collect (result : ApplyWorkflowResult) (event : AssetMaterialization) :
    ApplyWorkflowResult :=
  if event.assetName = "synthetic_dataset".toList then
    let status := event.assetStatus.getD result.syntheticStatus
    { result with
      syntheticStatus := status
      syntheticArtifactUri := if status = "materialized".toList then
        event.artifactUri.or result.syntheticArtifactUri else result.syntheticArtifactUri }
  else if event.assetName = "model_impact_report".toList then
    { result with modelImpactArtifactUri := event.artifactUri.or result.modelImpactArtifactUri }
  else if event.assetName = "export_package".toList then
    { result with
      candidateArtifact := event.finalCandidate.or result.candidateArtifact
      exportPackageArtifactUri := event.finalExportUri.or result.exportPackageArtifactUri }
  else result

variable {σ : Type} (p : Platform) (config : ServiceConfig)
  (materialize : ActionPlanExecuteApprovedRequest → Effect Raised σ Materialization)

def launchApplyActionsWorkflow (request : ActionPlanExecuteApprovedRequest)
    (actionPlanHash : Sha256Digest) (token : CancellationToken) :
    Effect Raised σ ApplyWorkflowResult := do
  Effect.ensure (request.approvalMetadata.isSome = true) (.plain "ValueError"
    ("launch_apply_actions_workflow requires approval_metadata" ++
      " from the platform; refusing to materialize APPLY assets"))
  let events ← runAssets p "APPLY_SELECTED_ACTIONS" token (materialize request)
  pure (events.foldl ApplyWorkflowResult.collect
    { jobId := request.platformJobId
      statusUrl := statusUrl request.platformJobId
      expectedOutputs := applyAssets
      materializedAssets := events.map AssetMaterialization.assetName
      idempotencyKey := computeApplyIdempotencyKey
        (applyIdempotencyInputs config request actionPlanHash)
      candidateArtifact := none
      syntheticArtifactUri := none
      syntheticStatus := if collectSyntheticStepIds request.actionPlan = [] then
        "not_applicable".toList else "pending".toList
      modelImpactArtifactUri := none
      exportPackageArtifactUri := none })

variable {p config materialize} {request : ActionPlanExecuteApprovedRequest}
  {actionPlanHash : Sha256Digest} {token : CancellationToken} {events : List AssetMaterialization}
  {s t : σ}

theorem run_launchApplyActionsWorkflow_ok (happroved : request.approvalMetadata.isSome = true)
    (htoken : token.cancelled = false)
    (h : (materialize request).run s = (.ok ⟨true, events⟩, t)) :
    ∃ result, (launchApplyActionsWorkflow p config materialize request actionPlanHash token).run s =
      (.ok result, t) := by
  simp only [launchApplyActionsWorkflow, Effect.ensure, guardOk, happroved, if_true,
    Effect.lift_ok_bind]
  rw [Effect.run_bind_ok (run_runAssets_ok htoken h)]
  exact ⟨_, rfl⟩

theorem run_launchApplyActionsWorkflow_failed (happroved : request.approvalMetadata.isSome = true)
    (htoken : token.cancelled = false)
    (h : (materialize request).run s = (.ok ⟨false, events⟩, t)) :
    ∃ e, (launchApplyActionsWorkflow p config materialize request actionPlanHash token).run s =
      (.error e, t) := by
  simp only [launchApplyActionsWorkflow, Effect.ensure, guardOk, happroved, if_true,
    Effect.lift_ok_bind]
  rw [Effect.run_bind_error (run_runAssets_failed htoken h)]
  exact ⟨_, rfl⟩

end Apply

end DataForge.Orchestration.Workflows
