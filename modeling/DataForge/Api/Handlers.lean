import DataForge.Api.Store
import DataForge.Orchestration.Workflows

namespace DataForge.Api.Handlers

open DataForge.Foundation.Strings
open DataForge.Foundation.Outcome
open DataForge.Foundation.Dictionary
open DataForge.Domain.Common
open DataForge.Domain.Compute
open DataForge.Domain.Artifact
open DataForge.Domain.Decision
open DataForge.Kernel.Idempotency
open DataForge.Kernel.ActionPlanPreview
open DataForge.Kernel.ActionPlanExecution
open DataForge.Orchestration.Cancellation
open DataForge.Orchestration.Workflows
open DataForge.Api.Store

structure ActionPlanPreviewRequest where
  platformJobId : NonEmptyStr
  organizationId : NonEmptyStr
  projectId : NonEmptyStr
  datasetId : NonEmptyStr
  sourceDatasetVersionId : NonEmptyStr
  decisionReportId : NonEmptyStr
  selectedDecisionIds : { ids : List NonEmptyStr // ids ≠ [] }
  selectedMethodOverrides : Dict NonEmptyStr NonEmptyStr
  methodRecommendations : { rs : List MethodRecommendation // rs ≠ [] }
  createdByUserId : NonEmptyStr
  inputArtifacts : List S3Uri
  targetVersionName : Option NonEmptyStr

structure CancelJobRequest where
  platformJobId : NonEmptyStr
  organizationId : NonEmptyStr
  projectId : NonEmptyStr
  reasonCode : NonEmptyStr

structure CancelJobResponse where
  status : ComputeRunStatus
  jobId : Text
  reasonCode : Text
  cancellationAccepted : Bool

structure ActionPlanGetResponse where
  actionPlan : ActionPlan
  jobId : Option NonEmptyStr
  actionPlanHash : Option Sha256Digest
  acceptedStepIds : List NonEmptyStr
  workflowType : Option WorkflowType
  statusUrl : Option Text
  mutatesDataset : Bool

/-- The accepted runs answer with the fields of the record that is kept of them. -/
inductive ApiResponse where
  | analyzeAccepted (record : JobResultRecord)
  | previewReady (jobId : NonEmptyStr) (actionPlan : ActionPlan)
  | executeAccepted (record : JobResultRecord) (acceptedStepIds : List NonEmptyStr)
  | cancelled (response : CancelJobResponse)
  | jobStatus (record : JobResultRecord)
  | actionPlan (response : ActionPlanGetResponse)

/-- The state of the application. The compute resources are the storage that every apply
run uses if the application was created with one; without, each run has its own. -/
structure AppState (σ : Type) where
  cancellationRegistry : CancellationRegistry
  computeStore : ComputeResultStore
  computeResources : Option σ

def AppState.onRegistry {σ : Type} (f : CancellationRegistry → CancellationRegistry)
    (app : AppState σ) : AppState σ :=
  { app with cancellationRegistry := f app.cancellationRegistry }

def createApp {σ : Type} (computeResources : Option σ) : AppState σ :=
  ⟨.empty, .empty, computeResources⟩

/-- What the handlers use of the rest of the service. -/
structure Service (σ : Type) where
  platform : Platform
  config : ServiceConfig
  analyzeFootprints : List PluginVersionFootprint
  inMemoryResources : σ
  materializeAnalyze : AnalyzeDatasetRequest → Datetime → Effect Raised σ Materialization
  materializeApply : ActionPlanExecuteApprovedRequest → Datetime → Effect Raised σ Materialization

section Post

variable {σ α : Type}

def inMemory (service : Service σ) (run : Effect Raised σ α) : Effect Raised (AppState σ) α :=
  .lift (run.run service.inMemoryResources).1

def onResources (service : Service σ) (run : Effect Raised σ α) : Effect Raised (AppState σ) α :=
  fun app => match app.computeResources with
  | none => (inMemory service run).run app
  | some resources => ((run.run resources).1,
      { app with computeResources := some (run.run resources).2 })

/-- A launch under the job's token, which is registered before and discarded after. -/
def withToken (jobId : NonEmptyStr) (launch : CancellationToken → Effect Raised (AppState σ) α) :
    Effect Raised (AppState σ) α := do
  let app ← Effect.get
  Effect.modify (AppState.onRegistry fun registry => registry.register jobId.1)
  Effect.finallyDo (launch (app.cancellationRegistry.token jobId.1))
    (AppState.onRegistry fun registry => registry.discard jobId.1)

theorem run_withToken (jobId : NonEmptyStr)
    (launch : CancellationToken → Effect Raised (AppState σ) α)
    (app : AppState σ) {app' : AppState σ} {r : Result α}
    (h : (launch (app.cancellationRegistry.token jobId.1)).run
      (app.onRegistry fun registry => registry.register jobId.1) = (r, app')) :
    (withToken jobId launch).run app =
      (r, app'.onRegistry fun registry => registry.discard jobId.1) := by
  have hrun : (withToken jobId launch).run app =
      (((launch (app.cancellationRegistry.token jobId.1)).run
        (app.onRegistry fun registry => registry.register jobId.1)).1,
      ((launch (app.cancellationRegistry.token jobId.1)).run
        (app.onRegistry fun registry => registry.register jobId.1)).2.onRegistry fun registry =>
          registry.discard jobId.1) := rfl
  rw [hrun, h]

def recordJob (record : JobResultRecord) : Effect Raised (AppState σ) Unit :=
  .modify fun app => { app with computeStore := app.computeStore.recordJob record }

theorem run_onResources {service : Service σ} {run : Effect Raised σ α} {app : AppState σ}
    {resources resources' : σ} {r : Result α} (happ : app.computeResources = some resources)
    (h : run.run resources = (r, resources')) :
    (onResources service run).run app = (r, { app with computeResources := some resources' }) := by
  obtain ⟨registry, store, _⟩ := app
  subst happ
  have hrun : (onResources service run).run ⟨registry, store, some resources⟩ =
      ((run.run resources).1, ⟨registry, store, some (run.run resources).2⟩) := rfl
  rw [hrun, h]

theorem run_onResources_none {service : Service σ} {run : Effect Raised σ α} {app : AppState σ}
    {resources' : σ} {r : Result α} (happ : app.computeResources = none)
    (h : run.run service.inMemoryResources = (r, resources')) :
    (onResources service run).run app = (r, app) := by
  obtain ⟨registry, store, _⟩ := app
  subst happ
  have hrun : (onResources service run).run ⟨registry, store, none⟩ =
      ((run.run service.inMemoryResources).1, ⟨registry, store, none⟩) := rfl
  rw [hrun, h]

def recordActionPlan (record : ActionPlanRecord) : Effect Raised (AppState σ) Unit :=
  .modify fun app => { app with computeStore := app.computeStore.recordActionPlan record }

def analyzeRecord (result : AnalyzeWorkflowResult) : JobResultRecord where
  jobId := result.jobId
  workflowType := .analyzeOnly
  status := .accepted
  statusUrl := result.statusUrl
  expectedOutputs := result.expectedOutputs
  materializedAssets := result.materializedAssets
  idempotencyKey := result.idempotencyKey
  mutatesDataset := false
  actionPlanId := none
  actionPlanHash := none
  candidateArtifact := none
  syntheticArtifactUri := none
  syntheticStatus := none
  modelImpactArtifactUri := none
  exportPackageArtifactUri := none

def applyRecord (payload : ActionPlanExecuteApprovedRequest) (actionPlanHash : Sha256Digest)
    (result : ApplyWorkflowResult) : JobResultRecord where
  jobId := payload.platformJobId
  workflowType := .applySelectedActions
  status := .accepted
  statusUrl := result.statusUrl
  expectedOutputs := result.expectedOutputs
  materializedAssets := result.materializedAssets
  idempotencyKey := result.idempotencyKey
  mutatesDataset := true
  actionPlanId := some payload.actionPlan.actionPlanId
  actionPlanHash := some actionPlanHash
  candidateArtifact := result.candidateArtifact
  syntheticArtifactUri := result.syntheticArtifactUri
  syntheticStatus := some result.syntheticStatus
  modelImpactArtifactUri := result.modelImpactArtifactUri
  exportPackageArtifactUri := result.exportPackageArtifactUri

def acceptedStepIds (plan : ActionPlan) : List NonEmptyStr := plan.steps.map ActionPlanStep.stepId

def ActionPlanPreviewRequest.build (payload : ActionPlanPreviewRequest) :
    BuildActionPlanPreviewRequest where
  decisionReportId := payload.decisionReportId
  sourceDatasetVersionId := payload.sourceDatasetVersionId
  selectedDecisionIds := payload.selectedDecisionIds
  selectedMethodOverrides := payload.selectedMethodOverrides
  methodRecommendations := payload.methodRecommendations
  createdByUserId := payload.createdByUserId
  inputArtifacts := payload.inputArtifacts
  targetVersionName := payload.targetVersionName
  createdAt := none

variable (service : Service σ) (now : Datetime)

def analyzeDataset (payload : AnalyzeDatasetRequest) : Effect Raised (AppState σ) ApiResponse := do
  let result ← withToken payload.platformJobId fun token =>
    inMemory service (launchAnalyzeDatasetWorkflow service.platform service.config
      service.analyzeFootprints (service.materializeAnalyze · now) payload token)
  recordJob (analyzeRecord result)
  pure (.analyzeAccepted (analyzeRecord result))

def previewActionPlan (payload : ActionPlanPreviewRequest) :
    Effect Raised (AppState σ) ApiResponse := do
  let plan ← Effect.lift (buildActionPlanPreview service.platform payload.build now)
  recordActionPlan ⟨plan, some payload.platformJobId, none, [], none, none⟩
  pure (.previewReady payload.platformJobId plan)

def executeApprovedActionPlan (payload : ActionPlanExecuteApprovedRequest) :
    Effect Raised (AppState σ) ApiResponse := do
  let actionPlanHash ← Effect.lift (validateActionPlanExecution service.platform
    ⟨payload.actionPlan, payload.sourceDatasetVersionId, payload.approvalMetadata⟩)
  let result ← withToken payload.platformJobId fun token =>
    onResources service (launchApplyActionsWorkflow service.platform service.config
      (service.materializeApply · now) payload actionPlanHash token)
  recordJob (applyRecord payload actionPlanHash result)
  recordActionPlan ⟨payload.actionPlan, some payload.platformJobId, some actionPlanHash,
    acceptedStepIds payload.actionPlan, some .applySelectedActions, some result.statusUrl⟩
  pure (.executeAccepted (applyRecord payload actionPlanHash result)
    (acceptedStepIds payload.actionPlan))

def cancelJob (platformJobId : Text) (payload : CancelJobRequest) :
    Effect Raised (AppState σ) ApiResponse := fun app =>
  if payload.platformJobId.1 ≠ platformJobId then
    (.ok (.cancelled ⟨.skipped, platformJobId, "platform_job_id_mismatch".toList, false⟩), app)
  else
    let accepted := app.cancellationRegistry.accepts platformJobId
    (.ok (.cancelled ⟨if accepted then .cancelled else .skipped, platformJobId,
      payload.reasonCode.1, accepted⟩),
     app.onRegistry fun registry => registry.cancel platformJobId payload.reasonCode.1)

end Post

section Get

variable {σ : Type}

def notFound (detail : String) : Raised :=
  .reasoned "HTTPException" detail .artifactNotFound (some 404) "Request could not be processed."

def getJobStatus (jobId : Text) (app : AppState σ) : Result ApiResponse :=
  match app.computeStore.getJob jobId with
  | none => .error (notFound "job_not_found")
  | some record => .ok (.jobStatus record)

def getActionPlan (actionPlanId : Text) (app : AppState σ) : Result ApiResponse :=
  match app.computeStore.getActionPlan actionPlanId with
  | none => .error (notFound "action_plan_not_found")
  | some record => .ok (.actionPlan ⟨record.actionPlan, record.jobId, record.actionPlanHash,
      record.acceptedStepIds, record.workflowType, record.statusUrl,
      record.workflowType = some .applySelectedActions⟩)

end Get

/-- The organization and the project that the caller's signature was verified for. -/
structure TenantScope where
  organizationId : NonEmptyStr
  projectId : NonEmptyStr
deriving DecidableEq

inductive ApiRequest where
  | analyze (payload : AnalyzeDatasetRequest)
  | preview (payload : ActionPlanPreviewRequest)
  | executeApproved (payload : ActionPlanExecuteApprovedRequest)
  | cancel (platformJobId : Text) (payload : CancelJobRequest)

/-- A request in the body of which the verified scope stands, as the signature check
requires. -/
def ApiRequest.scope : ApiRequest → TenantScope
  | .analyze payload => ⟨payload.organizationId, payload.projectId⟩
  | .preview payload => ⟨payload.organizationId, payload.projectId⟩
  | .executeApproved payload => ⟨payload.organizationId, payload.projectId⟩
  | .cancel _ payload => ⟨payload.organizationId, payload.projectId⟩

/-- The job ids under which a request uses the cancellation registry or the store. -/
def ApiRequest.jobIds : ApiRequest → List Text
  | .analyze payload => [payload.platformJobId.1]
  | .preview _ => []
  | .executeApproved payload => [payload.platformJobId.1]
  | .cancel platformJobId payload =>
    if payload.platformJobId.1 = platformJobId then [platformJobId] else []

/-- The plan ids under which a request can write to the store. -/
def ApiRequest.planIds : ApiRequest → List Text
  | .analyze _ | .cancel _ _ => []
  | .preview payload => [(actionPlanId payload.build).1]
  | .executeApproved payload => [payload.actionPlan.actionPlanId.1]

structure Call where
  request : ApiRequest
  now : Datetime

def handle {σ : Type} (service : Service σ) (call : Call) :
    Effect Raised (AppState σ) ApiResponse :=
  match call.request with
  | .analyze payload => analyzeDataset service call.now payload
  | .preview payload => previewActionPlan service call.now payload
  | .executeApproved payload => executeApprovedActionPlan service call.now payload
  | .cancel platformJobId payload => cancelJob platformJobId payload

inductive ReadRequest where
  | jobStatus (jobId : Text)
  | actionPlan (actionPlanId : Text)

def ReadRequest.jobIds : ReadRequest → List Text
  | .jobStatus jobId => [jobId]
  | .actionPlan _ => []

def ReadRequest.planIds : ReadRequest → List Text
  | .jobStatus _ => []
  | .actionPlan actionPlanId => [actionPlanId]

/-- The answer to a read request. The caller's verified identity is thrown away. -/
def handleRead {σ : Type} (app : AppState σ) (_identity : TenantScope) :
    ReadRequest → Result ApiResponse
  | .jobStatus jobId => getJobStatus jobId app
  | .actionPlan actionPlanId => getActionPlan actionPlanId app

end DataForge.Api.Handlers
