import DataForge.Api.Handlers
import DataForge.Foundation.Noninterference
import DataForge.Orchestration.ApplySource

namespace DataForge.Api.TenantIsolation

open DataForge.Foundation.Strings
open DataForge.Foundation.Outcome
open DataForge.Foundation.Runs
open DataForge.Foundation.Noninterference
open DataForge.Domain.Common
open DataForge.Domain.Artifact
open DataForge.Kernel.ActionPlanPreview
open DataForge.Kernel.ActionPlanExecution
open DataForge.Orchestration.Cancellation
open DataForge.Orchestration.Workflows
open DataForge.Api.Store
open DataForge.Api.Handlers

section Launches

variable {σ : Type} {Same : σ → σ → Prop} {p : Platform} {workflow : String}
  {token : CancellationToken} {materialize : Effect Raised σ Materialization}

theorem respects_runAssets (h : Respects Same materialize) :
    Respects Same (runAssets p workflow token materialize) :=
  .bind (.ensure _ _) fun _ => .bind (.tryCatch h fun _ => .raise _) fun _ =>
    .bind (.ensure _ _) fun _ => .bind (.ensure _ _) fun _ => .pure _

theorem invisible_runAssets (h : Invisible Same materialize) :
    Invisible Same (runAssets p workflow token materialize) :=
  .bind (.ensure _ _) fun _ _ _ => .bind (.tryCatch h fun _ => .raise _) fun _ _ _ =>
    .bind (.ensure _ _) fun _ _ _ => .bind (.ensure _ _) fun _ _ _ => .pure _

/-- An analyze run that was launched answers for the job that it was launched for. -/
theorem jobId_of_launched {service : Service σ} {now : Datetime} {payload : AnalyzeDatasetRequest}
    {result : AnalyzeWorkflowResult} {app : AppState σ}
    (h : ((withToken payload.platformJobId fun token => inMemory service
      (launchAnalyzeDatasetWorkflow service.platform service.config service.analyzeFootprints
        (service.materializeAnalyze · now) payload token)).run app).1 = .ok result) :
    result.jobId = payload.platformJobId := by
  change ((launchAnalyzeDatasetWorkflow service.platform service.config service.analyzeFootprints
    (service.materializeAnalyze · now) payload _).run service.inMemoryResources).1 = .ok result at h
  obtain ⟨events, t, -, hresult⟩ := Effect.run_bind_eq_ok.mp (Prod.ext h rfl)
  rw [Effect.run_pure] at hresult
  cases hresult
  rfl

end Launches

/-- What an observer of some job ids and some plan ids can tell about the application. -/
structure AgreeOn {σ : Type} (Same : σ → σ → Prop) (jobIds planIds : Text → Prop)
    (s t : AppState σ) : Prop where
  entries : ∀ j, jobIds j → s.cancellationRegistry.entry j = t.cancellationRegistry.entry j
  jobs : ∀ j, jobIds j → s.computeStore.getJob j = t.computeStore.getJob j
  actionPlans : ∀ a, planIds a → s.computeStore.getActionPlan a = t.computeStore.getActionPlan a
  resources : Option.Rel Same s.computeResources t.computeResources

section Steps

variable {σ α : Type} {Same : σ → σ → Prop} {jobIds planIds : Text → Prop} {service : Service σ}
  {run : Effect Raised σ α} {jobId : NonEmptyStr}
  {launch : CancellationToken → Effect Raised (AppState σ) α}

theorem respects_inMemory : Respects (AgreeOn Same jobIds planIds) (inMemory service run) :=
  .lift _

theorem invisible_inMemory : Invisible (AgreeOn Same jobIds planIds) (inMemory service run) :=
  .lift _

theorem respects_onResources (h : Respects Same run) :
    Respects (AgreeOn Same jobIds planIds) (onResources service run) := by
  rintro ⟨r, c, s⟩ ⟨r', c', t⟩ ⟨hentries, hjobs, hplans, hresources⟩
  cases hresources with
  | none => exact ⟨rfl, hentries, hjobs, hplans, .none⟩
  | some hst => exact ⟨(h _ _ hst).1, hentries, hjobs, hplans, .some (h _ _ hst).2⟩

theorem invisible_onResources (h : Invisible Same run) :
    Invisible (AgreeOn Same jobIds planIds) (onResources service run) := by
  rintro ⟨r, c, s⟩ ⟨r', c', t⟩ ⟨hentries, hjobs, hplans, hresources⟩
  cases hresources with
  | none => exact ⟨hentries, hjobs, hplans, .none⟩
  | some hst => exact ⟨hentries, hjobs, hplans, .some (h _ _ hst)⟩

theorem AgreeOn.onRegistry {s t : AppState σ} (h : AgreeOn Same jobIds planIds s t)
    {f g : CancellationRegistry → CancellationRegistry}
    (hfg : ∀ j,
      jobIds j → (f s.cancellationRegistry).entry j = (g t.cancellationRegistry).entry j) :
    AgreeOn Same jobIds planIds (s.onRegistry f) (t.onRegistry g) :=
  ⟨hfg, h.jobs, h.actionPlans, h.resources⟩

theorem respects_withToken (hjob : jobIds jobId.1)
    (h : ∀ token, Respects (AgreeOn Same jobIds planIds) (launch token)) :
    Respects (AgreeOn Same jobIds planIds) (withToken jobId launch) := by
  intro s t hst
  have hrest (token : CancellationToken) : Respects (AgreeOn Same jobIds planIds) (do
      Effect.modify (AppState.onRegistry fun registry => registry.register jobId.1)
      Effect.finallyDo (launch token)
        (AppState.onRegistry fun registry => registry.discard jobId.1)) :=
    .bind (.modify fun s t h => h.onRegistry fun j hj => by
        simp only [CancellationRegistry.entry_register, h.entries j hj]) fun _ =>
      .finallyDo (h token) fun s t h => h.onRegistry fun j hj => by
        simp only [CancellationRegistry.entry_discard, h.entries j hj]
  have hrun (app : AppState σ) : (withToken jobId launch).run app = (do
      Effect.modify (AppState.onRegistry fun registry => registry.register jobId.1)
      Effect.finallyDo (launch (app.cancellationRegistry.token jobId.1))
        (AppState.onRegistry fun registry => registry.discard jobId.1) :
          Effect _ _ α).run app := rfl
  rw [hrun, hrun, CancellationRegistry.token_eq (hst.entries _ hjob)]
  exact hrest _ s t hst

theorem invisible_withToken (hjob : ¬ jobIds jobId.1)
    (h : ∀ token, Invisible (AgreeOn Same jobIds planIds) (launch token)) :
    Invisible (AgreeOn Same jobIds planIds) (withToken jobId launch) := by
  have hne (j : Text) (hj : jobIds j) : jobId.1 ≠ j := fun he => hjob (he ▸ hj)
  intro s t hst
  have hregistered : AgreeOn Same jobIds planIds
      (s.onRegistry fun registry => registry.register jobId.1) t :=
    hst.onRegistry (g := id) fun j hj => by
      rw [CancellationRegistry.entry_register, if_neg (hne j hj), hst.entries j hj]
      rfl
  have hlaunched := h (s.cancellationRegistry.token jobId.1) _ _ hregistered
  exact hlaunched.onRegistry (f := fun registry => registry.discard jobId.1) (g := id)
    fun j hj => by
    rw [CancellationRegistry.entry_discard, if_neg (hne j hj), hlaunched.entries j hj]
    rfl

theorem respects_recordJob (record : JobResultRecord) :
    Respects (AgreeOn Same jobIds planIds) (recordJob record) :=
  .modify fun s t h => ⟨h.entries, fun j hj => by
    simp only [ComputeResultStore.getJob_recordJob, h.jobs j hj], h.actionPlans, h.resources⟩

theorem respects_recordActionPlan (record : ActionPlanRecord) :
    Respects (AgreeOn Same jobIds planIds) (recordActionPlan record) :=
  .modify fun s t h => ⟨h.entries, h.jobs, fun a ha => by
    simp only [ComputeResultStore.getActionPlan_recordActionPlan, h.actionPlans a ha], h.resources⟩

theorem invisible_recordJob {record : JobResultRecord} (hjob : ¬ jobIds record.jobId.1) :
    Invisible (AgreeOn Same jobIds planIds) (recordJob record) :=
  .modify fun s t h => ⟨h.entries, fun j hj => by
    have hne : record.jobId.1 ≠ j := fun he => hjob (he ▸ hj)
    simp only [ComputeResultStore.getJob_recordJob, if_neg hne, h.jobs j hj],
    h.actionPlans, h.resources⟩

theorem invisible_recordActionPlan {record : ActionPlanRecord}
    (hplan : ¬ planIds record.actionPlan.actionPlanId.1) :
    Invisible (AgreeOn Same jobIds planIds) (recordActionPlan record) :=
  .modify fun s t h => ⟨h.entries, h.jobs, fun a ha => by
    have hne : record.actionPlan.actionPlanId.1 ≠ a := fun he => hplan (he ▸ ha)
    simp only [ComputeResultStore.getActionPlan_recordActionPlan, if_neg hne, h.actionPlans a ha],
    h.resources⟩

variable {now : Datetime}

theorem respects_analyzeDataset {payload : AnalyzeDatasetRequest}
    (hjob : jobIds payload.platformJobId.1) :
    Respects (AgreeOn Same jobIds planIds) (analyzeDataset service now payload) :=
  .bind (respects_withToken hjob fun _ => respects_inMemory) fun _ =>
    .bind (respects_recordJob _) fun _ => .pure _

theorem respects_previewActionPlan {payload : ActionPlanPreviewRequest} :
    Respects (AgreeOn Same jobIds planIds) (previewActionPlan service now payload) :=
  .bind (.lift _) fun _ => .bind (respects_recordActionPlan _) fun _ => .pure _

theorem respects_executeApprovedActionPlan {payload : ActionPlanExecuteApprovedRequest}
    (hjob : jobIds payload.platformJobId.1)
    (hrun : Respects Same (service.materializeApply payload now)) :
    Respects (AgreeOn Same jobIds planIds) (executeApprovedActionPlan service now payload) :=
  .bind (.lift _) fun _ =>
    .bind (respects_withToken hjob fun _ => respects_onResources
      (.bind (.ensure _ _) fun _ => .bind (respects_runAssets hrun) fun _ => .pure _)) fun _ =>
    .bind (respects_recordJob _) fun _ => .bind (respects_recordActionPlan _) fun _ => .pure _

theorem respects_cancelJob {platformJobId : Text} {payload : CancelJobRequest}
    (hjob : payload.platformJobId.1 = platformJobId → jobIds platformJobId) :
    Respects (AgreeOn (σ := σ) Same jobIds planIds) (cancelJob platformJobId payload) := by
  intro s t hst
  by_cases hid : payload.platformJobId.1 = platformJobId
  · have haccepts := CancellationRegistry.accepts_eq (hst.entries _ (hjob hid))
    simp only [cancelJob, Effect.run, hid, ne_eq, not_true_eq_false, if_false, haccepts, true_and]
    exact hst.onRegistry fun j hj => by
      simp only [CancellationRegistry.entry_cancel, hst.entries j hj]
  · simpa only [cancelJob, Effect.run, hid, ne_eq, not_false_eq_true, if_true, true_and] using hst

theorem invisible_analyzeDataset {payload : AnalyzeDatasetRequest}
    (hjob : ¬ jobIds payload.platformJobId.1) :
    Invisible (AgreeOn Same jobIds planIds) (analyzeDataset service now payload) := by
  refine .bind (invisible_withToken hjob fun _ => invisible_inMemory) fun result s hresult => ?_
  have hid : (analyzeRecord result).jobId = payload.platformJobId := jobId_of_launched hresult
  exact .bind (invisible_recordJob (hid ▸ hjob)) fun _ _ _ => .pure _

theorem invisible_previewActionPlan {payload : ActionPlanPreviewRequest}
    (hplan : ¬ planIds (actionPlanId payload.build).1) :
    Invisible (AgreeOn Same jobIds planIds) (previewActionPlan service now payload) := by
  refine .bind (.lift _) fun plan s hresult => ?_
  have hid : plan.actionPlanId = actionPlanId payload.build := actionPlanId_of_ok hresult
  exact .bind (invisible_recordActionPlan (hid ▸ hplan)) fun _ _ _ => .pure _

theorem invisible_executeApprovedActionPlan {payload : ActionPlanExecuteApprovedRequest}
    (hjob : ¬ jobIds payload.platformJobId.1) (hplan : ¬ planIds payload.actionPlan.actionPlanId.1)
    (hrun : Invisible Same (service.materializeApply payload now)) :
    Invisible (AgreeOn Same jobIds planIds) (executeApprovedActionPlan service now payload) :=
  .bind (.lift _) fun _ _ _ =>
    .bind (invisible_withToken hjob fun _ => invisible_onResources
      (.bind (.ensure _ _) fun _ _ _ => .bind (invisible_runAssets hrun) fun _ _ _ => .pure _))
    fun _ _ _ => .bind (invisible_recordJob hjob) fun _ _ _ =>
      .bind (invisible_recordActionPlan hplan) fun _ _ _ => .pure _

theorem invisible_cancelJob {platformJobId : Text} {payload : CancelJobRequest}
    (hjob : payload.platformJobId.1 = platformJobId → ¬ jobIds platformJobId) :
    Invisible (AgreeOn (σ := σ) Same jobIds planIds) (cancelJob platformJobId payload) := by
  intro s t hst
  by_cases hid : payload.platformJobId.1 = platformJobId
  · have hne (j : Text) (hj : jobIds j) : platformJobId ≠ j := fun he => hjob hid (he ▸ hj)
    simp only [cancelJob, Effect.run, hid, ne_eq, not_true_eq_false, if_false]
    exact hst.onRegistry (g := id) fun j hj => by
      rw [CancellationRegistry.entry_cancel, if_neg (hne j hj), hst.entries j hj]
      rfl
  · simpa only [cancelJob, Effect.run, hid, ne_eq, not_false_eq_true, if_true] using hst

end Steps

section Runs

variable {σ : Type} (service : Service σ) (scope : TenantScope)

/-- The runs of other scopes do not show in what a run of this scope reads from the
shared storage. -/
structure SeparateResources (Same : σ → σ → Prop) : Prop where
  refl : ∀ resources, Same resources resources
  own : ∀ payload now, (ApiRequest.executeApproved payload).scope = scope →
    Respects Same (service.materializeApply payload now)
  foreign : ∀ payload now, (ApiRequest.executeApproved payload).scope ≠ scope →
    Invisible Same (service.materializeApply payload now)

/-- No request of another scope uses a job id that this scope's requests use, or an id
that it reads. -/
def SeparateIds (calls : List Call) (request : ReadRequest) : Prop :=
  ∀ foreign ∈ calls, foreign.request.scope ≠ scope →
    (∀ j ∈ foreign.request.jobIds, j ∉ request.jobIds ∧
      ∀ call ∈ calls, call.request.scope = scope → j ∉ call.request.jobIds) ∧
    ∀ a ∈ foreign.request.planIds, a ∉ request.planIds

variable {service scope} {Same : σ → σ → Prop} {jobIds planIds : Text → Prop}

theorem respects_handle {call : Call} (hjobs : ∀ j ∈ call.request.jobIds, jobIds j)
    (hrun : ∀ payload, call.request = .executeApproved payload →
      Respects Same (service.materializeApply payload call.now)) :
    Respects (AgreeOn Same jobIds planIds) (handle service call) := by
  obtain ⟨request, now⟩ := call
  cases request with
  | analyze payload => exact respects_analyzeDataset (hjobs _ (by simp [ApiRequest.jobIds]))
  | preview payload => exact respects_previewActionPlan
  | executeApproved payload =>
    exact respects_executeApprovedActionPlan (hjobs _ (by simp [ApiRequest.jobIds]))
      (hrun payload rfl)
  | cancel platformJobId payload =>
    exact respects_cancelJob fun hid => hjobs _ (by simp [ApiRequest.jobIds, hid])

theorem invisible_handle {call : Call} (hjobs : ∀ j ∈ call.request.jobIds, ¬ jobIds j)
    (hplans : ∀ a ∈ call.request.planIds, ¬ planIds a)
    (hrun : ∀ payload, call.request = .executeApproved payload →
      Invisible Same (service.materializeApply payload call.now)) :
    Invisible (AgreeOn Same jobIds planIds) (handle service call) := by
  obtain ⟨request, now⟩ := call
  cases request with
  | analyze payload => exact invisible_analyzeDataset (hjobs _ (by simp [ApiRequest.jobIds]))
  | preview payload => exact invisible_previewActionPlan (hplans _ (by simp [ApiRequest.planIds]))
  | executeApproved payload =>
    exact invisible_executeApprovedActionPlan (hjobs _ (by simp [ApiRequest.jobIds]))
      (hplans _ (by simp [ApiRequest.planIds])) (hrun payload rfl)
  | cancel platformJobId payload =>
    exact invisible_cancelJob fun hid => hjobs _ (by simp [ApiRequest.jobIds, hid])

theorem handleRead_congr {s t : AppState σ} {request : ReadRequest}
    (h : AgreeOn Same jobIds planIds s t) (hjobs : ∀ j ∈ request.jobIds, jobIds j)
    (hplans : ∀ a ∈ request.planIds, planIds a) :
    handleRead s scope request = handleRead t scope request := by
  cases request with
  | jobStatus jobId =>
    have hjob := h.jobs jobId (hjobs _ (by simp [ReadRequest.jobIds]))
    simp only [handleRead, getJobStatus, hjob]
  | actionPlan actionPlanId =>
    have hplan := h.actionPlans actionPlanId (hplans _ (by simp [ReadRequest.planIds]))
    simp only [handleRead, getActionPlan, hplan]

/-- As long as the scopes keep to their own ids, and to their own part of a shared
storage, no answer depends on another scope's requests. -/
theorem handleRead_filter_scope (app : AppState σ) (calls : List Call) (request : ReadRequest)
    (hresources : app.computeResources = none ∨ ∃ Same, SeparateResources service scope Same)
    (hids : SeparateIds scope calls request) :
    handleRead (after (handle service) calls app) scope request =
      handleRead
        (after (handle service) (calls.filter fun call => call.request.scope = scope) app) scope
        request := by
  have hsame : ∃ Same : σ → σ → Prop, Option.Rel Same app.computeResources app.computeResources ∧
      (∀ payload now, (ApiRequest.executeApproved payload).scope = scope →
        Respects Same (service.materializeApply payload now)) ∧
      ∀ payload now, (ApiRequest.executeApproved payload).scope ≠ scope →
        Invisible Same (service.materializeApply payload now) := by
    rcases hresources with hnone | ⟨Same, hseparate⟩
    · refine ⟨fun _ _ => False, hnone ▸ .none, ?_, ?_⟩
      · exact fun _ _ _ _ _ hfalse => hfalse.elim
      · exact fun _ _ _ _ _ hfalse => hfalse.elim
    · refine ⟨Same, ?_, hseparate.own, hseparate.foreign⟩
      cases app.computeResources with
      | none => exact .none
      | some resources => exact .some (hseparate.refl resources)
  obtain ⟨Same, hrefl, hown, hforeign⟩ := hsame
  let jobIds j := j ∈ request.jobIds ∨
    ∃ call ∈ calls, call.request.scope = scope ∧ j ∈ call.request.jobIds
  have hagree : AgreeOn Same jobIds (· ∈ request.planIds) app app :=
    ⟨fun _ _ => rfl, fun _ _ => rfl, fun _ _ => rfl, hrefl⟩
  refine handleRead_congr
    (after_purge (fun call hcall hscope => ?_) (fun call hcall hscope => ?_) hagree)
    (fun j hj => Or.inl hj) fun a ha => ha
  · have hscope : call.request.scope = scope := by simpa using hscope
    exact respects_handle (fun j hj => Or.inr ⟨call, hcall, hscope, hj⟩)
      fun payload hpayload => hown payload _ (hpayload ▸ hscope)
  · have hscope : call.request.scope ≠ scope := by simpa using hscope
    obtain ⟨hjobs, hplans⟩ := hids call hcall hscope
    refine invisible_handle (fun j hj hused => ?_) hplans fun payload hpayload =>
      hforeign payload _ (hpayload ▸ hscope)
    obtain hread | ⟨own, howncall, hownscope, hownjob⟩ := hused
    · exact (hjobs j hj).1 hread
    · exact (hjobs j hj).2 own howncall hownscope hownjob

end Runs

section SharedIds

open DataForge.Orchestration.ApplySource

/-- An apply run of this service reads its sources from a list of uris and adds the
uri of its candidate. -/
def demoService : Service (List Text) where
  platform := asciiPlatform
  config := ⟨zeroDigest, literal "1.0.0"⟩
  analyzeFootprints := []
  inMemoryResources := []
  materializeAnalyze _ _ :=
    pure ⟨true, (expectedAnalyzeOutputs false).map fun name => ⟨name, none, none, none, none⟩⟩
  materializeApply payload _ := fun uris =>
    if payload.sourceArtifacts.all fun source => source.uri.1 ∈ uris then
      (.ok ⟨true, applyAssets.map fun name => ⟨name, none, none, none, none⟩⟩,
        ("s3://b/".toList ++ payload.platformJobId.1) :: uris)
    else (.ok ⟨false, []⟩, uris)

def alpha : TenantScope := ⟨literal "alpha", literal "project"⟩

def beta : TenantScope := ⟨literal "beta", literal "project"⟩

def analyzeCall (scope : TenantScope) (platformJobId : NonEmptyStr) : Call where
  request := .analyze
    { platformJobId := platformJobId
      organizationId := scope.organizationId
      projectId := scope.projectId
      datasetId := literal "dataset"
      datasetVersionId := literal "v1"
      datasetObjectRefs := ⟨[january], by simp⟩
      predictionArtifactRefs := [] }
  now := ⟨0, some 0⟩

def imputeApproval : ActionPlanApprovalMetadata where
  approvalId := literal "approval"
  approvalRequestId := literal "request"
  approvedByUserId := literal "user"
  approvedAt := ⟨0, some 0⟩
  actionPlanId := literal "plan"
  actionPlanHash := actionPlanIntegrityHash asciiPlatform imputePlan
  decisionReportId := literal "report"
  sourceDatasetVersionId := literal "v1"

theorem imputePlan_accepted :
    validateActionPlanExecution demoService.platform
      ⟨imputePlan, literal "v1", some imputeApproval⟩ =
        .ok (actionPlanIntegrityHash asciiPlatform imputePlan) := by
  refine validateActionPlanExecution_eq_ok.mpr ⟨rfl, rfl, List.cons_ne_nil _ _, ?_, ?_, rfl⟩
  · exact check_bind_eq_ok.mpr ⟨validateStep_eq_ok.mpr ⟨rfl, rfl⟩, rfl⟩
  · exact check_bind_eq_ok.mpr ⟨rfl, guardOk_eq_ok.mpr ⟨rfl, rfl, rfl, rfl⟩⟩

def executePayload (scope : TenantScope) (platformJobId : NonEmptyStr) (source : S3Uri) :
    ActionPlanExecuteApprovedRequest where
  platformJobId := platformJobId
  organizationId := scope.organizationId
  projectId := scope.projectId
  datasetId := literal "dataset"
  sourceDatasetVersionId := literal "v1"
  actionPlan := imputePlan
  approvalMetadata := some imputeApproval
  sourceArtifacts := [transactionsRef source zeroDigest]

def executeCall (scope : TenantScope) (platformJobId : NonEmptyStr) (source : S3Uri) : Call :=
  ⟨.executeApproved (executePayload scope platformJobId source), ⟨0, some 0⟩⟩

/-- The answer, and what it would be without the other scopes' requests. -/
def SameAnswer (resources : Option (List Text)) (calls : List Call) (scope : TenantScope)
    (request : ReadRequest) : Prop :=
  handleRead (after (handle demoService) calls (createApp resources)) scope request =
    handleRead (after (handle demoService)
      (calls.filter fun call => call.request.scope = scope) (createApp resources)) scope request

section Shared

variable (scope : TenantScope) (platformJobId : NonEmptyStr) (source : S3Uri)
  (registry : CancellationRegistry) (store : ComputeResultStore) (uris : List Text)

/-- The state after a run of the job. -/
def ran (registry : CancellationRegistry) (store : ComputeResultStore) (uris : List Text)
    (platformJobId : NonEmptyStr) : AppState (List Text) where
  cancellationRegistry := (registry.register platformJobId.1).discard platformJobId.1
  computeStore := store
  computeResources := some uris

/-- The launch that the handler makes of the payload. -/
def demoLaunch (scope : TenantScope) (platformJobId : NonEmptyStr) (source : S3Uri)
    (token : CancellationToken) : Effect Raised (List Text) ApplyWorkflowResult :=
  launchApplyActionsWorkflow demoService.platform demoService.config
    (demoService.materializeApply · ⟨0, some 0⟩) (executePayload scope platformJobId source)
    (actionPlanIntegrityHash asciiPlatform imputePlan) token

/-- A run that finds its source is recorded, and its candidate stored. -/
theorem run_executeCall_ok (htoken : (registry.token platformJobId.1).cancelled = false)
    (hsource : source.1 ∈ uris) :
    ∃ store', (store'.getJob platformJobId.1).isSome = true ∧
      ((handle demoService (executeCall scope platformJobId source)).run
        ⟨registry, store, some uris⟩).2 =
          ran registry store' (("s3://b/".toList ++ platformJobId.1) :: uris) platformJobId := by
  have hmaterialize : (demoService.materializeApply (executePayload scope platformJobId source)
      ⟨0, some 0⟩).run uris =
      (.ok ⟨true, applyAssets.map fun name => ⟨name, none, none, none, none⟩⟩,
        ("s3://b/".toList ++ platformJobId.1) :: uris) :=
    if_pos (by simpa [executePayload, transactionsRef] using hsource)
  have hlaunch :
      ∃ result, (demoLaunch scope platformJobId source (registry.token platformJobId.1)).run
      uris = (.ok result, ("s3://b/".toList ++ platformJobId.1) :: uris) :=
    run_launchApplyActionsWorkflow_ok rfl htoken hmaterialize
  obtain ⟨result, hresult⟩ := hlaunch
  have hlaunched : (withToken platformJobId fun token => onResources demoService
      (demoLaunch scope platformJobId source token)).run ⟨registry, store, some uris⟩ =
        (.ok result,
          ran registry store (("s3://b/".toList ++ platformJobId.1) :: uris) platformJobId) := by
    have hran : (onResources demoService (demoLaunch scope platformJobId source
        (registry.token platformJobId.1))).run
          ⟨registry.register platformJobId.1, store, some uris⟩ =
        (.ok result, ⟨registry.register platformJobId.1, store,
          some (("s3://b/".toList ++ platformJobId.1) :: uris)⟩) := run_onResources rfl hresult
    exact run_withToken platformJobId (fun token => onResources demoService
      (demoLaunch scope platformJobId source token)) ⟨registry, store, some uris⟩ hran
  simp only [handle, executeCall, executeApprovedActionPlan, executePayload, imputePlan_accepted,
    Effect.lift_ok_bind]
  erw [Effect.run_bind_ok hlaunched]
  exact ⟨_, by simp [ComputeResultStore.getJob_recordJob, applyRecord], rfl⟩

theorem run_executeCall_failed (htoken : (registry.token platformJobId.1).cancelled = false)
    (hsource : source.1 ∉ uris) :
    ((handle demoService (executeCall scope platformJobId source)).run
      ⟨registry, store, some uris⟩).2 = ran registry store uris platformJobId := by
  have hmaterialize : (demoService.materializeApply (executePayload scope platformJobId source)
      ⟨0, some 0⟩).run uris = (.ok ⟨false, []⟩, uris) :=
    if_neg (by simpa [executePayload, transactionsRef] using hsource)
  have hlaunch : ∃ e, (demoLaunch scope platformJobId source (registry.token platformJobId.1)).run
      uris = (.error e, uris) :=
    run_launchApplyActionsWorkflow_failed rfl htoken hmaterialize
  obtain ⟨e, he⟩ := hlaunch
  have hlaunched : (withToken platformJobId fun token => onResources demoService
      (demoLaunch scope platformJobId source token)).run ⟨registry, store, some uris⟩ =
        (.error e, ran registry store uris platformJobId) := by
    have hran : (onResources demoService (demoLaunch scope platformJobId source
        (registry.token platformJobId.1))).run
          ⟨registry.register platformJobId.1, store, some uris⟩ =
        (.error e, ⟨registry.register platformJobId.1, store, some uris⟩) := run_onResources rfl he
    exact run_withToken platformJobId (fun token => onResources demoService
      (demoLaunch scope platformJobId source token)) ⟨registry, store, some uris⟩ hran
  simp only [handle, executeCall, executeApprovedActionPlan, executePayload, imputePlan_accepted,
    Effect.lift_ok_bind]
  erw [Effect.run_bind_error hlaunched]

theorem isSome_of_sameAnswer {s t : AppState (List Text)} {jobId : Text}
    (h : handleRead s scope (.jobStatus jobId) = handleRead t scope (.jobStatus jobId)) :
    (s.computeStore.getJob jobId).isSome = (t.computeStore.getJob jobId).isSome := by
  simp only [handleRead, getJobStatus] at h
  cases hs : s.computeStore.getJob jobId <;> cases ht : t.computeStore.getJob jobId <;>
    simp_all

variable {platformJobId source uris} {scope' : TenantScope} {jobId : NonEmptyStr}
  {candidate : S3Uri}

/-- The second run reads what the first one wrote. -/
theorem isSome_getJob_after (hjobs : jobId ≠ platformJobId) (hsource : source.1 ∈ uris)
    (hcandidate : candidate.1 = "s3://b/".toList ++ jobId.1) :
    ((after (handle demoService) [executeCall scope' jobId source,
      executeCall scope platformJobId candidate] (createApp (some uris))).computeStore.getJob
        platformJobId.1).isSome = true := by
  obtain ⟨store, -, hfirst⟩ := run_executeCall_ok scope' jobId source .empty .empty uris rfl hsource
  have htoken : (((CancellationRegistry.empty.register jobId.1).discard jobId.1).token
      platformJobId.1).cancelled = false := by
    have hne : jobId.1 ≠ platformJobId.1 := fun h => hjobs (Subtype.ext h)
    have hentry : ((CancellationRegistry.empty.register jobId.1).discard jobId.1).entry
        platformJobId.1 = CancellationRegistry.empty.entry platformJobId.1 := by
      rw [CancellationRegistry.entry_discard, if_neg hne, CancellationRegistry.entry_register,
        if_neg hne]
    rw [CancellationRegistry.token_eq hentry]
    rfl
  obtain ⟨store', hfound, hsecond⟩ := run_executeCall_ok scope platformJobId candidate
    ((CancellationRegistry.empty.register jobId.1).discard jobId.1) store
      (("s3://b/".toList ++ jobId.1) :: uris) htoken (by simp [hcandidate])
  rw [after_cons, after_cons, after_nil, createApp, hfirst, ran, hsecond]
  exact hfound

theorem getJob_after_alone (hsource : source.1 ∉ uris) :
    ((after (handle demoService) [executeCall scope platformJobId source]
      (createApp (some uris))).computeStore.getJob platformJobId.1).isSome = false := by
  rw [after_cons, after_nil, createApp,
    run_executeCall_failed scope platformJobId source .empty .empty uris rfl hsource]
  rfl

end Shared

def betaJob : NonEmptyStr := literal "beta-job"

def alphaJob : NonEmptyStr := literal "alpha-job"

/-- What the run of the job of scope beta writes. -/
def betaCandidate : S3Uri := ⟨"s3://b/".toList ++ betaJob.1, by decide⟩

theorem separateIds_of_jobs {calls : List Call} {scope : TenantScope} {request : ReadRequest}
    (hplans : ∀ call ∈ calls, call.request.planIds = [])
    (hjobs : ∀ foreign ∈ calls, foreign.request.scope ≠ scope → ∀ j ∈ foreign.request.jobIds,
      j ∉ request.jobIds ∧ ∀ call ∈ calls, call.request.scope = scope → j ∉ call.request.jobIds) :
    SeparateIds scope calls request :=
  fun foreign hforeign hscope => ⟨hjobs foreign hforeign hscope, by simp [hplans foreign hforeign]⟩

theorem sameAnswer_of_separate :
    SameAnswer none [analyzeCall beta betaJob, analyzeCall alpha alphaJob] alpha
      (.jobStatus alphaJob.1) :=
  handleRead_filter_scope (createApp none) _ _ (Or.inl rfl) (separateIds_of_jobs
    (by simp [analyzeCall, ApiRequest.planIds]) (by decide))

theorem filter_scope {c d : Call} (hc : c.request.scope ≠ alpha) (hd : d.request.scope = alpha) :
    [c, d].filter (fun call => call.request.scope = alpha) = [d] := by
  simp [hc, hd]

/-- A job that another scope ran is returned to whoever asks for its id. With a shared
storage, a run that reads another scope's candidate shows that scope's run too. -/
theorem not_sameAnswer :
    ¬ SameAnswer none [analyzeCall beta betaJob] alpha (.jobStatus betaJob.1) ∧
    ¬ SameAnswer (some [january.uri.1])
      [executeCall beta betaJob january.uri, executeCall alpha alphaJob betaCandidate] alpha
      (.jobStatus alphaJob.1) := by
  constructor
  · intro h
    have hfound := congrArg (fun r => r.toOption.isSome) h
    exact absurd hfound (by decide)
  · intro h
    have hne : (executeCall beta betaJob january.uri).request.scope ≠ alpha :=
      show beta ≠ alpha by decide
    rw [SameAnswer, filter_scope hne rfl] at h
    have hanswered := isSome_of_sameAnswer alpha h
    rw [isSome_getJob_after alpha (by decide) (List.mem_singleton_self january.uri.1) rfl,
      getJob_after_alone alpha (show betaCandidate.1 ∉ [january.uri.1] by decide)] at hanswered
    cases hanswered

end SharedIds

end DataForge.Api.TenantIsolation
