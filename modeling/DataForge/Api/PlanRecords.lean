import Mathlib.Data.List.Induction
import DataForge.Api.Handlers
import DataForge.Foundation.Runs
import DataForge.Kernel.ActionPlanApproval

namespace DataForge.Api.PlanRecords

open DataForge.Foundation.Strings
open DataForge.Foundation.Outcome
open DataForge.Foundation.Runs
open DataForge.Domain.Common
open DataForge.Domain.Artifact
open DataForge.Domain.Decision
open DataForge.Kernel.ActionPlanPreview
open DataForge.Kernel.ActionPlanExecution
open DataForge.Orchestration.Cancellation
open DataForge.Orchestration.Workflows
open DataForge.Api.Store
open DataForge.Api.Handlers

variable {σ : Type} (service : Service σ) (a : Text)

/-- The call is a preview that builds a plan of this id. -/
def PreviewsPlan (call : Call) : Prop :=
  ∃ payload plan, call.request = .preview payload ∧
    buildActionPlanPreview service.platform payload.build call.now = .ok plan ∧
    plan.actionPlanId.1 = a

/-- The call was accepted as an execution of this payload's plan, which has this id. -/
def ExecutesPlan (payload : ActionPlanExecuteApprovedRequest) (item : Call × Result ApiResponse) :
    Prop :=
  item.1.request = .executeApproved payload ∧ payload.actionPlan.actionPlanId.1 = a ∧
    ∃ response, item.2 = .ok response

/-- A read of the plan answers with the record of this execution. -/
def ReportsExecution (payload : ActionPlanExecuteApprovedRequest) (app : AppState σ) : Prop :=
  ∃ response : ActionPlanGetResponse, getActionPlan a app = .ok (.actionPlan response) ∧
    response.actionPlan = payload.actionPlan ∧
    response.actionPlanHash = some (actionPlanIntegrityHash service.platform payload.actionPlan) ∧
    response.acceptedStepIds = acceptedStepIds payload.actionPlan ∧
    response.workflowType = some .applySelectedActions ∧ response.mutatesDataset = true

section Handlers

variable {service a} {app app' : AppState σ} {now : Datetime} {answer : Result ApiResponse}

theorem computeStore_onResources {α : Type} (run : Effect Raised σ α) (app : AppState σ) :
    ((onResources service run).run app).2.computeStore = app.computeStore := by
  obtain ⟨registry, store, resources⟩ := app
  cases resources <;> rfl

theorem computeStore_launched {α : Type} {jobId : NonEmptyStr}
    {run : CancellationToken → Effect Raised σ α} {r : Result α}
    (h : (withToken jobId fun token => onResources service (run token)).run app = (r, app')) :
    app'.computeStore = app.computeStore := by
  obtain rfl := congrArg Prod.snd h
  exact computeStore_onResources (run (app.cancellationRegistry.token jobId.1))
    (app.onRegistry fun registry => registry.register jobId.1)

/-- An execution is refused and leaves the store, or is accepted and recorded. -/
theorem run_executeApprovedActionPlan_cases {payload : ActionPlanExecuteApprovedRequest}
    (h : (executeApprovedActionPlan service now payload).run app = (answer, app')) :
    (∃ e, answer = .error e ∧ app'.computeStore = app.computeStore) ∨
      ∃ result response, answer = .ok response ∧ app'.computeStore =
        (app.computeStore.recordJob (applyRecord payload
          (actionPlanIntegrityHash service.platform payload.actionPlan) result)).recordActionPlan
          ⟨payload.actionPlan, some payload.platformJobId,
            some (actionPlanIntegrityHash service.platform payload.actionPlan),
            acceptedStepIds payload.actionPlan, some .applySelectedActions,
            some result.statusUrl⟩ := by
  rw [executeApprovedActionPlan] at h
  obtain ⟨e, hvalid, rfl⟩ | ⟨hash, s, hvalid, h⟩ := Effect.run_bind_cases h
  · rw [Effect.run_lift, Prod.mk.injEq] at hvalid
    exact Or.inl ⟨e, rfl, by rw [hvalid.2]⟩
  · rw [Effect.run_lift, Prod.mk.injEq] at hvalid
    obtain ⟨hvalid, rfl⟩ := hvalid
    obtain ⟨-, -, -, -, -, rfl⟩ := validateActionPlanExecution_eq_ok.mp hvalid
    obtain ⟨e, hlaunch, rfl⟩ | ⟨result, t, hlaunch, h⟩ := Effect.run_bind_cases h
    · exact Or.inl ⟨e, rfl, computeStore_launched hlaunch⟩
    · obtain ⟨hanswer, happ⟩ := Prod.mk.injEq _ _ _ _ ▸ h
      refine Or.inr ⟨result, _, hanswer.symm, ?_⟩
      rw [← computeStore_launched hlaunch, ← happ]

theorem run_previewActionPlan_cases {payload : ActionPlanPreviewRequest}
    (h : (previewActionPlan service now payload).run app = (answer, app')) :
    (∃ e, buildActionPlanPreview service.platform payload.build now = .error e ∧
      app'.computeStore = app.computeStore) ∨
      ∃ plan, buildActionPlanPreview service.platform payload.build now = .ok plan ∧
        app'.computeStore = app.computeStore.recordActionPlan
          ⟨plan, some payload.platformJobId, none, [], none, none⟩ := by
  rw [previewActionPlan, Effect.run_bind_lift] at h
  cases hbuild : buildActionPlanPreview service.platform payload.build now with
  | error e =>
    rw [hbuild] at h
    exact Or.inl ⟨e, rfl, by rw [← (Prod.mk.inj h).2]⟩
  | ok plan =>
    rw [hbuild] at h
    exact Or.inr ⟨plan, rfl, (congrArg AppState.computeStore (Prod.mk.inj h).2).symm⟩

theorem getActionPlan_analyzeDataset {payload : AnalyzeDatasetRequest}
    (h : (analyzeDataset service now payload).run app = (answer, app')) :
    app'.computeStore.getActionPlan a = app.computeStore.getActionPlan a := by
  rw [analyzeDataset] at h
  have hlaunched {r : Result AnalyzeWorkflowResult} {t : AppState σ}
      (h : (withToken payload.platformJobId fun token => inMemory service
        (launchAnalyzeDatasetWorkflow service.platform service.config service.analyzeFootprints
          (service.materializeAnalyze · now) payload token)).run app = (r, t)) :
      t.computeStore = app.computeStore := by rw [← (Prod.mk.inj h).2]; rfl
  obtain ⟨e, hlaunch, rfl⟩ | ⟨result, t, hlaunch, h⟩ := Effect.run_bind_cases h
  · rw [hlaunched hlaunch]
  · rw [← hlaunched hlaunch, ← (Prod.mk.inj h).2]
    rfl

theorem computeStore_cancelJob {platformJobId : Text} {payload : CancelJobRequest}
    (h : (cancelJob platformJobId payload).run app = (answer, app')) :
    app'.computeStore = app.computeStore := by
  by_cases hid : payload.platformJobId.1 = platformJobId
  · simp only [cancelJob, Effect.run, hid, ne_eq, not_true_eq_false, if_false] at h
    rw [← (Prod.mk.inj h).2]
    rfl
  · simp only [cancelJob, Effect.run, hid, ne_eq, not_false_eq_true, if_true] at h
    rw [← (Prod.mk.inj h).2]

end Handlers

section Records

variable {service a} {call : Call} {app app' : AppState σ} {answer : Result ApiResponse}
  {payload : ActionPlanExecuteApprovedRequest} (h : (handle service call).run app = (answer, app'))

include h

/-- A preview of the plan replaces whatever is recorded of it. -/
theorem getActionPlan_of_preview (hpreview : PreviewsPlan service a call) :
    ∃ record, app'.computeStore.getActionPlan a = some record ∧ record.workflowType = none := by
  obtain ⟨request, now⟩ := call
  obtain ⟨payload, plan, hrequest, hbuild, rfl⟩ := hpreview
  obtain rfl : request = .preview payload := hrequest
  obtain ⟨e, herror, -⟩ | ⟨plan', hplan, hstore⟩ := run_previewActionPlan_cases h
  · exact absurd (hbuild.symm.trans herror) (by simp)
  · obtain rfl : plan = plan' := Except.ok.inj (hbuild.symm.trans hplan)
    rw [hstore, ComputeResultStore.getActionPlan_recordActionPlan, if_pos rfl]
    exact ⟨_, rfl, rfl⟩

theorem reports_of_execution (hexecutes : ExecutesPlan a payload (call, answer)) :
    ReportsExecution service a payload app' := by
  obtain ⟨request, now⟩ := call
  obtain ⟨hrequest, rfl, response, rfl⟩ := hexecutes
  obtain rfl : request = .executeApproved payload := hrequest
  obtain ⟨e, herror, -⟩ | ⟨result, response', -, hstore⟩ := run_executeApprovedActionPlan_cases h
  · exact absurd herror (by simp)
  · rw [ReportsExecution, getActionPlan, hstore, ComputeResultStore.getActionPlan_recordActionPlan,
      if_pos rfl]
    exact ⟨_, rfl, rfl, rfl, rfl, rfl, rfl⟩

theorem getActionPlan_of_neither (hpreview : ¬ PreviewsPlan service a call)
    (hexecutes : ∀ payload, ¬ ExecutesPlan a payload (call, answer)) :
    app'.computeStore.getActionPlan a = app.computeStore.getActionPlan a := by
  obtain ⟨request, now⟩ := call
  cases request with
  | analyze payload => exact getActionPlan_analyzeDataset h
  | preview payload =>
    obtain ⟨e, -, hstore⟩ | ⟨plan, hplan, hstore⟩ := run_previewActionPlan_cases h
    · rw [hstore]
    · rw [hstore, ComputeResultStore.getActionPlan_recordActionPlan, if_neg]
      exact fun hid => hpreview ⟨payload, plan, rfl, hplan, hid⟩
  | executeApproved payload =>
    obtain ⟨e, -, hstore⟩ | ⟨result, response, rfl, hstore⟩ := run_executeApprovedActionPlan_cases h
    · rw [hstore]
    · rw [hstore, ComputeResultStore.getActionPlan_recordActionPlan, if_neg]
      · rfl
      · exact fun hid => hexecutes payload ⟨rfl, hid, response, rfl⟩
  | cancel platformJobId payload => rw [computeStore_cancelJob h]

end Records

section Runs

variable {service a}

/-- The latest accepted execution of the plan in a run, with its payload. -/
def LatestExecution (a : Text) (payload : ActionPlanExecuteApprovedRequest)
    (items : List (Call × Result ApiResponse)) : Prop :=
  ∃ pre item post, items = pre ++ item :: post ∧ ExecutesPlan a payload item ∧
    ∀ later ∈ post, ∀ payload', ¬ ExecutesPlan a payload' later

variable (service a) in
/-- From an accepted execution of the plan on, every read of it reports the latest one. -/
def RecordKept (app : AppState σ) (calls : List Call) : Prop :=
  ∀ pre post, calls = pre ++ post →
    (∃ payload, ∃ item ∈ trace (handle service) pre app, ExecutesPlan a payload item) →
      ∃ payload, LatestExecution a payload (trace (handle service) pre app) ∧
        ReportsExecution service a payload (after (handle service) pre app)

variable (service a) in
/-- A preview that builds the plan again comes after an accepted execution of it. -/
def PreviewedAgain (app : AppState σ) (calls : List Call) : Prop :=
  ∃ pre call post, calls = pre ++ call :: post ∧ PreviewsPlan service a call ∧
    ∃ payload, ∃ item ∈ trace (handle service) pre app, ExecutesPlan a payload item

theorem latestExecution_concat {items : List (Call × Result ApiResponse)}
    {item : Call × Result ApiResponse} {payload : ActionPlanExecuteApprovedRequest}
    (h : LatestExecution a payload items) (hitem : ∀ payload', ¬ ExecutesPlan a payload' item) :
    LatestExecution a payload (items ++ [item]) := by
  obtain ⟨pre, executed, post, rfl, hexecutes, hlater⟩ := h
  refine ⟨pre, executed, post ++ [item], by simp, hexecutes, fun later hmem => ?_⟩
  rcases List.mem_append.mp hmem with hmem | hmem
  · exact hlater later hmem
  · exact List.mem_singleton.mp hmem ▸ hitem

theorem not_recordKept {app : AppState σ} {calls : List Call}
    (h : PreviewedAgain service a app calls) : ¬ RecordKept service a app calls := by
  obtain ⟨pre, call, post, rfl, hpreview, payload, item, hitem, hexecutes⟩ := h
  intro hkept
  obtain ⟨payload', -, response, hread, -, -, -, hworkflow, -⟩ := hkept (pre ++ [call]) post
    (by simp) ⟨payload, item, by rw [trace_append]; exact List.mem_append_left _ hitem, hexecutes⟩
  rw [after_append, after_cons, after_nil] at hread
  obtain ⟨record, hrecord, hnone⟩ := getActionPlan_of_preview Prod.mk.eta.symm hpreview
  rw [getActionPlan, hrecord] at hread
  obtain rfl := ApiResponse.actionPlan.inj (Except.ok.inj hread)
  exact absurd (hnone.symm.trans hworkflow) (by simp)

theorem recordKept_of_not_previewedAgain {app : AppState σ} {calls : List Call}
    (hagain : ¬ PreviewedAgain service a app calls) : RecordKept service a app calls := by
  intro pre
  induction pre using List.reverseRecOn with
  | nil => exact fun post _ ⟨_, item, hitem, _⟩ => absurd hitem List.not_mem_nil
  | append_singleton pre call ih =>
    rintro post rfl ⟨payload, item, hitem, hexecutes⟩
    cases hrun : (handle service call).run (after (handle service) pre app) with
    | mk answer app' =>
      have hafter : after (handle service) (pre ++ [call]) app = app' := by
        rw [after_append, after_cons, after_nil, hrun]
      have htrace : trace (handle service) (pre ++ [call]) app =
          trace (handle service) pre app ++ [(call, answer)] := by
        rw [trace_append, trace_cons, hrun]
        rfl
      rw [htrace, List.mem_append, List.mem_singleton] at hitem
      rw [hafter, htrace]
      by_cases hlast : ∃ payload, ExecutesPlan a payload (call, answer)
      · obtain ⟨payload, hlast⟩ := hlast
        exact ⟨payload, ⟨_, _, [], rfl, hlast, by simp⟩, reports_of_execution hrun hlast⟩
      · have hlast : ∀ payload, ¬ ExecutesPlan a payload (call, answer) := not_exists.mp hlast
        have hearlier : item ∈ trace (handle service) pre app :=
          hitem.resolve_right fun heq => hlast payload (heq ▸ hexecutes)
        have hpreview : ¬ PreviewsPlan service a call := fun hpreview =>
          hagain ⟨pre, call, post, by simp, hpreview, payload, item, hearlier, hexecutes⟩
        obtain ⟨payload', hlatest, response, hread, hreport⟩ :=
          ih ([call] ++ post) (by simp) ⟨payload, item, hearlier, hexecutes⟩
        refine ⟨payload', latestExecution_concat hlatest hlast, response, ?_, hreport⟩
        rwa [getActionPlan, getActionPlan_of_neither hrun hpreview hlast]

variable (service a) in
/-- The record of an executed plan is kept exactly in the runs that do not preview the
plan again afterwards. -/
theorem recordKept_iff (app : AppState σ) (calls : List Call) :
    RecordKept service a app calls ↔ ¬ PreviewedAgain service a app calls :=
  ⟨fun hkept hagain => not_recordKept hagain hkept, recordKept_of_not_previewedAgain⟩

end Runs

section Repeated

variable {service} {payload : ActionPlanExecuteApprovedRequest} {now : Datetime} {app : AppState σ}

theorem run_previewActionPlan_ok {payload : ActionPlanPreviewRequest} {plan : ActionPlan}
    (hbuild : buildActionPlanPreview service.platform payload.build now = .ok plan) :
    ((previewActionPlan service now payload).run app).2 =
      { app with
        computeStore := app.computeStore.recordActionPlan
          ⟨plan, some payload.platformJobId, none, [], none, none⟩ } := by
  rw [previewActionPlan, hbuild, Effect.lift_ok_bind]
  rfl

/-- A valid and approved plan is accepted when its job is not cancelled and its run
materializes. -/
theorem run_executeApprovedActionPlan_ok {hash : Sha256Digest} {events : List AssetMaterialization}
    {resources : σ}
    (hvalid : validateActionPlanExecution service.platform
      ⟨payload.actionPlan, payload.sourceDatasetVersionId, payload.approvalMetadata⟩ = .ok hash)
    (happroved : payload.approvalMetadata.isSome = true)
    (htoken : (app.cancellationRegistry.token payload.platformJobId.1).cancelled = false)
    (hresources : app.computeResources = none)
    (hmaterialize : (service.materializeApply payload now).run service.inMemoryResources =
      (.ok ⟨true, events⟩, resources)) :
    ∃ response, ((executeApprovedActionPlan service now payload).run app).1 = .ok response := by
  have hlaunch : ∃ result, (launchApplyActionsWorkflow service.platform service.config
      (service.materializeApply · now) payload hash
      (app.cancellationRegistry.token payload.platformJobId.1)).run service.inMemoryResources =
        (.ok result, resources) :=
    run_launchApplyActionsWorkflow_ok happroved htoken hmaterialize
  obtain ⟨result, hlaunch⟩ := hlaunch
  have hlaunched := run_withToken payload.platformJobId
    (fun token => onResources service (launchApplyActionsWorkflow service.platform service.config
      (service.materializeApply · now) payload hash token)) app
    (run_onResources_none (by exact hresources) hlaunch)
  rw [executeApprovedActionPlan, hvalid, Effect.lift_ok_bind, Effect.run_bind_ok hlaunched]
  exact ⟨_, rfl⟩

/-- Preview, execute, preview: the last preview hides that the plan was executed. -/
theorem not_recordKept_of_repeated {preview : ActionPlanPreviewRequest} {hash : Sha256Digest}
    {events : List AssetMaterialization} {resources : σ}
    (hbuild : buildActionPlanPreview service.platform preview.build now = .ok payload.actionPlan)
    (hvalid : validateActionPlanExecution service.platform
      ⟨payload.actionPlan, payload.sourceDatasetVersionId, payload.approvalMetadata⟩ = .ok hash)
    (happroved : payload.approvalMetadata.isSome = true)
    (hmaterialize : (service.materializeApply payload now).run service.inMemoryResources =
      (.ok ⟨true, events⟩, resources)) :
    ¬ RecordKept service payload.actionPlan.actionPlanId.1 (createApp none)
      [⟨.preview preview, now⟩, ⟨.executeApproved payload, now⟩, ⟨.preview preview, now⟩] := by
  have hpreviewed : ((previewActionPlan service now preview).run (createApp none)).2 = _ :=
    run_previewActionPlan_ok hbuild
  have hexecuted : ∃ response, ((executeApprovedActionPlan service now payload).run
      ((previewActionPlan service now preview).run (createApp none)).2).1 = .ok response := by
    rw [hpreviewed]
    exact run_executeApprovedActionPlan_ok hvalid happroved rfl rfl hmaterialize
  have hexecutes : ExecutesPlan payload.actionPlan.actionPlanId.1 payload
      (⟨.executeApproved payload, now⟩, ((executeApprovedActionPlan service now payload).run
        ((previewActionPlan service now preview).run (createApp none)).2).1) :=
    ⟨rfl, rfl, hexecuted⟩
  refine not_recordKept ⟨[⟨.preview preview, now⟩, ⟨.executeApproved payload, now⟩],
    ⟨.preview preview, now⟩, [], rfl, ⟨preview, _, rfl, hbuild, rfl⟩, payload, _, ?_, hexecutes⟩
  rw [trace_cons, trace_cons]
  exact List.mem_cons_of_mem _ List.mem_cons_self

end Repeated

section Example

open DataForge.Kernel.ActionPlanApproval

/-- Runs of this service succeed and materialize nothing. -/
def idleService : Service Unit where
  platform := asciiPlatform
  config := ⟨zeroDigest, literal "1.0.0"⟩
  analyzeFootprints := []
  inMemoryResources := ()
  materializeAnalyze _ _ := pure ⟨true, []⟩
  materializeApply _ _ := pure ⟨true, []⟩

def previewPayload : ActionPlanPreviewRequest where
  platformJobId := literal "preview-job"
  organizationId := literal "organization"
  projectId := literal "project"
  datasetId := literal "dataset"
  sourceDatasetVersionId := imputeRequest.sourceDatasetVersionId
  decisionReportId := imputeRequest.decisionReportId
  selectedDecisionIds := imputeRequest.selectedDecisionIds
  selectedMethodOverrides := imputeRequest.selectedMethodOverrides
  methodRecommendations := imputeRequest.methodRecommendations
  createdByUserId := imputeRequest.createdByUserId
  inputArtifacts := imputeRequest.inputArtifacts
  targetVersionName := imputeRequest.targetVersionName

def executePayload : ActionPlanExecuteApprovedRequest where
  platformJobId := literal "apply-job"
  organizationId := literal "organization"
  projectId := literal "project"
  datasetId := literal "dataset"
  sourceDatasetVersionId := imputePreview.sourceDatasetVersionId
  actionPlan := imputePreview
  approvalMetadata := some imputeApproval
  sourceArtifacts := []

theorem recordKept_previewed_again :
    ¬ RecordKept idleService imputePreview.actionPlanId.1 (createApp none)
      [⟨.preview previewPayload, ⟨0, some 0⟩⟩, ⟨.executeApproved executePayload, ⟨0, some 0⟩⟩,
        ⟨.preview previewPayload, ⟨0, some 0⟩⟩] := by
  have hbuild : buildActionPlanPreview idleService.platform previewPayload.build ⟨0, some 0⟩ =
      .ok executePayload.actionPlan := imputePreview_built
  have hvalid : validateActionPlanExecution idleService.platform ⟨executePayload.actionPlan,
      executePayload.sourceDatasetVersionId, executePayload.approvalMetadata⟩ =
        .ok (actionPlanIntegrityHash asciiPlatform imputePreview) :=
    preview_round_trip imputePreview_built ⟨rfl, rfl, rfl, rfl⟩
  have hmaterialize : (idleService.materializeApply executePayload ⟨0, some 0⟩).run () =
      (.ok ⟨true, []⟩, ()) := rfl
  exact not_recordKept_of_repeated hbuild hvalid rfl hmaterialize

end Example

end DataForge.Api.PlanRecords
