import DataForge.Api.Handlers
import DataForge.Orchestration.TerminalEvents

namespace DataForge.Api.ApplyAcceptance

open DataForge.Foundation.Outcome
open DataForge.Foundation.Runs
open DataForge.Domain.Common
open DataForge.Domain.Artifact
open DataForge.Domain.Decision
open DataForge.Kernel.ActionPlanPreview
open DataForge.Kernel.ActionPlanExecution
open DataForge.Kernel.ActionPlanApproval
open DataForge.Orchestration.Cancellation
open DataForge.Orchestration.StatusBridge
open DataForge.Orchestration.ApplyRuns
open DataForge.Orchestration.Workflows (ActionPlanExecuteApprovedRequest)
open DataForge.Api.Handlers (AppState Service ApiResponse executeApprovedActionPlan)

section Execute

variable {σ : Type}

/-- What an execute request can touch: the registry, the platform's events, the storage. -/
structure ServiceState (σ : Type) where
  registry : CancellationRegistry
  events : List JobEvent
  store : σ

def validation (payload : ActionPlanExecuteApprovedRequest) : ValidateActionPlanExecutionRequest :=
  ⟨payload.actionPlan, payload.sourceDatasetVersionId, payload.approvalMetadata⟩

variable (p : Platform) (assets : ApplyAssets σ) (payload : ActionPlanExecuteApprovedRequest)

/-- The launcher's run of a request under some actions, with the token of its job. -/
def launched (s : ServiceState σ) (actions : List Action) : RunState σ :=
  after (perform p payload assets) actions
    (initial (s.registry.token payload.platformJobId.1) s.store)

/-- `execute_approved_action_plan` up to the point that its run reaches by the actions:
the token is registered once the plan is accepted, and discarded when the launcher is done. -/
def executeApproved (actions : List Action) :
    Effect Raised (ServiceState σ) (RunState σ) := fun s =>
  match validateActionPlanExecution p (validation payload) with
  | .error e => (.error e, s)
  | .ok _ =>
    let run := launched p assets payload s actions
    let registry := s.registry.register payload.platformJobId.1
    let done := run.phase = .returned ∨ run.phase = .raised
    (.ok run,
      { registry := if done then registry.discard payload.platformJobId.1 else registry
        events := s.events ++ run.events
        store := run.store })

/-- The launcher's first look at the run and its started event. -/
def admission : List Action := [.launch, .launch]

variable {p assets payload} {s : ServiceState σ}

theorem phase_launched_admission (happroved : payload.approvalMetadata.isSome = true)
    (htoken : (s.registry.token payload.platformJobId.1).cancelled = false) :
    (launched p assets payload s admission).phase = .materializing := by
  have hfirst : launch payload (initial (s.registry.token payload.platformJobId.1) s.store) =
      { initial (s.registry.token payload.platformJobId.1) s.store with phase := .admitted } := by
    rw [launch]
    simp only [initial, happroved, htoken]
    rfl
  have hrun : launched p assets payload s admission =
      launch payload
        (launch payload (initial (s.registry.token payload.platformJobId.1) s.store)) := rfl
  rw [hrun, hfirst]
  rfl

/-- A run without an approval: not begun, or given up before it did anything. -/
structure Refused (store : σ) (run : RunState σ) : Prop where
  phase : run.phase = .start ∨ run.phase = .raised
  events : run.events = []
  store : run.store = store

theorem refused_step {store : σ} {run : RunState σ} (hnone : payload.approvalMetadata = none)
    (h : Refused store run) (action : Action) :
    Refused store (step p payload assets run action) := by
  have hphase : run.phase ≠ .materializing := by
    rintro hphase
    have hrefused := h.phase
    rw [hphase] at hrefused
    obtain hstart | hraised := hrefused
    · cases hstart
    · cases hraised
  cases action with
  | trigger reasonCode => exact ⟨h.phase, h.events, h.store⟩
  | launch =>
    rw [step, launch]
    obtain hstart | hraised := h.phase
    · rw [hstart, hnone]
      exact ⟨.inr rfl, h.events, h.store⟩
    · rw [hraised]
      exact h
  | settle a =>
    rw [step, if_neg fun henabled => hphase henabled.1]
    exact h
  | crash e =>
    rw [step, if_neg hphase]
    exact h

theorem refused_launched (hnone : payload.approvalMetadata = none) (actions : List Action) :
    Refused s.store (launched p assets payload s actions) :=
  after_invariant _ ⟨.inl rfl, rfl, rfl⟩ fun action _ _ h => refused_step hnone h action

theorem executeApproved_accepted {hash : Sha256Digest}
    (h : validateActionPlanExecution p (validation payload) = .ok hash) (actions : List Action) :
    ((executeApproved p assets payload actions).run s).1 =
      .ok (launched p assets payload s actions) := by
  show (executeApproved p assets payload actions s).1 = _
  rw [executeApproved, h]

theorem executeApproved_rejected {e : Raised}
    (h : validateActionPlanExecution p (validation payload) = .error e) (actions : List Action) :
    (executeApproved p assets payload actions).run s = (.error e, s) := by
  show executeApproved p assets payload actions s = _
  rw [executeApproved, h]

/-- The whole handler gives a rejected request the same answer. -/
theorem handler_rejected {service : Service σ} {now : Datetime} {e : Raised} {app : AppState σ}
    (h : validateActionPlanExecution service.platform (validation payload) = .error e) :
    (executeApprovedActionPlan service now payload).run app = (.error e, app) := by
  have hlift : (Effect.lift (validateActionPlanExecution service.platform (validation payload)) :
      Effect Raised (AppState σ) _).run app = (.error e, app) := by
    rw [Effect.run_lift, h]
  exact Effect.run_bind_error hlift _

end Execute

section Acceptance

variable {σ : Type} {p : Platform} {plan : ActionPlan} {payload : ActionPlanExecuteApprovedRequest}

/-- The request carries a plan unchanged, for the version that the plan was made from. -/
structure Carries (payload : ActionPlanExecuteApprovedRequest) (plan : ActionPlan) : Prop where
  unchanged : payload.actionPlan = plan
  version : payload.sourceDatasetVersionId = plan.sourceDatasetVersionId

theorem validate_carried (hplan : Executable plan) (hcarries : Carries payload plan)
    {hash : Sha256Digest} :
    validateActionPlanExecution p (validation payload) = .ok hash ↔
      checkApproval plan (actionPlanIntegrityHash p plan) payload.approvalMetadata = .ok () ∧
        hash = actionPlanIntegrityHash p plan := by
  obtain ⟨rfl, hversion⟩ := hcarries
  rw [validateActionPlanExecution_eq_ok]
  constructor
  · rintro ⟨-, -, -, -, happroval, hhash⟩
    exact ⟨happroval, hhash⟩
  · rintro ⟨happroval, hhash⟩
    exact ⟨hversion.symm, hplan.mode, hplan.steps, forM_eq_ok.mpr hplan.integrity, happroval, hhash⟩

theorem checkApproval_bound (hplan : Executable plan) {metadata : ActionPlanApprovalMetadata}
    (h : Approves p metadata plan) :
    checkApproval plan (actionPlanIntegrityHash p plan) (some metadata) = .ok () := by
  have haccepted := accepted_of_approves hplan h
  obtain ⟨-, -, -, -, happroval, -⟩ := validateActionPlanExecution_eq_ok.mp haccepted
  exact happroval

/-- Preview, validator and launcher: a plan with an approval bound to it is accepted and
reaches materialization. Without one the validator accepts it if the plan asks for none,
and the launcher refuses it before it does anything. What the validator rejects leaves
the service as it was. -/
theorem preview_validator_launcher {request : BuildActionPlanPreviewRequest} {now : Datetime}
    (hpreview : buildActionPlanPreview p request now = .ok plan) (hcarries : Carries payload plan)
    (assets : ApplyAssets σ) (s : ServiceState σ)
    (htoken : (s.registry.token payload.platformJobId.1).cancelled = false) :
    (∀ metadata, payload.approvalMetadata = some metadata → Approves p metadata plan →
      validateActionPlanExecution p (validation payload) = .ok (actionPlanIntegrityHash p plan) ∧
        ∃ run, ((executeApproved p assets payload admission).run s).1 = .ok run ∧
          run.phase = .materializing) ∧
    (payload.approvalMetadata = none →
      ((∃ hash, validateActionPlanExecution p (validation payload) = .ok hash) ↔
        plan.requiresApproval = false) ∧
      ∀ actions, Refused s.store (launched p assets payload s actions)) ∧
    ∀ (rejected : ActionPlanExecuteApprovedRequest) (e : Raised),
      validateActionPlanExecution p (validation rejected) = .error e →
      (∀ (actions : List Action) (t : ServiceState σ),
        (executeApproved p assets rejected actions).run t = (.error e, t)) ∧
      ∀ (service : Service σ) (now : Datetime) (app : AppState σ), service.platform = p →
        (executeApprovedActionPlan service now rejected).run app = (.error e, app) := by
  have hplan := executable_of_preview hpreview
  refine ⟨fun metadata hmetadata happroves => ?_, fun hnone => ⟨?_, refused_launched hnone⟩,
    fun rejected e he => ⟨fun actions t => executeApproved_rejected he actions, ?_⟩⟩
  · have haccepted : validateActionPlanExecution p (validation payload) =
        .ok (actionPlanIntegrityHash p plan) := by
      rw [validate_carried hplan hcarries, hmetadata]
      exact ⟨checkApproval_bound hplan happroves, rfl⟩
    refine ⟨haccepted, _, executeApproved_accepted haccepted admission, ?_⟩
    exact phase_launched_admission (by rw [hmetadata]; rfl) htoken
  · constructor
    · rintro ⟨hash, hok⟩
      have happroval := ((validate_carried hplan hcarries).mp hok).1
      rw [hnone] at happroval
      exact guardOk_eq_ok.mp happroval
    · intro hfree
      refine ⟨_, (validate_carried hplan hcarries).mpr ⟨?_, rfl⟩⟩
      rw [hnone]
      exact guardOk_eq_ok.mpr hfree
  · rintro service now app rfl
    exact handler_rejected he

end Acceptance

section Example

open DataForge.Orchestration.TerminalEvents (applyRequest promotingAssets)

def idle : ServiceState Unit := ⟨.empty, [], ()⟩

theorem preview_validator_launcher_impute :
    ∃ run, ((executeApproved asciiPlatform promotingAssets applyRequest admission).run idle).1 =
      .ok run ∧
      run.phase = .materializing :=
  ((preview_validator_launcher imputePreview_built (⟨rfl, rfl⟩ : Carries applyRequest imputePreview)
    promotingAssets idle rfl).1 imputeApproval rfl ⟨rfl, rfl, rfl, rfl⟩).2

/-- The metadata that the plan itself asks for. -/
def AsksFor (p : Platform) (plan : ActionPlan) : Option ActionPlanApprovalMetadata → Prop
  | some metadata => plan.requiresApproval = true ∧ Approves p metadata plan
  | none => plan.requiresApproval = false

def freeRecommendation : MethodRecommendation :=
  { imputeRecommendation with
    recommendedMethod := ⟨imputeMethod, literal "dataforge.tabular", false⟩
    recommendedIsCandidate := ⟨_, rfl, rfl⟩
    recommendedNotBlocked := fun _ hb => absurd hb List.not_mem_nil }

def freeRequest : BuildActionPlanPreviewRequest :=
  { imputeRequest with methodRecommendations := ⟨[freeRecommendation], List.cons_ne_nil _ _⟩ }

def freePreview : ActionPlan where
  toActionPlanFields := planFields freeRequest ⟨0, some 0⟩ [freeRecommendation] imputePreview.steps
  uniqueStepIds := imputePreview.uniqueStepIds
  dependenciesExist := imputePreview.dependenciesExist

theorem freePreview_built :
    buildActionPlanPreview asciiPlatform freeRequest ⟨0, some 0⟩ = .ok freePreview := by
  have hindexed : recommendationsById freeRequest.methodRecommendations.1 =
      .ok [(freeRecommendation.recommendationId, freeRecommendation)] := rfl
  have hselected : freeRequest.selectedDecisionIds.1.mapM (selectedRecommendation
      [(freeRecommendation.recommendationId, freeRecommendation)]) = .ok [freeRecommendation] := rfl
  have hsteps : buildSteps asciiPlatform freeRequest [freeRecommendation] [] =
      .ok imputePreview.steps := by
    rw [buildSteps]
    exact bind_eq_ok.mpr ⟨⟨imputeMethod, .recommended, .enabled⟩, rfl, rfl⟩
  rw [buildActionPlanPreview, hindexed, ok_bind, hselected, ok_bind, hsteps, ok_bind]
  exact freePreview.validate_fields

def freeExecution : ActionPlanExecuteApprovedRequest :=
  { applyRequest with actionPlan := freePreview, approvalMetadata := none }

/-- A plan that asks for no approval is accepted without one, and never materializes. -/
theorem freePreview_refused :
    ¬ ∀ (request : BuildActionPlanPreviewRequest) (now : Datetime) (plan : ActionPlan)
        (payload : ActionPlanExecuteApprovedRequest) (assets : ApplyAssets Unit)
          (s : ServiceState Unit),
      buildActionPlanPreview asciiPlatform request now = .ok plan → Carries payload plan →
      AsksFor asciiPlatform plan payload.approvalMetadata →
      (s.registry.token payload.platformJobId.1).cancelled = false →
      ∃ run, ((executeApproved asciiPlatform assets payload admission).run s).1 = .ok run ∧
        run.phase = .materializing := by
  intro h
  have hcarries : Carries freeExecution freePreview := ⟨rfl, rfl⟩
  obtain ⟨run, hrun, hphase⟩ :=
    h freeRequest ⟨0, some 0⟩ freePreview freeExecution promotingAssets idle
    freePreview_built hcarries rfl rfl
  have haccepted : validateActionPlanExecution asciiPlatform (validation freeExecution) =
      .ok (actionPlanIntegrityHash asciiPlatform freePreview) :=
    (validate_carried (executable_of_preview freePreview_built) hcarries).mpr ⟨rfl, rfl⟩
  rw [executeApproved_accepted haccepted] at hrun
  obtain rfl := Except.ok.inj hrun
  have hrefused :
      Refused () (launched asciiPlatform promotingAssets freeExecution idle admission) :=
    refused_launched rfl admission
  obtain hstart | hraised := hrefused.phase
  · exact absurd (hstart.symm.trans hphase) nofun
  · exact absurd (hraised.symm.trans hphase) nofun

end Example

end DataForge.Api.ApplyAcceptance
