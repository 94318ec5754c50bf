import DataForge.Kernel.ActionPlanPreview

namespace DataForge.Kernel.ActionPlanApproval

open DataForge.Foundation.Strings
open DataForge.Foundation.Sha256
open DataForge.Foundation.Outcome
open DataForge.Foundation.Dictionary
open DataForge.Foundation.Json
open DataForge.Domain.Common
open DataForge.Domain.Artifact
open DataForge.Domain.Decision
open DataForge.Kernel.StableHash
open DataForge.Kernel.ActionPlanPreview
open DataForge.Kernel.ActionPlanExecution

section Preview

variable {p : Platform} {request : BuildActionPlanPreviewRequest} {now : Datetime}
  {plan : ActionPlan}

theorem validateStep_buildStep (recommendation : MethodRecommendation) (candidate : MethodCandidate)
    (dependsOn : List NonEmptyStr) (inputArtifacts : List S3Uri) :
    validateStep (buildStep p recommendation candidate dependsOn inputArtifacts) = .ok () :=
  validateStep_eq_ok.mpr ⟨rfl, rfl⟩

/-- Every selected recommendation adds one step, which passes its own check. -/
theorem buildSteps_spec {selected : List MethodRecommendation} {steps built : List ActionPlanStep}
    (h : buildSteps p request selected steps = .ok built) :
    built.length = steps.length + selected.length ∧
      ((∀ step ∈ steps, validateStep step = .ok ()) → ∀ step ∈ built,
        validateStep step = .ok ()) := by
  induction selected generalizing steps with
  | nil =>
    obtain rfl : steps = built := Except.ok.inj h
    exact ⟨rfl, id⟩
  | cons recommendation rest ih =>
    rw [buildSteps] at h
    obtain ⟨candidate, -, hrest⟩ := bind_eq_ok.mp h
    obtain ⟨hlength, hsteps⟩ := ih hrest
    refine ⟨by simpa [Nat.add_assoc, Nat.add_comm 1] using hlength, fun hvalid => hsteps ?_⟩
    intro step hstep
    rcases List.mem_append.mp hstep with hstep | hstep
    · exact hvalid step hstep
    · obtain rfl := List.mem_singleton.mp hstep
      exact validateStep_buildStep _ _ _ _

/-- What the execution check asks of a plan, whatever the approval. -/
structure Executable (plan : ActionPlan) : Prop where
  mode : plan.executionMode = .previewActionPlan
  steps : plan.steps ≠ []
  integrity : ∀ step ∈ plan.steps, validateStep step = .ok ()
  request : plan.approvalRequestId = none

theorem executable_of_preview (h : buildActionPlanPreview p request now = .ok plan) :
    Executable plan := by
  rw [buildActionPlanPreview] at h
  obtain ⟨recommendations, -, h⟩ := bind_eq_ok.mp h
  obtain ⟨selected, hselected, h⟩ := bind_eq_ok.mp h
  obtain ⟨steps, hsteps, h⟩ := bind_eq_ok.mp h
  obtain ⟨hlength, hvalid⟩ := buildSteps_spec hsteps
  have hfields := ActionPlanFields.validate_eq_ok h
  have hplanSteps : plan.steps = steps := congrArg ActionPlanFields.steps hfields
  refine ⟨congrArg ActionPlanFields.executionMode hfields, ?_, ?_,
    congrArg ActionPlanFields.approvalRequestId hfields⟩
  · rw [hplanSteps, ← List.length_pos_iff_ne_nil, hlength, length_mapM hselected]
    simpa using List.length_pos_iff_ne_nil.mpr request.selectedDecisionIds.2
  · rw [hplanSteps]
    exact hvalid fun step hstep => absurd hstep List.not_mem_nil

end Preview

section Approval

/-- The metadata carries the ids and the hash of the plan. -/
structure Approves (p : Platform) (metadata : ActionPlanApprovalMetadata) (plan : ActionPlan) :
    Prop where
  planId : metadata.actionPlanId = plan.actionPlanId
  planHash : metadata.actionPlanHash = actionPlanIntegrityHash p plan
  reportId : metadata.decisionReportId = plan.createdFromDecisionReport
  versionId : metadata.sourceDatasetVersionId = plan.sourceDatasetVersionId

/-- The request that executes a plan on its own source version. -/
def execution (plan : ActionPlan) (metadata : ActionPlanApprovalMetadata) :
    ValidateActionPlanExecutionRequest :=
  ⟨plan, plan.sourceDatasetVersionId, some metadata⟩

variable {p : Platform} {plan : ActionPlan} {metadata : ActionPlanApprovalMetadata}

theorem approves_of_accepted {hash : Sha256Digest}
    (h : validateActionPlanExecution p (execution plan metadata) = .ok hash) :
    Approves p metadata plan := by
  obtain ⟨-, -, -, -, happroval, -⟩ := validateActionPlanExecution_eq_ok.mp h
  obtain ⟨-, hmetadata⟩ := check_bind_eq_ok.mp happroval
  obtain ⟨hid, hhash, hreport, hversion⟩ := guardOk_eq_ok.mp hmetadata
  exact ⟨hid, hhash, hreport, hversion⟩

theorem accepted_of_approves (hplan : Executable plan) (h : Approves p metadata plan) :
    validateActionPlanExecution p (execution plan metadata) =
      .ok (actionPlanIntegrityHash p plan) := by
  refine validateActionPlanExecution_eq_ok.mpr ⟨rfl, hplan.mode, hplan.steps,
    forM_eq_ok.mpr hplan.integrity, check_bind_eq_ok.mpr ⟨?_, ?_⟩, rfl⟩
  · rw [guardOk_eq_ok]
    intro expected hexpected
    exact absurd (hplan.request.symm.trans hexpected) (by simp)
  · exact guardOk_eq_ok.mpr ⟨h.planId, h.planHash, h.reportId, h.versionId⟩

end Approval

section Dump

def stepMembers (step : ActionPlanStep) : List (Text × Value) :=
  match step.dump with
  | .obj members => members
  | _ => []

def planMembers (p : Platform) (plan : ActionPlan) : List (Text × Value) :=
  match plan.dump p with
  | .obj members => members
  | _ => []

theorem keys_stepMembers (step : ActionPlanStep) : ((stepMembers step).map Prod.fst).Nodup := by
  have hkeys : ["step_id".toList, "type".toList, "depends_on".toList, "idempotency_key".toList,
      "method_id".toList, "plugin_id".toList, "plugin_version".toList, "config_hash".toList,
      "policy_version".toList, "validation_gates".toList, "preconditions".toList,
      "input_artifacts".toList, "output_artifact_kind".toList, "config".toList,
      "random_seed".toList, "retry_policy".toList, "on_failure".toList,
      "promotion_scope".toList].Nodup := by decide
  exact hkeys

theorem keys_planMembers (p : Platform) (plan : ActionPlan) :
    ((planMembers p plan).map Prod.fst).Nodup := by
  have hkeys : ["action_plan_id".toList, "plan_schema_version".toList,
      "source_dataset_version_id".toList, "target_version_name".toList,
      "created_from_decision_report".toList, "selected_decision_ids".toList,
      "created_by_user_id".toList, "policy_version".toList, "requires_approval".toList,
      "approval_request_id".toList, "execution_mode".toList, "steps".toList,
      "validation_gates".toList, "expected_outputs".toList, "created_at".toList].Nodup := by decide
  exact hkeys

theorem map_val_injective {P : Text → Prop} {xs ys : List { s : Text // P s }}
    (h : xs.map Subtype.val = ys.map Subtype.val) : xs = ys :=
  Subtype.val_injective.list_map h

/-- Steps that are written alike pass the integrity check alike. -/
theorem validateStep_of_dump {a b : ActionPlanStep} (h : sortKeys a.dump = sortKeys b.dump)
    (ha : validateStep a = .ok ()) : validateStep b = .ok () := by
  have hget := get?_of_sortKeys_eq (stepMembers a) (keys_stepMembers a) h
  have hid : a.stepId.1 = b.stepId.1 := str_member (hget "step_id".toList)
  have hdepends : a.dependsOn.map Subtype.val = b.dependsOn.map Subtype.val :=
    texts_member (hget "depends_on".toList)
  have hkey : a.idempotencyKey.1 = b.idempotencyKey.1 := str_member (hget "idempotency_key".toList)
  have hconfig : a.configHash.1 = b.configHash.1 := str_member (hget "config_hash".toList)
  have hscope : a.promotionScope.1 = b.promotionScope.1 :=
    str_member (hget "promotion_scope".toList)
  obtain ⟨hintegrity, hcandidate⟩ := validateStep_eq_ok.mp ha
  refine validateStep_eq_ok.mpr ⟨?_, hscope ▸ hcandidate⟩
  rw [← Subtype.ext hkey, ← Subtype.ext hconfig, ← map_val_injective hdepends, ← Subtype.ext hid]
  exact hintegrity

theorem value_injective {a b : WorkflowType} (h : a.value = b.value) : a = b := by
  cases a <;> cases b <;> first | rfl | exact absurd h (by decide)

variable {p : Platform} {P Q : ActionPlan}

theorem executable_of_dump (h : sortKeys (P.dump p) = sortKeys (Q.dump p)) (hP : Executable P) :
    Executable Q := by
  have hget := get?_of_sortKeys_eq (planMembers p P) (keys_planMembers p P) h
  have hmode : P.executionMode.value = Q.executionMode.value :=
    str_member (hget "execution_mode".toList)
  have hrequest : some (sortKeys ((P.approvalRequestId.map Value.str).getD .null)) =
      some (sortKeys ((Q.approvalRequestId.map Value.str).getD .null)) :=
    hget "approval_request_id".toList
  have hsteps : (P.steps.map ActionPlanStep.dump).map sortKeys =
      (Q.steps.map ActionPlanStep.dump).map sortKeys := arr_member (hget "steps".toList)
  rw [List.map_map, List.map_map] at hsteps
  refine ⟨(value_injective hmode).symm.trans hP.mode, fun hnil => hP.steps ?_, ?_, ?_⟩
  · simpa [hnil] using hsteps
  · intro step hstep
    obtain ⟨step', hstep', hdump⟩ := List.mem_map.mp (hsteps ▸ List.mem_map_of_mem hstep)
    exact validateStep_of_dump hdump (hP.integrity step' hstep')
  · rw [hP.request] at hrequest
    cases hQ : Q.approvalRequestId with
    | none => rfl
    | some id => simp [hQ, sortKeys] at hrequest

theorem approves_of_dump {metadata : ActionPlanApprovalMetadata}
    (h : dumps (P.dump p) = dumps (Q.dump p))
    (hP : Approves p metadata P) : Approves p metadata Q := by
  have hget := get?_of_sortKeys_eq (planMembers p P) (keys_planMembers p P) (dumps_eq_iff.mp h)
  have hid : P.actionPlanId.1 = Q.actionPlanId.1 := str_member (hget "action_plan_id".toList)
  have hreport : P.createdFromDecisionReport.1 = Q.createdFromDecisionReport.1 :=
    str_member (hget "created_from_decision_report".toList)
  have hversion : P.sourceDatasetVersionId.1 = Q.sourceDatasetVersionId.1 :=
    str_member (hget "source_dataset_version_id".toList)
  refine ⟨hP.planId.trans (Subtype.ext hid), hP.planHash.trans ?_,
    hP.reportId.trans (Subtype.ext hreport), hP.versionId.trans (Subtype.ext hversion)⟩
  rw [actionPlanIntegrityHash, actionPlanIntegrityHash, stableHash, stableHash, h]

end Dump

section Binding

variable {p : Platform} {inPlay : Bytes → Prop}
  (hsha : ∀ x y, inPlay x → inPlay y → sha256 x = sha256 y → x = y)

include hsha

/-- An approval that carries the ids and the hash of a previewed plan accepts exactly
the plans that are written as the previewed one. -/
theorem approval_binds_plan {request : BuildActionPlanPreviewRequest} {now : Datetime}
    {P Q : ActionPlan} {metadata : ActionPlanApprovalMetadata}
    (hpreview : buildActionPlanPreview p request now = .ok P) (happroves : Approves p metadata P)
    (hP : inPlay (encodeUtf8 (dumps (P.dump p)))) (hQ : inPlay (encodeUtf8 (dumps (Q.dump p)))) :
    (∃ hash, validateActionPlanExecution p (execution Q metadata) = .ok hash) ↔
      dumps (Q.dump p) = dumps (P.dump p) := by
  constructor
  · rintro ⟨hash, hok⟩
    have hhash := (approves_of_accepted hok).planHash.symm.trans happroves.planHash
    rw [actionPlanIntegrityHash, actionPlanIntegrityHash, stableHash, stableHash] at hhash
    exact encodeUtf8_injective (hsha _ _ hQ hP (congrArg Subtype.val hhash))
  · intro hdump
    have hexecutable :=
      executable_of_dump (dumps_eq_iff.mp hdump.symm) (executable_of_preview hpreview)
    exact ⟨_, accepted_of_approves hexecutable (approves_of_dump hdump.symm happroves)⟩

end Binding

/-- Preview, approve, execute: the plan is accepted. -/
theorem preview_round_trip {p : Platform} {request : BuildActionPlanPreviewRequest} {now : Datetime}
    {plan : ActionPlan} {metadata : ActionPlanApprovalMetadata}
    (hpreview : buildActionPlanPreview p request now = .ok plan)
    (happroves : Approves p metadata plan) :
    validateActionPlanExecution p (execution plan metadata) =
      .ok (actionPlanIntegrityHash p plan) :=
  accepted_of_approves (executable_of_preview hpreview) happroves

section Example

def imputeMethod : NonEmptyStr := literal "median"

def imputeRecommendation : MethodRecommendation where
  recommendationId := literal "impute-income"
  issueId := literal "missing-income"
  actionType := literal "IMPUTE_MISSING_VALUES"
  policyVersion := literal "method_policy_v0"
  target := [("column".toList, .str "income".toList)]
  recommendedMethod := ⟨imputeMethod, literal "dataforge.tabular", true⟩
  candidateMethods := [⟨imputeMethod, .recommended, .enabled⟩]
  blockedMethods := []
  expectedOutputs := []
  modelImpactRequired := false
  recommendedIsCandidate := ⟨_, rfl, rfl⟩
  recommendedNotBlocked := fun _ hb => absurd hb List.not_mem_nil

def imputeRequest : BuildActionPlanPreviewRequest where
  decisionReportId := literal "report"
  sourceDatasetVersionId := literal "v1"
  selectedDecisionIds := ⟨[imputeRecommendation.recommendationId], List.cons_ne_nil _ _⟩
  selectedMethodOverrides := []
  methodRecommendations := ⟨[imputeRecommendation], List.cons_ne_nil _ _⟩
  createdByUserId := literal "user"
  inputArtifacts := []
  targetVersionName := none
  createdAt := none

def imputePreview : ActionPlan where
  toActionPlanFields := planFields imputeRequest ⟨0, some 0⟩ [imputeRecommendation]
    [buildStep asciiPlatform imputeRecommendation ⟨imputeMethod, .recommended, .enabled⟩ [] []]
  uniqueStepIds := List.nodup_singleton _
  dependenciesExist := by
    intro step hstep d hd
    obtain rfl := List.mem_singleton.mp hstep
    exact absurd hd List.not_mem_nil

theorem imputePreview_built :
    buildActionPlanPreview asciiPlatform imputeRequest ⟨0, some 0⟩ = .ok imputePreview := by
  have hselected : imputeRequest.selectedDecisionIds.1.mapM (selectedRecommendation
      [(imputeRecommendation.recommendationId, imputeRecommendation)]) =
        .ok [imputeRecommendation] := rfl
  have hindexed : recommendationsById imputeRequest.methodRecommendations.1 =
      .ok [(imputeRecommendation.recommendationId, imputeRecommendation)] := rfl
  have hcandidate : selectCandidate imputeRecommendation imputeMethod =
      .ok ⟨imputeMethod, .recommended, .enabled⟩ := rfl
  have hsteps : buildSteps asciiPlatform imputeRequest [imputeRecommendation] [] =
      .ok [buildStep asciiPlatform imputeRecommendation ⟨imputeMethod, .recommended, .enabled⟩
        [] []] := by
    rw [buildSteps]
    exact bind_eq_ok.mpr ⟨_, hcandidate, rfl⟩
  rw [buildActionPlanPreview, hindexed, ok_bind, hselected, ok_bind, hsteps, ok_bind]
  exact imputePreview.validate_fields

def imputeApproval : ActionPlanApprovalMetadata where
  approvalId := literal "approval"
  approvalRequestId := literal "request"
  approvedByUserId := literal "user"
  approvedAt := ⟨0, some 0⟩
  actionPlanId := imputePreview.actionPlanId
  actionPlanHash := actionPlanIntegrityHash asciiPlatform imputePreview
  decisionReportId := imputePreview.createdFromDecisionReport
  sourceDatasetVersionId := imputePreview.sourceDatasetVersionId

/-- The approved preview itself, where one text is hashed only. -/
theorem approval_binds_imputePreview :
    (∃ hash, validateActionPlanExecution asciiPlatform (execution imputePreview imputeApproval) =
      .ok hash) ↔
        dumps (imputePreview.dump asciiPlatform) = dumps (imputePreview.dump asciiPlatform) := by
  have hsha (x y : Bytes) (hx : x = encodeUtf8 (dumps (imputePreview.dump asciiPlatform)))
      (hy : y = encodeUtf8 (dumps (imputePreview.dump asciiPlatform))) (_ : sha256 x = sha256 y) :
      x = y := hx.trans hy.symm
  exact approval_binds_plan hsha imputePreview_built ⟨rfl, rfl, rfl, rfl⟩ rfl rfl

end Example

end DataForge.Kernel.ActionPlanApproval
