import DataForge.Domain.Common
import DataForge.Domain.Decision
import DataForge.Foundation.Json

namespace DataForge.Kernel.StableHash

open DataForge.Foundation.Strings
open DataForge.Foundation.Sha256
open DataForge.Foundation.Json
open DataForge.Domain.Common

/-- The hash of a payload in canonical JSON: sorted keys, no spaces. -/
@[irreducible] def stableHash (payload : Value) : Sha256Digest :=
  sha256Digest (encodeUtf8 (dumps payload))

def digestPrefix (payload : Value) : Text :=
  (removePrefix "sha256:".toList (stableHash payload).1).take 16

/-- `{prefix}_{digest[:16]}` -/
def prefixedId (name : Text) (payload : Value) : Text := name ++ '_' :: digestPrefix payload

theorem length_digestPrefix (payload : Value) : (digestPrefix payload).length = 16 := by
  obtain ⟨hex, hhex, hlen, -⟩ := (stableHash payload).2
  rw [digestPrefix, hhex, removePrefix_append, List.length_take, hlen]
  rfl

theorem prefixedId_ne_nil (name : Text) (payload : Value) : prefixedId name payload ≠ [] :=
  List.append_ne_nil_of_right_ne_nil _ (List.cons_ne_nil _ _)

end DataForge.Kernel.StableHash

namespace DataForge.Kernel.ActionPlanPreview

open DataForge.Foundation.Strings
open DataForge.Foundation.Outcome
open DataForge.Foundation.Dictionary
open DataForge.Foundation.Json
open DataForge.Domain.Common
open DataForge.Domain.Artifact
open DataForge.Domain.Decision
open DataForge.Kernel.StableHash

def previewError (reasonCode message : String) (code : ErrorCode := .actionPlanPreconditionFailed) :
    Raised :=
  .reasoned "ActionPlanPreviewError" reasonCode code (some 422) message

structure BuildActionPlanPreviewRequest where
  decisionReportId : NonEmptyStr
  sourceDatasetVersionId : NonEmptyStr
  selectedDecisionIds : { ids : List NonEmptyStr // ids ≠ [] }
  selectedMethodOverrides : Dict NonEmptyStr NonEmptyStr
  methodRecommendations : { rs : List MethodRecommendation // rs ≠ [] }
  createdByUserId : NonEmptyStr
  inputArtifacts : List S3Uri
  targetVersionName : Option NonEmptyStr
  createdAt : Option Datetime

def recommendationsById (recommendations : List MethodRecommendation) :
    Result (Dict NonEmptyStr MethodRecommendation) :=
  let indexed := update [] (recommendations.map fun r => (r.recommendationId, r))
  if indexed.length ≠ recommendations.length then
    .error (previewError "duplicate_recommendation_id" "Method recommendation ids must be unique.")
  else .ok indexed

def selectedRecommendation (recommendations : Dict NonEmptyStr MethodRecommendation)
    (selectedId : NonEmptyStr) : Result MethodRecommendation :=
  match get? selectedId recommendations with
  | some recommendation => .ok recommendation
  | none => .error (previewError "selected_decision_not_found"
      "Selected decision id was not found in method recommendations.")

def selectCandidate (recommendation : MethodRecommendation) (methodId : NonEmptyStr) :
    Result MethodCandidate :=
  let blocked := update [] (recommendation.blockedMethods.map fun b => (b.methodId, b))
  match get? methodId blocked with
  | some b => .error (previewError (String.ofList b.reasonCode.1)
      "Selected method is blocked by policy." .policyBlocked)
  | none =>
    match candidateFor recommendation.candidateMethods methodId with
    | none => .error (previewError "method_candidate_not_found"
        "Selected method is not a candidate for this recommendation.")
    | some candidate =>
      if (candidate.status = .recommended ∨ candidate.status = .available) ∧
          candidate.policyStatus = .enabled then .ok candidate
      else .error (previewError "method_not_selectable"
        "Selected method is disabled or blocked and cannot be added to ActionPlan." .policyBlocked)

section Steps

def imputeMissingValues : Text := "IMPUTE_MISSING_VALUES".toList

def augmentRareClass : Text := "AUGMENT_RARE_CLASS".toList

def syntheticMethods : List Text :=
  ["smote".toList, "gaussian_copula".toList, "borderline_smote".toList, "adasyn".toList,
    "ctgan".toList]

/-- `target.get(key)` as a JSON value. -/
def targetValue (recommendation : MethodRecommendation) (key : String) : Value :=
  (get? key.toList recommendation.target).getD .null

def stepConfig (recommendation : MethodRecommendation) (methodId : Text) : Dict Text Value :=
  if recommendation.actionType.1 = imputeMissingValues then
    [("column".toList, targetValue recommendation "column"), ("method".toList, .str methodId),
      ("add_missingness_indicator".toList, .bool true)] ++
    if methodId = "group_median".toList then
      [("group_key".toList, (get? "group_key".toList recommendation.target).getD
        (.str "customer_segment".toList))]
    else []
  else if recommendation.actionType.1 = augmentRareClass then
    [("target_column".toList, targetValue recommendation "target_column"),
      ("rare_class_label".toList, targetValue recommendation "rare_class_label"),
      ("method".toList, .str methodId),
      ("source_split".toList, if methodId ∈ syntheticMethods then .str "train".toList else .null)]
  else [("method".toList, .str methodId), ("target".toList, .obj recommendation.target)]

def modelImpactGate : NonEmptyStr := literal "model_impact_check"

def baseValidationGates : List NonEmptyStr :=
  [literal "schema_validation", literal "business_rules", literal "privacy_check"]

def syntheticValidationGates : List NonEmptyStr :=
  [literal "split_leakage_check", literal "schema_validation", literal "business_rules_check",
    literal "synthetic_quality_check", literal "privacy_check", modelImpactGate]

def validationGates (recommendation : MethodRecommendation) (methodId : Text) : List NonEmptyStr :=
  if recommendation.actionType.1 = augmentRareClass then
    if methodId ∈ syntheticMethods then syntheticValidationGates
    else [literal "schema_validation", literal "business_rules", modelImpactGate]
  else
    baseValidationGates ++ if recommendation.modelImpactRequired then [modelImpactGate] else []

def preconditions (recommendation : MethodRecommendation) (methodId : Text) : List NonEmptyStr :=
  [literal "source_version_is_immutable"] ++
  (if recommendation.actionType.1 = imputeMissingValues then
    [literal "target_column_not_used_for_imputation"] else []) ++
  if methodId ∈ syntheticMethods then
    [literal "train_split_exists", literal "leakage_checks_passed"] else []

/-- Class weights configure the training and change no data. -/
def configuresWeights (actionType : NonEmptyStr) (methodId : Text) : Prop :=
  actionType.1 = augmentRareClass ∧ methodId = "class_weights".toList

instance (actionType : NonEmptyStr) (methodId : Text) :
    Decidable (configuresWeights actionType methodId) := inferInstanceAs (Decidable (_ ∧ _))

def stepType (actionType : NonEmptyStr) (methodId : Text) : NonEmptyStr :=
  if configuresWeights actionType methodId then literal "CONFIGURE_CLASS_WEIGHTS" else actionType

def outputArtifactKind (actionType : NonEmptyStr) (methodId : Text) : NonEmptyStr :=
  if configuresWeights actionType methodId then literal "TRAINING_STRATEGY_CONFIG"
  else literal "CANDIDATE_DATASET_VERSION"

def randomSeed (methodId : Text) : Option Int :=
  if methodId ∈ syntheticMethods then some 42 else none

def slugChar (c : Char) : Bool := ('a' ≤ c && c ≤ 'z') || ('0' ≤ c && c ≤ '9')

/-- Every run of other characters as one underscore. -/
def collapse : Bool → Text → Text
  | _, [] => []
  | inRun, c :: s =>
    if slugChar c then c :: collapse false s
    else if inRun then collapse true s else '_' :: collapse true s

variable (p : Platform)

def slug (value : Text) : NonEmptyStr :=
  let s := stripBy (· == '_') (collapse false (p.lower value))
  if h : s = [] then literal "step" else ⟨s, h⟩

def stepId (recommendation : MethodRecommendation) (methodId : Text) : NonEmptyStr :=
  slug p (recommendation.actionType.1 ++ '_' :: methodId ++ '_' :: recommendation.issueId.1)

def stepIdempotencyKey (configHash : Sha256Digest) (dependsOn : List NonEmptyStr)
    (stepId : NonEmptyStr) : Sha256Digest :=
  stableHash (.obj [("config_hash".toList, .str configHash.1),
    ("depends_on".toList, texts (dependsOn.map Subtype.val)), ("step_id".toList, .str stepId.1)])

def defaultRetryPolicy : RetryPolicy :=
  ⟨⟨2, by decide⟩, [literal "TRANSIENT_STORAGE_ERROR", literal "DAGSTER_WORKER_RESTART"]⟩

def buildStep (recommendation : MethodRecommendation) (candidate : MethodCandidate)
    (dependsOn : List NonEmptyStr) (inputArtifacts : List S3Uri) : ActionPlanStep :=
  let config := stepConfig recommendation candidate.methodId.1
  let configHash := stableHash (.obj [("action_type".toList, .str recommendation.actionType.1),
    ("config".toList, .obj config), ("method_id".toList, .str candidate.methodId.1),
    ("recommendation_id".toList, .str recommendation.recommendationId.1)])
  let stepId := stepId p recommendation candidate.methodId.1
  { stepId := stepId
    type := stepType recommendation.actionType candidate.methodId.1
    dependsOn := dependsOn
    idempotencyKey := stepIdempotencyKey configHash dependsOn stepId
    methodId := candidate.methodId
    pluginId := recommendation.recommendedMethod.pluginId
    pluginVersion := literal "0.1.0"
    configHash := configHash
    policyVersion := recommendation.policyVersion
    validationGates := validationGates recommendation candidate.methodId.1
    preconditions := preconditions recommendation candidate.methodId.1
    inputArtifacts := inputArtifacts
    outputArtifactKind := outputArtifactKind recommendation.actionType candidate.methodId.1
    config := config
    randomSeed := randomSeed candidate.methodId.1
    retryPolicy := defaultRetryPolicy
    onFailure := literal "fail_plan_keep_artifacts_unpromoted"
    promotionScope := literal "candidate_only" }

end Steps

section Plan

def orderedUnique (values : List NonEmptyStr) : List NonEmptyStr :=
  values.foldl (fun seen value => if value ∈ seen then seen else seen ++ [value]) []

def policyVersion (recommendations : List MethodRecommendation) : NonEmptyStr :=
  match orderedUnique (recommendations.map MethodRecommendation.policyVersion) with
  | [version] => version
  | _ => literal "mixed_method_policies"

def planIdentity (request : BuildActionPlanPreviewRequest) : Value :=
  .obj [("decision_report_id".toList, .str request.decisionReportId.1),
    ("selected_decision_ids".toList, texts (request.selectedDecisionIds.1.map Subtype.val)),
    ("selected_method_overrides".toList, .obj (request.selectedMethodOverrides.map fun item =>
      (item.1.1, .str item.2.1))),
    ("source_dataset_version_id".toList, .str request.sourceDatasetVersionId.1)]

/-- The plan id depends on what was selected and on nothing else. -/
def actionPlanId (request : BuildActionPlanPreviewRequest) : NonEmptyStr :=
  ⟨prefixedId "action_plan".toList (planIdentity request), prefixedId_ne_nil _ _⟩

variable (p : Platform)

def buildSteps (request : BuildActionPlanPreviewRequest) :
    List MethodRecommendation → List ActionPlanStep → Result (List ActionPlanStep)
  | [], steps => .ok steps
  | recommendation :: rest, steps => do
    let methodId := (get? recommendation.recommendationId request.selectedMethodOverrides).getD
      recommendation.recommendedMethod.methodId
    let candidate ← selectCandidate recommendation methodId
    let dependsOn := (steps.getLast?.map ActionPlanStep.stepId).toList
    buildSteps request rest (steps ++ [buildStep p recommendation candidate dependsOn
      request.inputArtifacts])

def planFields (request : BuildActionPlanPreviewRequest) (now : Datetime)
    (selected : List MethodRecommendation) (steps : List ActionPlanStep) : ActionPlanFields where
  actionPlanId := actionPlanId request
  planSchemaVersion := literal "action_plan.v1"
  sourceDatasetVersionId := request.sourceDatasetVersionId
  targetVersionName := request.targetVersionName.getD
    ⟨request.sourceDatasetVersionId.1 ++ "_candidate_preview".toList,
      List.append_ne_nil_of_left_ne_nil request.sourceDatasetVersionId.2 _⟩
  createdFromDecisionReport := request.decisionReportId
  selectedDecisionIds := request.selectedDecisionIds.1
  createdByUserId := request.createdByUserId
  policyVersion := policyVersion selected
  requiresApproval := selected.any fun r => r.recommendedMethod.requiresApproval
  approvalRequestId := none
  executionMode := .previewActionPlan
  steps := steps
  validationGates := orderedUnique (steps.flatMap ActionPlanStep.validationGates)
  expectedOutputs := orderedUnique (selected.flatMap MethodRecommendation.expectedOutputs)
  createdAt := request.createdAt.getD now

def buildActionPlanPreview (request : BuildActionPlanPreviewRequest) (now : Datetime) :
    Result ActionPlan := do
  let recommendations ← recommendationsById request.methodRecommendations.1
  let selected ← request.selectedDecisionIds.1.mapM (selectedRecommendation recommendations)
  let steps ← buildSteps p request selected []
  (planFields request now selected steps).validate

end Plan

theorem actionPlanId_of_ok {p : Platform} {request : BuildActionPlanPreviewRequest} {now : Datetime}
    {plan : ActionPlan} (h : buildActionPlanPreview p request now = .ok plan) :
    plan.actionPlanId = actionPlanId request := by
  simp only [buildActionPlanPreview, bind_eq_ok] at h
  obtain ⟨_, -, selected, -, steps, -, hplan⟩ := h
  rw [ActionPlanFields.validate_eq_ok hplan]
  rfl

end DataForge.Kernel.ActionPlanPreview

namespace DataForge.Kernel.ActionPlanExecution

open DataForge.Foundation.Strings
open DataForge.Foundation.Outcome
open DataForge.Domain.Common
open DataForge.Domain.Artifact
open DataForge.Domain.Decision
open DataForge.Kernel.StableHash
open DataForge.Kernel.ActionPlanPreview

def executionError (reasonCode message : String) (code : ErrorCode := .actionPlanPreconditionFailed)
    (status : Nat := 422) : Raised :=
  .reasoned "ActionPlanExecutionError" reasonCode code (some status) message

structure ActionPlanApprovalMetadata where
  approvalId : NonEmptyStr
  approvalRequestId : NonEmptyStr
  approvedByUserId : NonEmptyStr
  approvedAt : Datetime
  actionPlanId : NonEmptyStr
  actionPlanHash : Sha256Digest
  decisionReportId : NonEmptyStr
  sourceDatasetVersionId : NonEmptyStr

structure ValidateActionPlanExecutionRequest where
  actionPlan : ActionPlan
  sourceDatasetVersionId : NonEmptyStr
  approvalMetadata : Option ActionPlanApprovalMetadata

def actionPlanIntegrityHash (p : Platform) (plan : ActionPlan) : Sha256Digest :=
  stableHash (plan.dump p)

def validateStep (step : ActionPlanStep) : Result Unit := do
  guardOk (step.idempotencyKey = stepIdempotencyKey step.configHash step.dependsOn step.stepId)
    (executionError "step_idempotency_key_mismatch"
      "ActionPlan step idempotency key does not match step integrity.")
  guardOk (step.promotionScope.1 = "candidate_only".toList)
    (executionError "invalid_promotion_scope"
      "ActionPlan steps may only produce candidate artifacts in ML service.")

def validateStepIntegrity (plan : ActionPlan) : Result Unit := plan.steps.forM validateStep

def validateApprovalMetadata (plan : ActionPlan) (metadata : ActionPlanApprovalMetadata)
    (integrityHash : Sha256Digest) : Result Unit := do
  guardOk (∀ expected ∈ plan.approvalRequestId, expected = [] ∨
      metadata.approvalRequestId.1 = expected)
    (executionError "approval_request_mismatch"
      "Approval metadata does not match the ActionPlan approval request."
      .actionPlanSignatureInvalid 401)
  guardOk (metadata.actionPlanId = plan.actionPlanId ∧ metadata.actionPlanHash = integrityHash ∧
      metadata.decisionReportId = plan.createdFromDecisionReport ∧
      metadata.sourceDatasetVersionId = plan.sourceDatasetVersionId)
    (executionError "approval_metadata_integrity_mismatch"
      "Approval metadata does not match the ActionPlan integrity." .actionPlanSignatureInvalid 401)

def checkApproval (plan : ActionPlan) (integrityHash : Sha256Digest) :
    Option ActionPlanApprovalMetadata → Result Unit
  | some metadata => validateApprovalMetadata plan metadata integrityHash
  | none => guardOk (plan.requiresApproval = false) (executionError "approval_metadata_required"
      "Approval-required ActionPlan cannot be executed without approval metadata."
      .actionPlanRequiresApproval 403)

def validateActionPlanExecution (p : Platform) (request : ValidateActionPlanExecutionRequest) :
    Result Sha256Digest := do
  let plan := request.actionPlan
  guardOk (plan.sourceDatasetVersionId = request.sourceDatasetVersionId)
    (executionError "source_dataset_version_mismatch"
      "ActionPlan source dataset version does not match the execute request.")
  guardOk (plan.executionMode = .previewActionPlan)
    (executionError "action_plan_not_preview_mode"
      "Only previewed ActionPlans can be accepted for approved execution.")
  guardOk (plan.steps ≠ []) (executionError "action_plan_has_no_steps"
    "ActionPlan must contain at least one executable step.")
  validateStepIntegrity plan
  checkApproval plan (actionPlanIntegrityHash p plan) request.approvalMetadata
  pure (actionPlanIntegrityHash p plan)

/-- What an accepted request is known to satisfy. -/
theorem validateActionPlanExecution_eq_ok {p : Platform}
    {request : ValidateActionPlanExecutionRequest} {hash : Sha256Digest} :
    validateActionPlanExecution p request = .ok hash ↔
      request.actionPlan.sourceDatasetVersionId = request.sourceDatasetVersionId ∧
      request.actionPlan.executionMode = .previewActionPlan ∧ request.actionPlan.steps ≠ [] ∧
      validateStepIntegrity request.actionPlan = .ok () ∧
      checkApproval request.actionPlan (actionPlanIntegrityHash p request.actionPlan)
        request.approvalMetadata = .ok () ∧
      hash = actionPlanIntegrityHash p request.actionPlan := by
  simp only [validateActionPlanExecution, check_bind_eq_ok, guardOk_eq_ok, pure_eq,
    Except.ok.injEq, eq_comm (a := hash)]

theorem validateStep_eq_ok {step : ActionPlanStep} : validateStep step = .ok () ↔
    step.idempotencyKey = stepIdempotencyKey step.configHash step.dependsOn step.stepId ∧
      step.promotionScope.1 = "candidate_only".toList := by
  simp only [validateStep, check_bind_eq_ok, guardOk_eq_ok]

end DataForge.Kernel.ActionPlanExecution
