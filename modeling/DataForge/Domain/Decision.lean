import DataForge.Domain.Artifact
import DataForge.Foundation.Json

namespace DataForge.Domain.Decision

open DataForge.Foundation.Strings
open DataForge.Foundation.Outcome
open DataForge.Foundation.Dictionary
open DataForge.Foundation.Json
open DataForge.Domain.Common
open DataForge.Domain.Artifact

inductive WorkflowType where
  | analyzeOnly
  | previewActionPlan
  | applySelectedActions
  | export
deriving DecidableEq

def WorkflowType.value : WorkflowType → Text
  | .analyzeOnly => "ANALYZE_ONLY".toList
  | .previewActionPlan => "PREVIEW_ACTION_PLAN".toList
  | .applySelectedActions => "APPLY_SELECTED_ACTIONS".toList
  | .export => "EXPORT".toList

inductive MethodCandidateStatus where
  | recommended
  | available
  | disabledByPolicy
  | disabledByReadiness
  | blocked
deriving DecidableEq

inductive PolicyStatus where
  | enabled
  | disabledByPolicy
  | disabledByReadiness
  | blocked
deriving DecidableEq

structure RecommendedMethod where
  methodId : NonEmptyStr
  pluginId : NonEmptyStr
  requiresApproval : Bool

structure MethodCandidate where
  methodId : NonEmptyStr
  status : MethodCandidateStatus
  policyStatus : PolicyStatus

structure BlockedMethod where
  methodId : NonEmptyStr
  reasonCode : NonEmptyStr

/-- The last of the candidates with one id, as the dictionary by id keeps it. -/
def candidateFor (candidates : List MethodCandidate) (methodId : NonEmptyStr) :
    Option MethodCandidate :=
  get? methodId (update [] (candidates.map fun c => (c.methodId, c)))

structure MethodRecommendation where
  recommendationId : NonEmptyStr
  issueId : NonEmptyStr
  actionType : NonEmptyStr
  policyVersion : NonEmptyStr
  target : Dict Text Value
  recommendedMethod : RecommendedMethod
  candidateMethods : List MethodCandidate
  blockedMethods : List BlockedMethod
  expectedOutputs : List NonEmptyStr
  modelImpactRequired : Bool
  recommendedIsCandidate : ∃ c, candidateFor candidateMethods recommendedMethod.methodId = some c ∧
    c.status = .recommended
  recommendedNotBlocked : ∀ b ∈ blockedMethods, b.methodId ≠ recommendedMethod.methodId

structure RetryPolicy where
  maxAttempts : { n : Nat // 1 ≤ n }
  retryableErrors : List NonEmptyStr

theorem one_attempt : 1 ≤ 1 := le_refl 1

structure ActionPlanStep where
  stepId : NonEmptyStr
  type : NonEmptyStr
  dependsOn : List NonEmptyStr
  idempotencyKey : Sha256Digest
  methodId : NonEmptyStr
  pluginId : NonEmptyStr
  pluginVersion : NonEmptyStr
  configHash : Sha256Digest
  policyVersion : NonEmptyStr
  validationGates : List NonEmptyStr
  preconditions : List NonEmptyStr
  inputArtifacts : List S3Uri
  outputArtifactKind : NonEmptyStr
  config : Dict Text Value
  randomSeed : Option Int
  retryPolicy : RetryPolicy
  onFailure : NonEmptyStr
  promotionScope : NonEmptyStr

structure ActionPlanFields where
  actionPlanId : NonEmptyStr
  planSchemaVersion : NonEmptyStr
  sourceDatasetVersionId : NonEmptyStr
  targetVersionName : NonEmptyStr
  createdFromDecisionReport : NonEmptyStr
  selectedDecisionIds : List NonEmptyStr
  createdByUserId : NonEmptyStr
  policyVersion : NonEmptyStr
  requiresApproval : Bool
  approvalRequestId : Option Text
  executionMode : WorkflowType
  steps : List ActionPlanStep
  validationGates : List NonEmptyStr
  expectedOutputs : List NonEmptyStr
  createdAt : Datetime

def ActionPlanFields.stepIds (plan : ActionPlanFields) : List NonEmptyStr :=
  plan.steps.map ActionPlanStep.stepId

/-- A plan that its model validator accepted. -/
structure ActionPlan extends ActionPlanFields where
  uniqueStepIds : (steps.map ActionPlanStep.stepId).Nodup
  dependenciesExist : ∀ step ∈ steps, ∀ d ∈ step.dependsOn, d ∈ steps.map ActionPlanStep.stepId

def ActionPlanFields.validate (plan : ActionPlanFields) : Result ActionPlan :=
  if hunique : plan.stepIds.Nodup then
    if hexist : ∀ step ∈ plan.steps, ∀ d ∈ step.dependsOn, d ∈ plan.stepIds then
      .ok { plan with uniqueStepIds := hunique, dependenciesExist := hexist }
    else .error (.validation "ActionPlan"
      "ActionPlan step dependencies must reference existing steps")
  else .error (.validation "ActionPlan" "ActionPlan step_id values must be unique")

theorem ActionPlanFields.validate_eq_ok {fields : ActionPlanFields} {plan : ActionPlan}
    (h : fields.validate = .ok plan) : plan.toActionPlanFields = fields := by
  unfold ActionPlanFields.validate at h
  split at h
  · split at h
    · exact (Except.ok.inj h) ▸ rfl
    · cases h
  · cases h

theorem ActionPlan.validate_fields (plan : ActionPlan) :
    plan.toActionPlanFields.validate = .ok plan := by
  unfold ActionPlanFields.validate
  exact (dif_pos plan.uniqueStepIds).trans (dif_pos plan.dependenciesExist)

section Dump

def RetryPolicy.dump (policy : RetryPolicy) : Value :=
  .obj [("max_attempts".toList, natValue policy.maxAttempts.1),
    ("retryable_errors".toList, texts (policy.retryableErrors.map Subtype.val))]

def ActionPlanStep.dump (step : ActionPlanStep) : Value :=
  .obj [("step_id".toList, .str step.stepId.1), ("type".toList, .str step.type.1),
    ("depends_on".toList, texts (step.dependsOn.map Subtype.val)),
    ("idempotency_key".toList, .str step.idempotencyKey.1),
    ("method_id".toList, .str step.methodId.1), ("plugin_id".toList, .str step.pluginId.1),
    ("plugin_version".toList, .str step.pluginVersion.1),
    ("config_hash".toList, .str step.configHash.1),
    ("policy_version".toList, .str step.policyVersion.1),
    ("validation_gates".toList, texts (step.validationGates.map Subtype.val)),
    ("preconditions".toList, texts (step.preconditions.map Subtype.val)),
    ("input_artifacts".toList, texts (step.inputArtifacts.map Subtype.val)),
    ("output_artifact_kind".toList, .str step.outputArtifactKind.1),
    ("config".toList, .obj step.config),
    ("random_seed".toList, (step.randomSeed.map intValue).getD .null),
    ("retry_policy".toList, step.retryPolicy.dump), ("on_failure".toList, .str step.onFailure.1),
    ("promotion_scope".toList, .str step.promotionScope.1)]

/-- `model_dump(mode="json")` of a plan. -/
def ActionPlan.dump (p : Platform) (plan : ActionPlan) : Value :=
  .obj [("action_plan_id".toList, .str plan.actionPlanId.1),
    ("plan_schema_version".toList, .str plan.planSchemaVersion.1),
    ("source_dataset_version_id".toList, .str plan.sourceDatasetVersionId.1),
    ("target_version_name".toList, .str plan.targetVersionName.1),
    ("created_from_decision_report".toList, .str plan.createdFromDecisionReport.1),
    ("selected_decision_ids".toList, texts (plan.selectedDecisionIds.map Subtype.val)),
    ("created_by_user_id".toList, .str plan.createdByUserId.1),
    ("policy_version".toList, .str plan.policyVersion.1),
    ("requires_approval".toList, .bool plan.requiresApproval),
    ("approval_request_id".toList, (plan.approvalRequestId.map Value.str).getD .null),
    ("execution_mode".toList, .str plan.executionMode.value),
    ("steps".toList, .arr (plan.steps.map ActionPlanStep.dump)),
    ("validation_gates".toList, texts (plan.validationGates.map Subtype.val)),
    ("expected_outputs".toList, texts (plan.expectedOutputs.map Subtype.val)),
    ("created_at".toList, .str (p.dumpDatetime plan.createdAt))]

end Dump

end DataForge.Domain.Decision
