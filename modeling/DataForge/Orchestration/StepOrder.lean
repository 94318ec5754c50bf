import DataForge.Foundation.Features
import DataForge.Kernel.ActionPlanPreview
import DataForge.Orchestration.Remediation

namespace DataForge.Orchestration.StepOrder

open DataForge.Foundation.Strings
open DataForge.Foundation.Outcome
open DataForge.Foundation.Features
open DataForge.Foundation.Tables
open DataForge.Domain.Common
open DataForge.Domain.Artifact
open DataForge.Domain.Decision
open DataForge.Kernel.ActionPlanPreview
open DataForge.Kernel.ActionPlanExecution
open DataForge.Orchestration.Remediation

variable {F : Type}

section Trace

/-- A step that a run starts, and the ids of those it has executed by then. -/
structure Start where
  step : ActionPlanStep
  executed : List NonEmptyStr

/-- The loop over the steps with a log of its starts. -/
def traced (ex : Executors F) (plan : ActionPlan) :
    List ActionPlanStep → List NonEmptyStr → Table → ApplyExecutionState F →
      List Start × Result Table × ApplyExecutionState F
  | [], _, t, s => ([], .ok t, s)
  | step :: steps, executed, t, s =>
    match (executeStep ex plan step t).run s with
    | (.error e, s') => ([⟨step, executed⟩], .error e, s')
    | (.ok candidate, s') =>
      let rest := traced ex plan steps (executed ++ [step.stepId]) candidate
        { s' with primaryCandidateArtifact := some candidate }
      (⟨step, executed⟩ :: rest.1, rest.2)

variable {ex : Executors F} {plan : ActionPlan}

/-- The log changes nothing. -/
theorem traced_outcome (steps : List ActionPlanStep) (executed : List NonEmptyStr) (t : Table)
    (s : ApplyExecutionState F) :
    (traced ex plan steps executed t s).2 = (executeSteps ex plan steps t).run s := by
  induction steps generalizing executed t s with
  | nil => rfl
  | cons step steps ih =>
    rw [traced, executeSteps]
    cases hstep : (executeStep ex plan step t).run s with
    | mk outcome s' =>
      cases outcome with
      | error e => rw [Effect.run_bind_error hstep]
      | ok candidate =>
        rw [Effect.run_bind_ok hstep, Effect.run_bind_ok (Effect.run_modify _ s')]
        exact ih _ candidate _

/-- The steps start in the order of the list. -/
theorem getElem?_traced {steps : List ActionPlanStep} {executed : List NonEmptyStr} {t : Table}
    {s : ApplyExecutionState F} {i : Nat} {start : Start}
    (h : (traced ex plan steps executed t s).1[i]? = some start) :
    steps[i]? = some start.step ∧
      start.executed = executed ++ (steps.take i).map ActionPlanStep.stepId := by
  induction steps generalizing executed t s i with
  | nil => simp [traced] at h
  | cons step steps ih =>
    have hhead : ∀ {rest : List Start}, (⟨step, executed⟩ :: rest : List Start)[0]? = some start →
        (step :: steps)[0]? = some start.step ∧
          start.executed = executed ++ ((step :: steps).take 0).map ActionPlanStep.stepId := by
      intro rest hrest
      obtain rfl := Option.some.inj hrest
      exact ⟨rfl, (List.append_nil _).symm⟩
    rw [traced] at h
    cases i with
    | zero =>
      split at h
      · exact hhead h
      · exact hhead h
    | succ i =>
      split at h
      · simp at h
      · obtain ⟨hstep, hexecuted⟩ := ih (by simpa using h)
        refine ⟨by simpa using hstep, ?_⟩
        rw [hexecuted, List.take_succ_cons, List.map_cons, List.append_assoc, List.singleton_append]

end Trace

section Order

/-- The starts of a run of `execute_remediation_plan`. -/
def startsOf (ex : Executors F) (plan : ActionPlan) (s : ApplyExecutionState F) : List Start :=
  match s.remediationReportArtifact, (resolveSourceArtifact ex).run s with
  | none, (.ok source, s') => (traced ex plan plan.steps [] source s').1
  | _, _ => []

/-- Every step that the run starts finds the steps it depends on executed. -/
def DependenciesExecuted (starts : List Start) : Prop :=
  ∀ start ∈ starts, ∀ d ∈ start.step.dependsOn, d ∈ start.executed

/-- The plan lists the step with this id before the other one. -/
def ListedBefore (plan : ActionPlan) (d : NonEmptyStr) (step : ActionPlanStep) : Prop :=
  ∃ (i j : Nat) (other : ActionPlanStep), plan.steps[i]? = some step ∧ j < i ∧
    plan.steps[j]? = some other ∧ other.stepId = d

variable {ex : Executors F} {plan : ActionPlan} {s : ApplyExecutionState F}

theorem position_of_step {i j : Nat} {step : ActionPlanStep} (hi : plan.steps[i]? = some step)
    (hj : plan.steps[j]? = some step) : i = j := by
  have hid : ∀ {k : Nat}, plan.steps[k]? = some step →
      (plan.steps.map ActionPlanStep.stepId)[k]? = some step.stepId := by
    intro k hk
    rw [List.getElem?_map, hk, Option.map_some]
  obtain ⟨hlt, -⟩ := List.getElem?_eq_some_iff.mp (hid hi)
  exact (List.getElem?_inj hlt plan.uniqueStepIds).mp ((hid hi).trans (hid hj).symm)

theorem executed_of_start {start : Start} (h : start ∈ startsOf ex plan s) :
    ∃ i : Nat, plan.steps[i]? = some start.step ∧
      start.executed = (plan.steps.take i).map ActionPlanStep.stepId := by
  rw [startsOf] at h
  split at h
  · obtain ⟨i, hi⟩ := List.mem_iff_getElem?.mp h
    exact ⟨i, getElem?_traced hi⟩
  · cases h

theorem mem_executed_iff {start : Start} (h : start ∈ startsOf ex plan s) {d : NonEmptyStr} :
    d ∈ start.executed ↔ ListedBefore plan d start.step := by
  obtain ⟨i, hi, hexecuted⟩ := executed_of_start h
  rw [hexecuted]
  constructor
  · intro hmem
    obtain ⟨other, hother, rfl⟩ := List.mem_map.mp hmem
    obtain ⟨j, hj⟩ := List.mem_iff_getElem?.mp hother
    rw [List.getElem?_take] at hj
    split at hj
    · next hlt => exact ⟨i, j, other, hi, hlt, hj, rfl⟩
    · cases hj
  · rintro ⟨k, j, other, hk, hlt, hj, rfl⟩
    obtain rfl := position_of_step hi hk
    apply List.mem_map_of_mem
    apply List.mem_of_getElem? (i := j)
    rw [List.getElem?_take, if_pos hlt, hj]

/-- A run respects the dependencies of its steps exactly when the plan lists what each
step it starts depends on before the step: the list alone gives the order. -/
theorem dependenciesExecuted_iff (ex : Executors F) (plan : ActionPlan)
    (s : ApplyExecutionState F) :
    DependenciesExecuted (startsOf ex plan s) ↔
      ∀ start ∈ startsOf ex plan s, ∀ d ∈ start.step.dependsOn, ListedBefore plan d start.step := by
  constructor
  · intro h start hstart d hd
    exact (mem_executed_iff hstart).mp (h start hstart d hd)
  · intro h start hstart d hd
    exact (mem_executed_iff hstart).mpr (h start hstart d hd)

end Order

section Example

def markStep (stepId : NonEmptyStr) (dependsOn : List NonEmptyStr) : ActionPlanStep where
  stepId := stepId
  type := literal "MARK_DUPLICATE_CANDIDATES"
  dependsOn := dependsOn
  idempotencyKey := stepIdempotencyKey (sha256Digest .empty) dependsOn stepId
  methodId := literal "exact_duplicates"
  pluginId := literal "dataforge.tabular"
  pluginVersion := literal "0.1.0"
  configHash := sha256Digest .empty
  policyVersion := literal "duplicates_policy_v0"
  validationGates := []
  preconditions := []
  inputArtifacts := []
  outputArtifactKind := literal "candidate_tabular_dataset"
  config := []
  randomSeed := none
  retryPolicy := ⟨⟨1, one_attempt⟩, []⟩
  onFailure := literal "fail_plan_keep_artifacts_unpromoted"
  promotionScope := literal "candidate_only"

/-- A plan that lists a step before the one it depends on. -/
def reversedPlan : ActionPlan where
  actionPlanId := literal "plan"
  planSchemaVersion := literal "action_plan.v1"
  sourceDatasetVersionId := literal "source"
  targetVersionName := literal "candidate"
  createdFromDecisionReport := literal "report"
  selectedDecisionIds := []
  createdByUserId := literal "user"
  policyVersion := literal "policy_v0"
  requiresApproval := false
  approvalRequestId := none
  executionMode := .previewActionPlan
  steps := [markStep (literal "second") [literal "first"], markStep (literal "first") []]
  validationGates := []
  expectedOutputs := []
  createdAt := ⟨0, some 0⟩
  uniqueStepIds := by decide
  dependenciesExist := by decide

def emptyTable : Table := ⟨[], []⟩

def permissive : Executors ℚ where
  source := .ok emptyTable
  impute _ _ t := .ok t
  duplicates _ _ t := .ok t
  createSplit _ _ := .error (.plain "KeyError" "split")
  smote _ _ _ _ := .error (.plain "KeyError" "smote")
  gates _ _ _ _ _ := .error (.plain "KeyError" "gates")

theorem reversedPlan_accepted :
    validateActionPlanExecution asciiPlatform ⟨reversedPlan, literal "source", none⟩ =
      .ok (actionPlanIntegrityHash asciiPlatform reversedPlan) := by
  have hstep : ∀ step ∈ reversedPlan.steps, validateStep step = .ok () := by
    intro step hstep
    rw [reversedPlan, List.mem_cons, List.mem_singleton] at hstep
    obtain rfl | rfl := hstep
    · exact validateStep_eq_ok.mpr ⟨rfl, rfl⟩
    · exact validateStep_eq_ok.mpr ⟨rfl, rfl⟩
  exact validateActionPlanExecution_eq_ok.mpr
    ⟨rfl, rfl, List.cons_ne_nil _ _, forM_eq_ok.mpr hstep, guardOk_eq_ok.mpr rfl, rfl⟩

theorem reversedPlan_breaks_dependency :
    ¬ ∀ (request : ValidateActionPlanExecutionRequest) (hash : Sha256Digest) (ex : Executors ℚ),
      validateActionPlanExecution asciiPlatform request = .ok hash →
        DependenciesExecuted (startsOf ex request.actionPlan .fresh) := by
  intro h
  have hdone := h ⟨reversedPlan, literal "source", none⟩ _ permissive reversedPlan_accepted
  have hstart : (⟨markStep (literal "second") [literal "first"], []⟩ : Start) ∈
      startsOf permissive reversedPlan .fresh := List.mem_cons_self
  exact absurd (hdone _ hstart (literal "first") List.mem_cons_self) List.not_mem_nil

end Example

end DataForge.Orchestration.StepOrder
