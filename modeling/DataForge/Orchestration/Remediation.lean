import DataForge.Domain.Decision
import DataForge.Domain.ValidationGates
import DataForge.Orchestration.ApplySource
import DataForge.Plugins.Tabular.SyntheticSmote

namespace DataForge.Orchestration.Remediation

open DataForge.Foundation.Strings
open DataForge.Foundation.Outcome
open DataForge.Foundation.Features
open DataForge.Foundation.Tables
open DataForge.Domain.Common
open DataForge.Domain.Decision
open DataForge.Domain.Splits
open DataForge.Domain.ValidationGates
open DataForge.Orchestration.ApplySource (applyRuntimeError)
open DataForge.Plugins.Tabular.SyntheticSmote

variable {F : Type}

structure RemediationExecutionReport where
  actionPlanId : NonEmptyStr
  stepCount : Nat
  steps : List NonEmptyStr
  primaryCandidateArtifact : Table
  validationGatesReport : ValidationGatesReport

/-- The part of a run's state that the remediation reads or writes. A table stands for
the artifact that holds it. -/
structure ApplyExecutionState (F : Type) where
  sourceArtifact : Option Table
  primaryCandidateArtifact : Option Table
  splitManifest : Option SplitManifest
  syntheticDatasetReport : Option (SmoteReport F)
  validationGatesReport : Option ValidationGatesReport
  remediationReportArtifact : Option RemediationExecutionReport

def ApplyExecutionState.fresh : ApplyExecutionState F := ⟨none, none, none, none, none, none⟩

/-- What the runtime calls: the readers and executors of other modules. -/
structure Executors (F : Type) where
  source : Result Table
  impute : ActionPlan → ActionPlanStep → Table → Result Table
  duplicates : ActionPlan → ActionPlanStep → Table → Result Table
  createSplit : ActionPlan → Table → Result SplitManifest
  smote : ActionPlan → ActionPlanStep → SplitManifest → Table →
    Result (ExecuteSmoteAugmentationResult F)
  gates : ActionPlan → Table → Table → Option SplitManifest → Option (SmoteReport F) →
    Result ValidationGatesReport

abbrev Run (F α : Type) := Effect Raised (ApplyExecutionState F) α

section Steps

def imputeType : Text := "IMPUTE_MISSING_VALUES".toList

def duplicateTypes : List Text := ["MARK_DUPLICATE_CANDIDATES".toList, "REMOVE_DUPLICATES".toList]

def syntheticStepTypes : List Text :=
  ["AUGMENT_RARE_CLASS".toList, "GENERATE_SYNTHETIC_CANDIDATE".toList]

def isSmoteStep (step : ActionPlanStep) : Prop :=
  step.type.1 ∈ syntheticStepTypes ∧ step.methodId.1 = "smote".toList

instance (step : ActionPlanStep) : Decidable (isSmoteStep step) :=
  inferInstanceAs (Decidable (_ ∧ _))

variable (ex : Executors F) (plan : ActionPlan)

def resolveSourceArtifact : Run F Table := do
  let state ← Effect.get
  match state.sourceArtifact with
  | some source => pure source
  | none =>
    let source ← Effect.lift ex.source
    Effect.modify fun state => { state with sourceArtifact := some source }
    pure source

/-- The manifest of the run; the first call creates it from the table at hand. -/
def ensureSplitManifest (t : Table) : Run F SplitManifest := do
  let state ← Effect.get
  match state.splitManifest with
  | some manifest => pure manifest
  | none =>
    let manifest ← Effect.lift (ex.createSplit plan t)
    Effect.modify fun state => { state with splitManifest := some manifest }
    pure manifest

def executeSmoteStep (step : ActionPlanStep) (t : Table) : Run F Table := do
  let manifest ← ensureSplitManifest ex plan t
  let result ← Effect.lift (ex.smote plan step manifest t)
  Effect.modify fun state =>
    { state with
      splitManifest := some result.augmentedSplitManifest
      syntheticDatasetReport := some result.report }
  pure result.candidate

def executeStep (step : ActionPlanStep) (t : Table) : Run F Table :=
  if step.type.1 = imputeType then Effect.lift (ex.impute plan step t)
  else if step.type.1 ∈ duplicateTypes then Effect.lift (ex.duplicates plan step t)
  else if isSmoteStep step then executeSmoteStep ex plan step t
  else Effect.raise (applyRuntimeError "unsupported_action_plan_step"
    "APPLY runtime does not support the selected ActionPlan step.")

/-- The loop over the steps, each on the candidate of the one before. -/
def executeSteps : List ActionPlanStep → Table → Run F Table
  | [], t => pure t
  | step :: steps, t => do
    let candidate ← executeStep ex plan step t
    Effect.modify fun state => { state with primaryCandidateArtifact := some candidate }
    executeSteps steps candidate

variable {ex : Executors F} {plan : ActionPlan} {step : ActionPlanStep}

theorem type_of_smoteStep (h : isSmoteStep step) :
    step.type.1 ≠ imputeType ∧ step.type.1 ∉ duplicateTypes := by
  have hdisjoint : ∀ type ∈ syntheticStepTypes, type ≠
      imputeType ∧ type ∉ duplicateTypes := by decide
  exact hdisjoint _ h.1

theorem executeStep_smote (h : isSmoteStep step) (t : Table) :
    executeStep ex plan step t = executeSmoteStep ex plan step t := by
  obtain ⟨himpute, hduplicates⟩ := type_of_smoteStep h
  rw [executeStep, if_neg himpute, if_neg hduplicates, if_pos h]

def manifestFor (ex : Executors F) (plan : ActionPlan) (t : Table) :
    Option SplitManifest → Result SplitManifest
  | some manifest => .ok manifest
  | none => ex.createSplit plan t

theorem ensureSplitManifest_run (t : Table) (s : ApplyExecutionState F) :
    (∃ e, manifestFor ex plan t s.splitManifest = .error e ∧
        (ensureSplitManifest ex plan t).run s = (.error e, s)) ∨
      ∃ manifest, manifestFor ex plan t s.splitManifest = .ok manifest ∧
        (ensureSplitManifest ex plan t).run s =
          (.ok manifest, { s with splitManifest := some manifest }) := by
  rw [ensureSplitManifest, Effect.run_bind_ok (Effect.run_get s)]
  cases hs : s.splitManifest with
  | some manifest =>
    refine .inr ⟨manifest, rfl, ?_⟩
    rw [Effect.run_pure, ← hs]
  | none =>
    rw [manifestFor]
    cases hcreated : ex.createSplit plan t with
    | error e => exact .inl ⟨e, rfl, rfl⟩
    | ok manifest => exact .inr ⟨manifest, rfl, rfl⟩

/-- A SMOTE step under the manifest that it finds. -/
def smoteOutcome (ex : Executors F) (plan : ActionPlan) (step : ActionPlanStep) (t : Table)
    (split : Option SplitManifest) : Result (ExecuteSmoteAugmentationResult F) := do
  let manifest ← manifestFor ex plan t split
  ex.smote plan step manifest t

def afterSmote (s : ApplyExecutionState F) (result : ExecuteSmoteAugmentationResult F) :
    ApplyExecutionState F :=
  { s with
    splitManifest := some result.augmentedSplitManifest
    syntheticDatasetReport := some result.report }

theorem executeSmoteStep_run (step : ActionPlanStep) (t : Table) (s : ApplyExecutionState F) :
    (∃ e split, smoteOutcome ex plan step t s.splitManifest = .error e ∧
        (executeSmoteStep ex plan step t).run s = (.error e, { s with splitManifest := split })) ∨
      ∃ result, smoteOutcome ex plan step t s.splitManifest = .ok result ∧
        (executeSmoteStep ex plan step t).run s = (.ok result.candidate, afterSmote s result) := by
  rw [smoteOutcome, executeSmoteStep]
  obtain ⟨e, hmanifest, hrun⟩ | ⟨manifest, hmanifest, hrun⟩ := ensureSplitManifest_run t s
  · rw [hmanifest, Effect.run_bind_error hrun]
    exact .inl ⟨e, s.splitManifest, rfl, rfl⟩
  · rw [hmanifest, Effect.run_bind_ok hrun, Effect.run_bind_lift, ok_bind]
    cases hsmote : ex.smote plan step manifest t with
    | error e => exact .inl ⟨e, some manifest, rfl, rfl⟩
    | ok result => exact .inr ⟨result, rfl, rfl⟩

end Steps

section Plan

variable (ex : Executors F) (plan : ActionPlan)

def runValidationGates : Run F ValidationGatesReport := do
  let state ← Effect.get
  match state.validationGatesReport with
  | some report => pure report
  | none =>
    match state.sourceArtifact, state.primaryCandidateArtifact with
    | some source, some candidate =>
      let report ← Effect.lift
        (ex.gates plan source candidate state.splitManifest state.syntheticDatasetReport)
      Effect.modify fun state => { state with validationGatesReport := some report }
      pure report
    | _, _ => Effect.raise (applyRuntimeError "validation_inputs_missing"
        "Candidate validation requires source and candidate artifacts.")

def finishRemediation : Run F RemediationExecutionReport := do
  let state ← Effect.get
  match state.primaryCandidateArtifact with
  | none => Effect.raise (applyRuntimeError "action_plan_produced_no_candidate_artifact"
      "APPLY ActionPlan did not produce a candidate dataset artifact.")
  | some candidate =>
    let gates ← runValidationGates ex plan
    let report : RemediationExecutionReport :=
      { actionPlanId := plan.actionPlanId
        stepCount := plan.steps.length
        steps := plan.steps.map ActionPlanStep.stepId
        primaryCandidateArtifact := candidate
        validationGatesReport := gates }
    Effect.modify fun state => { state with remediationReportArtifact := some report }
    pure report

def executeRemediationPlan : Run F RemediationExecutionReport := do
  let state ← Effect.get
  match state.remediationReportArtifact with
  | some report => pure report
  | none =>
    let source ← resolveSourceArtifact ex
    let _ ← executeSteps ex plan plan.steps source
    finishRemediation ex plan

end Plan

end DataForge.Orchestration.Remediation
