import DataForge.Orchestration.RemediationSteps
import DataForge.Plugins.Tabular.SmoteIds

namespace DataForge.Orchestration.SmoteRuns

open DataForge.Foundation.Strings
open DataForge.Foundation.Outcome
open DataForge.Foundation.Json
open DataForge.Foundation.Features
open DataForge.Foundation.Tables
open DataForge.Domain.Common
open DataForge.Domain.Decision
open DataForge.Domain.Splits
open DataForge.Kernel.ActionPlanPreview
open DataForge.Orchestration.Remediation
open DataForge.Orchestration.RemediationSteps
open DataForge.Plugins.Tabular.Sources
open DataForge.Plugins.Tabular.Splits
open DataForge.Plugins.Tabular.SplitCreation
open DataForge.Plugins.Tabular.SyntheticCommon
open DataForge.Plugins.Tabular.SyntheticSmote
open DataForge.Plugins.Tabular.SmoteIds

variable {F : Type} [FeatureLike F] {env : Surroundings F} {plan : ActionPlan}

section Manifest

theorem assignmentIds_createSplit {t : Table} {manifest : SplitManifest}
    (h : createSplitForApply (F := F) env.shuffle env.writer plan t = .ok manifest) :
    assignmentIds manifest = idsOf t := by
  rw [createSplitForApply] at h
  obtain ⟨-, h⟩ := check_bind_eq_ok.mp h
  obtain ⟨-, -, h⟩ := bind_eq_ok.mp h
  obtain ⟨groupKey, -, h⟩ := bind_eq_ok.mp h
  obtain ⟨-, -, splitOf, hassign⟩ := createSplit_spec h
  have hids := congrArg (List.map fun placed => placed.1.1) hassign
  rw [List.map_map, List.map_map] at hids
  rw [idsOf, identifiedRows, List.map_map]
  refine Eq.trans hids (List.map_congr_left fun item _ => ?_)
  simp only [Function.comp_apply, placed, objectId_identify]

theorem manifestFor_eq_ok {t : Table} {split : Option SplitManifest} {manifest : SplitManifest}
    (h : manifestFor (executors env) plan t split = .ok manifest) :
    split = some manifest ∨
      split = none ∧ createSplitForApply (F := F) env.shuffle env.writer plan t = .ok manifest := by
  cases split with
  | some found => exact .inl (congrArg some (Except.ok.inj h))
  | none => exact .inr ⟨rfl, h⟩

end Manifest

section Steps

/-- A step adds no id that its input already has. -/
def Fresh (env : Surroundings F) (plan : ActionPlan) (step : ActionPlanStep) (t : Table)
    (s : ApplyExecutionState F) : Prop :=
  ∀ (manifest : SplitManifest) (request : ExecuteSmoteAugmentationRequest F),
    manifestFor (executors env) plan t s.splitManifest = .ok manifest →
      smoteRequest plan step manifest = .ok request →
        ∀ k < generatedCount request (identifiedRows t.records), syntheticId k ∉ idsOf t

/-- Every step of a run is fresh in the state that it starts from. -/
def AllFresh (env : Surroundings F) (plan : ActionPlan) :
    List ActionPlanStep → Table → ApplyExecutionState F → Prop
  | [], _, _ => True
  | step :: steps, t, s => Fresh env plan step t s ∧
      ∀ candidate s', (executeStep (executors env) plan step t).run s = (.ok candidate, s') →
        AllFresh env plan steps candidate { s' with primaryCandidateArtifact := some candidate }

theorem splitManifest_smoteRequest {step : ActionPlanStep} {manifest : SplitManifest}
    {request : ExecuteSmoteAugmentationRequest F}
    (h : smoteRequest plan step manifest = .ok request) : request.splitManifest = manifest := by
  obtain ⟨_, -, h⟩ := bind_eq_ok.mp h
  obtain ⟨_, -, h⟩ := bind_eq_ok.mp h
  exact (Except.ok.inj h) ▸ rfl

/-- What a SMOTE step of the runtime went through. -/
theorem augments_of_run {step : ActionPlanStep} {t candidate : Table} {s s' : ApplyExecutionState F}
    (h : (executeSmoteStep (executors env) plan step t).run s = (.ok candidate, s')) :
    ∃ (manifest : SplitManifest) (request : ExecuteSmoteAugmentationRequest F)
        (result : ExecuteSmoteAugmentationResult F) (syntheticRows : List Row),
      manifestFor (executors env) plan t s.splitManifest = .ok manifest ∧
      smoteRequest plan step manifest = .ok request ∧ request.splitManifest = manifest ∧
      Augments request t result syntheticRows ∧ candidate = result.candidate ∧
      s'.splitManifest = some result.augmentedSplitManifest := by
  obtain ⟨e, split, -, hrun⟩ | ⟨result, houtcome, hrun⟩ :=
    @executeSmoteStep_run _ (executors env) plan step t s
  · obtain ⟨herror, -⟩ := Prod.mk.inj (hrun.symm.trans h)
    cases herror
  · obtain ⟨hcandidate, rfl⟩ := Prod.mk.inj (hrun.symm.trans h)
    obtain ⟨manifest, hmanifest, hsmote⟩ := bind_eq_ok.mp houtcome
    obtain ⟨request, hrequest, hresult⟩ := bind_eq_ok.mp hsmote
    obtain ⟨syntheticRows, haugments⟩ := exists_augments hresult
    exact ⟨manifest, request, result, syntheticRows, hmanifest, hrequest,
      splitManifest_smoteRequest hrequest, haugments, (Except.ok.inj hcandidate).symm, rfl⟩

end Steps

section Runs

/-- The manifest of a state, where it has one, names no id twice. -/
def ManifestDistinct (s : ApplyExecutionState F) : Prop :=
  ∀ manifest, s.splitManifest = some manifest → (assignmentIds manifest).Nodup

/-- A step keeps ids distinct exactly when they were and it is fresh. -/
theorem step_distinct {step : ActionPlanStep} (hsmote : isSmoteStep step) {t candidate : Table}
    {s s' : ApplyExecutionState F} (hid : objectIdColumn ∈ t.columns)
    (h : (executeStep (executors env) plan step t).run s = (.ok candidate, s')) :
    objectIdColumn ∈ candidate.columns ∧
      candidate.records.map (cell objectIdColumn) = idsOf candidate ∧
      ((idsOf candidate).Nodup ↔ (idsOf t).Nodup ∧ Fresh env plan step t s) ∧
      (ManifestDistinct s → (idsOf candidate).Nodup → ManifestDistinct s') := by
  rw [executeStep_smote hsmote] at h
  obtain ⟨manifest, request, result, syntheticRows, hmanifest, hrequest, hsplit, haugments, rfl,
    hstate⟩ := augments_of_run h
  have hfresh : Fresh env plan step t s ↔
      ∀ k < generatedCount request (identifiedRows t.records), syntheticId k ∉ idsOf t := by
    constructor
    · intro hfresh
      exact hfresh manifest request hmanifest hrequest
    · intro hfresh manifest' request' hmanifest' hrequest'
      rw [← Except.ok.inj (hmanifest.symm.trans hmanifest')] at hrequest'
      rwa [← Except.ok.inj (hrequest.symm.trans hrequest')]
  refine ⟨objectId_mem_candidate haugments hid, ?_, ?_, ?_⟩
  · rw [records_candidate haugments hid, idsOf_candidate haugments hid]
  · rw [nodup_candidate haugments hid, hfresh]
  · intro hdistinct hnodup found hfound
    rw [hstate] at hfound
    rw [← Option.some.inj hfound]
    refine nodup_manifest haugments hid hnodup ?_
    rw [hsplit]
    obtain hown | ⟨-, hcreated⟩ := manifestFor_eq_ok hmanifest
    · exact hdistinct manifest hown
    · rw [assignmentIds_createSplit hcreated]
      exact ((nodup_candidate haugments hid).mp hnodup).1

theorem steps_distinct {steps : List ActionPlanStep} (hsmote : ∀ step ∈ steps, isSmoteStep step)
    {t candidate : Table} {s s' : ApplyExecutionState F} (hid : objectIdColumn ∈ t.columns)
    (h : (executeSteps (executors env) plan steps t).run s = (.ok candidate, s')) :
    ((idsOf candidate).Nodup ↔ (idsOf t).Nodup ∧ AllFresh env plan steps t s) ∧
      (ManifestDistinct s → (idsOf candidate).Nodup → ManifestDistinct s') ∧
      (steps ≠ [] → candidate.records.map (cell objectIdColumn) = idsOf candidate) := by
  induction steps generalizing t s with
  | nil =>
    obtain ⟨hcandidate, rfl⟩ := Prod.mk.inj h
    obtain rfl := Except.ok.inj hcandidate
    refine ⟨?_, fun hdistinct _ => hdistinct, fun hne => absurd rfl hne⟩
    rw [AllFresh, and_true]
  | cons step steps ih =>
    obtain ⟨next, s₁, hstep, h⟩ := Effect.run_bind_eq_ok.mp h
    obtain ⟨_, s₂, hmodify, h⟩ := Effect.run_bind_eq_ok.mp h
    obtain ⟨-, rfl⟩ := Prod.mk.inj hmodify
    obtain ⟨hid', hcells, hnext, hmanifest⟩ :=
      step_distinct (hsmote step List.mem_cons_self) hid hstep
    obtain ⟨hrest, hrestManifest, hrestCells⟩ :=
      ih (fun other hother => hsmote other (List.mem_cons_of_mem step hother)) hid' h
    have hall : AllFresh env plan (step :: steps) t s ↔ Fresh env plan step t s ∧
        AllFresh env plan steps next { s₁ with primaryCandidateArtifact := some next } := by
      rw [AllFresh]
      refine and_congr_right fun _ =>
        ⟨fun hall => hall next s₁ hstep, fun hall found s₃ hfound => ?_⟩
      obtain ⟨hsame, rfl⟩ := Prod.mk.inj (hstep.symm.trans hfound)
      rwa [← Except.ok.inj hsame]
    refine ⟨?_, ?_, ?_⟩
    · rw [hrest, hnext, hall, and_assoc]
    · intro hdistinct hnodup
      exact hrestManifest (hmanifest hdistinct (hrest.mp hnodup).1) hnodup
    · intro _
      by_cases hsteps : steps = []
      · subst hsteps
        obtain ⟨hcandidate, -⟩ := Prod.mk.inj h
        rwa [← Except.ok.inj hcandidate]
      · exact hrestCells hsteps

/-- In a run of SMOTE steps the ids of the candidate and of the manifest stay distinct
exactly when the source's are and no step adds an id that is there already: every step
numbers its samples from zero. -/
theorem smote_ids_distinct_iff (hsmote : ∀ step ∈ plan.steps, isSmoteStep step)
    (hne : plan.steps ≠ [])
    {source candidate : Table} {state : ApplyExecutionState F}
    (hid : objectIdColumn ∈ source.columns)
    (hrun : (executeSteps (executors env) plan plan.steps source).run .fresh =
      (.ok candidate, state)) :
    (candidate.records.map (cell objectIdColumn)).Nodup ∧ ManifestDistinct state ↔
      (idsOf source).Nodup ∧ AllFresh env plan plan.steps source .fresh := by
  obtain ⟨hnodup, hmanifest, hcells⟩ := steps_distinct hsmote hid hrun
  rw [hcells hne, ← hnodup]
  constructor
  · intro hdistinct
    exact hdistinct.1
  · intro hdistinct
    refine ⟨hdistinct, hmanifest (fun manifest hnone => ?_) hdistinct⟩
    cases hnone

end Runs

section Example

def smoteStep : ActionPlanStep where
  stepId := literal "augment"
  type := literal "AUGMENT_RARE_CLASS"
  dependsOn := []
  idempotencyKey := stepIdempotencyKey (sha256Digest .empty) [] (literal "augment")
  methodId := literal "smote"
  pluginId := literal "dataforge.tabular"
  pluginVersion := literal "0.1.0"
  configHash := sha256Digest .empty
  policyVersion := literal "synthetic_policy_v0"
  validationGates := []
  preconditions := []
  inputArtifacts := []
  outputArtifactKind := literal "candidate_tabular_dataset"
  config := [("sampling_strategy".toList, natValue 1)]
  randomSeed := none
  retryPolicy := ⟨⟨1, one_attempt⟩, []⟩
  onFailure := literal "fail_plan_keep_artifacts_unpromoted"
  promotionScope := literal "candidate_only"

def smotePlan : ActionPlan where
  actionPlanId := literal "plan"
  planSchemaVersion := literal "action_plan.v1"
  sourceDatasetVersionId := literal "source"
  targetVersionName := literal "candidate"
  createdFromDecisionReport := literal "report"
  selectedDecisionIds := []
  createdByUserId := literal "user"
  policyVersion := literal "policy_v0"
  requiresApproval := false
  approvalRequestId := none
  executionMode := .previewActionPlan
  steps := [smoteStep]
  validationGates := []
  expectedOutputs := []
  createdAt := ⟨0, some 0⟩
  uniqueStepIds := by decide
  dependenciesExist := by decide

/-- Surroundings whose generator draws zeros. -/
def zeroSurroundings : Surroundings ℚ where
  source := .error (.plain "KeyError" "source")
  gen :=
    { State := Unit
      seeded := fun _ => ()
      randrange := fun _ s => (0, s)
      random := fun s => (0, s)
      randrange_lt := fun _ _ h => h }
  shuffle _ := ⟨id, fun _ => List.Perm.refl _⟩
  writer _ := .empty
  impute _ _ t := .ok t
  gates _ _ _ _ _ := .error (.plain "KeyError" "gates")

/-- Five transactions of one customer, two of them fraudulent. -/
def transactions (firstId : String) : Table where
  header := ["object_id", "customer_id_hash", "amount", "is_fraud"].map String.toList
  lines := [[firstId, "c", "10", "1"], ["t1", "c", "20", "1"], ["t2", "c", "30", "0"],
    ["t3", "c", "40", "0"], ["t4", "c", "50", "0"]].map fun line => line.map String.toList

def smoteRun (firstId : String) : Result Table × ApplyExecutionState ℚ :=
  (executeSteps (executors zeroSurroundings) smotePlan smotePlan.steps
    (transactions firstId)).run .fresh

def candidateIds (firstId : String) : Option (List Text) :=
  (smoteRun firstId).1.toOption.map fun candidate => candidate.records.map (cell objectIdColumn)

theorem exists_of_candidateIds {firstId : String} {ids : List Text}
    (h : candidateIds firstId = some ids) :
    ∃ candidate state, smoteRun firstId = (.ok candidate, state) ∧
      candidate.records.map (cell objectIdColumn) = ids := by
  cases hrun : smoteRun firstId with
  | mk outcome state =>
    rw [candidateIds, hrun] at h
    cases outcome with
    | error e => cases h
    | ok candidate => exact ⟨candidate, state, rfl, Option.some.inj h⟩

theorem transactions_ids_distinct :
    ∃ candidate state, smoteRun "t0" = (.ok candidate, state) ∧
      ((candidate.records.map (cell objectIdColumn)).Nodup ∧ ManifestDistinct state ↔
        (idsOf (transactions "t0")).Nodup ∧
          AllFresh zeroSurroundings smotePlan smotePlan.steps (transactions "t0") .fresh) := by
  have hids : candidateIds "t0" =
      some (["t0", "t1", "t2", "t3", "t4", "txn_synth_000000"].map String.toList) := by
    decide +kernel
  obtain ⟨candidate, state, hrun, -⟩ := exists_of_candidateIds hids
  have hsmote : ∀ step ∈ smotePlan.steps, isSmoteStep step := by decide
  exact ⟨candidate, state, hrun, smote_ids_distinct_iff hsmote (by decide) (by decide) hrun⟩

/-- A source that has a sample of an earlier run gets its id a second time. -/
theorem transactions_ids_repeated :
    ¬ ∀ (env : Surroundings ℚ) (plan : ActionPlan) (source candidate : Table)
        (state : ApplyExecutionState ℚ),
      (∀ step ∈ plan.steps, isSmoteStep step) → plan.steps ≠ [] → objectIdColumn ∈ source.columns →
      (∀ row ∈ source.records, cell objectIdColumn row ≠ []) →
      (source.records.map (cell objectIdColumn)).Nodup →
      (executeSteps (executors env) plan plan.steps source).run .fresh = (.ok candidate, state) →
      (candidate.records.map (cell objectIdColumn)).Nodup ∧ ManifestDistinct state := by
  intro h
  have hids : candidateIds "txn_synth_000000" = some
      (["txn_synth_000000", "t1", "t2", "t3", "t4", "txn_synth_000000"].map String.toList) := by
    decide +kernel
  obtain ⟨candidate, state, hrun, hcells⟩ := exists_of_candidateIds hids
  have hsmote : ∀ step ∈ smotePlan.steps, isSmoteStep step := by decide
  obtain ⟨hnodup, -⟩ :=
    h zeroSurroundings smotePlan (transactions "txn_synth_000000") candidate state
    hsmote (by decide) (by decide) (by decide +kernel) (by decide +kernel) hrun
  rw [hcells] at hnodup
  exact absurd hnodup (by decide)

end Example

end DataForge.Orchestration.SmoteRuns
