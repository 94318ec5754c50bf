import DataForge.Adapters.ObjectStorage
import DataForge.Foundation.Selection
import DataForge.Kernel.ActionPlanPreview
import DataForge.Kernel.Idempotency
import DataForge.Orchestration.Contexts

namespace DataForge.Orchestration.ApplySource

open DataForge.Foundation.Strings
open DataForge.Foundation.Sha256
open DataForge.Foundation.Outcome
open DataForge.Foundation.Dictionary
open DataForge.Foundation.Selection
open DataForge.Domain.Common
open DataForge.Domain.Artifact
open DataForge.Domain.Decision
open DataForge.Adapters.ObjectStorage
open DataForge.Kernel.ActionPlanPreview
open DataForge.Kernel.Idempotency
open DataForge.Orchestration.Contexts

def applyRuntimeError (reasonCode message : String)
    (code : ErrorCode := .actionPlanPreconditionFailed) : Raised :=
  .reasoned "ApplyRuntimeError" reasonCode code none message

def requirePlan (ctx : ApplyRunContext) : Result ActionPlan :=
  match ctx.actionPlan with
  | some plan => .ok plan
  | none => .error (applyRuntimeError "action_plan_missing"
      "APPLY requires the approved ActionPlan in ApplyRunContext.")

def planInputUris (plan : ActionPlan) : List S3Uri :=
  plan.steps.flatMap ActionPlanStep.inputArtifacts

def namedByPlan (plan : ActionPlan) (ref : ArtifactRef) : Bool :=
  decide (ref.uri ∈ planInputUris plan)

def rawKind (ref : ArtifactRef) : Bool :=
  ref.kind.1 == "raw_transactions".toList || ref.kind.1 == "raw_dataset_archive".toList ||
    "raw_".toList.isPrefixOf ref.kind.1

def selectSourceRef (refs : List ArtifactRef) (plan : ActionPlan) : Result ArtifactRef :=
  match refs.find? (namedByPlan plan) with
  | some ref => .ok ref
  | none =>
    match refs.find? rawKind with
    | some ref => .ok ref
    | none =>
      match refs with
      | ref :: _ => .ok ref
      | [] => .error (.plain "IndexError" "tuple index out of range")

section Resolve

variable (p : Platform) (clock : Clock) (storage : MinioObjectStorageAdapter)

def artifactRefFromStorage (uri : Text) (ctx : ApplyRunContext) (run : RunContext) :
    Effect Raised S3Objects ArtifactRef := do
  let info ← storage.head p clock uri
  let kind := (get? "artifact-kind".toList info.metadata).getD "raw_transactions".toList
  Effect.lift (ArtifactFields.validate
    { artifactId := MinioObjectStorageAdapter.artifactId kind info.hash.1
      kind := kind
      uri := info.uri.1
      hash := info.hash.1
      mediaType := info.contentType.1
      sizeBytes := info.sizeBytes
      schemaVersion := (get? "schema-version".toList info.metadata).getD "tabular_dataset.v1".toList
      parentVersionId := (get? "dataset-version-id".toList info.metadata).getD
        ctx.sourceDatasetVersionId
      jobId := (get? "created-by-job-id".toList info.metadata).getD run.computeRunId
      configHash := (get? "config-hash".toList info.metadata).getD ctx.configHash
      createdAt := info.updatedAt })

/-- The ref that the run names as its source, before it is read. -/
def nameSource (ctx : ApplyRunContext) (run : RunContext) :
    Effect Raised S3Objects ArtifactRef := do
  let plan ← Effect.lift (requirePlan ctx)
  match ctx.inputArtifacts, (planInputUris plan).head? with
  | ref :: refs, _ => Effect.lift (selectSourceRef (ref :: refs) plan)
  | [], some uri => artifactRefFromStorage p clock storage uri.1 ctx run
  | [], none => Effect.raise (applyRuntimeError "source_artifact_required"
      "APPLY requires an immutable source ArtifactRef or readable input URI.")

def unreadableSource : Raised → Raised
  | .coded "ObjectStorageError" code _ => applyRuntimeError "source_artifact_unreadable"
      "APPLY source artifact could not be read from object storage." code
  | e => e

/-- The source of a run whose state has none yet, with the bytes it reads as. -/
def resolveSourceArtifact (ctx : ApplyRunContext) (run : RunContext) :
    Effect Raised S3Objects (ArtifactRef × StoredObject) := do
  let source ← nameSource p clock storage ctx run
  let stored ← Effect.tryCatch (storage.get p clock source.uri.1) fun e =>
    Effect.raise (unreadableSource e)
  pure (source, stored)

end Resolve

section Selection

/-- The three tiers of `_select_source_ref`. -/
def sourceTiers (plan : ActionPlan) : List (ArtifactRef → Bool) :=
  [namedByPlan plan, rawKind, fun _ => true]

/-- The refs of the first tier that holds any: those the plan names, those of a raw
kind, or all. -/
def sourceCandidates (plan : ActionPlan) (refs : List ArtifactRef) : List ArtifactRef :=
  if refs.any (namedByPlan plan) then refs.filter (namedByPlan plan)
  else if refs.any rawKind then refs.filter rawKind else refs

theorem candidates_sourceTiers (plan : ActionPlan) (refs : List ArtifactRef) :
    candidates (sourceTiers plan) refs = sourceCandidates plan refs := by
  have hall : candidates [fun _ => true] refs = refs := by
    cases refs with
    | nil => rfl
    | cons ref refs => simp [candidates]
  rw [sourceTiers, candidates, candidates, hall, sourceCandidates]

theorem selectSourceRef_eq_select (plan : ActionPlan) (refs : List ArtifactRef) :
    selectSourceRef refs plan = match select (sourceTiers plan) refs with
      | some ref => .ok ref
      | none => .error (.plain "IndexError" "tuple index out of range") := by
  unfold selectSourceRef
  rw [select, sourceTiers, List.findSome?_cons]
  cases refs.find? (namedByPlan plan) with
  | some ref => rfl
  | none =>
    dsimp only
    rw [List.findSome?_cons]
    cases refs.find? rawKind with
    | some ref => rfl
    | none => cases refs <;> rfl

theorem selectSourceRef_eq_iff (plan : ActionPlan) (refs refs' : List ArtifactRef) :
    selectSourceRef refs' plan = selectSourceRef refs plan ↔
      select (sourceTiers plan) refs' = select (sourceTiers plan) refs := by
  rw [selectSourceRef_eq_select, selectSourceRef_eq_select]
  constructor
  · cases select (sourceTiers plan) refs' <;> cases select (sourceTiers plan) refs <;> simp
  · intro h
    rw [h]

/-- Two runs of a plan take the same source: they select the same ref, and what
they go on to read is the same. -/
def SameSource (plan : ActionPlan) (refs refs' : List ArtifactRef) : Prop :=
  selectSourceRef refs' plan = selectSourceRef refs plan ∧
    ∀ (p : Platform) (clock : Clock) (storage : MinioObjectStorageAdapter) (ctx : ApplyRunContext)
        (run : RunContext),
      resolveSourceArtifact p clock storage (ctx.onInputs plan refs') run =
        resolveSourceArtifact p clock storage (ctx.onInputs plan refs) run

theorem sameSource_iff {plan : ActionPlan} {refs refs' : List ArtifactRef} (h : refs'.Perm refs) :
    SameSource plan refs refs' ↔ selectSourceRef refs' plan = selectSourceRef refs plan := by
  refine ⟨And.left, fun hselect => ⟨hselect, fun p clock storage ctx run => ?_⟩⟩
  have hname : nameSource p clock storage (ctx.onInputs plan refs') run =
      nameSource p clock storage (ctx.onInputs plan refs) run := by
    cases refs with
    | nil => rw [h.eq_nil]
    | cons ref refs =>
      cases refs' with
      | nil => exact absurd h.symm.eq_nil (by simp)
      | cons ref' refs' =>
        simp only [nameSource, ApplyRunContext.onInputs, requirePlan, Effect.lift_ok_bind, hselect]
  rw [resolveSourceArtifact, hname, ← resolveSourceArtifact]

/-- The order of the input refs does not matter exactly when the first tier that
holds any ref holds copies of one. -/
theorem sameSource_perm_iff (plan : ActionPlan) (refs : List ArtifactRef) :
    (∀ refs' : List ArtifactRef, refs'.Perm refs → SameSource plan refs refs') ↔
      ∀ a ∈ sourceCandidates plan refs, ∀ b ∈ sourceCandidates plan refs, a = b := by
  rw [← candidates_sourceTiers, ← select_perm_iff]
  refine forall_congr' fun refs' => ⟨fun h hperm => ?_, fun h hperm => ?_⟩
  · exact (selectSourceRef_eq_iff plan refs refs').mp (h hperm).1
  · exact (sameSource_iff hperm).mpr ((selectSourceRef_eq_iff plan refs refs').mpr (h hperm))

section Swapped

def transactionsRef (uri : S3Uri) (hash : Sha256Digest) : ArtifactRef where
  artifactId := literal "raw_transactions:0"
  kind := literal "raw_transactions"
  uri := uri
  hash := hash
  mediaType := literal "text/csv"
  sizeBytes := 10
  schemaVersion := literal "tabular_dataset.v1"
  lineage := ⟨literal "v1", literal "job", zeroDigest, ⟨0, some 0⟩⟩

def january : ArtifactRef := transactionsRef ⟨"s3://b/january.csv".toList, by decide⟩ zeroDigest

def february : ArtifactRef :=
  transactionsRef ⟨"s3://b/february.csv".toList, by decide⟩
    ⟨"sha256:".toList ++ List.replicate 64 '1', by decide⟩

def imputeStep : ActionPlanStep where
  stepId := literal "impute"
  type := literal "IMPUTE_MISSING_VALUES"
  dependsOn := []
  idempotencyKey := stepIdempotencyKey zeroDigest [] (literal "impute")
  methodId := literal "median"
  pluginId := literal "dataforge.tabular"
  pluginVersion := literal "0.1.0"
  configHash := zeroDigest
  policyVersion := literal "method_policy_v0"
  validationGates := []
  preconditions := []
  inputArtifacts := [january.uri, february.uri]
  outputArtifactKind := literal "CANDIDATE_DATASET_VERSION"
  config := []
  randomSeed := none
  retryPolicy := ⟨⟨1, one_attempt⟩, []⟩
  onFailure := literal "fail_plan_keep_artifacts_unpromoted"
  promotionScope := literal "candidate_only"

def imputePlan : ActionPlan where
  actionPlanId := literal "plan"
  planSchemaVersion := literal "action_plan.v1"
  sourceDatasetVersionId := literal "v1"
  targetVersionName := literal "v2"
  createdFromDecisionReport := literal "report"
  selectedDecisionIds := []
  createdByUserId := literal "user"
  policyVersion := literal "method_policy_v0"
  requiresApproval := false
  approvalRequestId := none
  executionMode := .previewActionPlan
  steps := [imputeStep]
  validationGates := []
  expectedOutputs := []
  createdAt := ⟨0, some 0⟩
  uniqueStepIds := List.nodup_singleton _
  dependenciesExist := by
    rintro step hstep d hd
    obtain rfl := List.mem_singleton.mp hstep
    cases hd

/-- A plan that names two inputs reads the one that comes first, under one job key. -/
theorem selectSourceRef_swapped :
    [february, january].Perm [january, february] ∧
      collectArtifactHashes [february, january] = collectArtifactHashes [january, february] ∧
      selectSourceRef [january, february] imputePlan = .ok january ∧
      selectSourceRef [february, january] imputePlan = .ok february ∧
      january.hash ≠ february.hash :=
  have hperm : [february, january].Perm [january, february] := .swap _ _ _
  ⟨hperm, collectArtifactHashes_perm hperm, rfl, rfl, by decide⟩

end Swapped

end Selection

end DataForge.Orchestration.ApplySource
