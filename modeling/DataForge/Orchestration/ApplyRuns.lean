import DataForge.Foundation.Runs
import DataForge.Orchestration.StatusBridge
import DataForge.Orchestration.Workflows

namespace DataForge.Orchestration.ApplyRuns

open DataForge.Foundation.Strings
open DataForge.Foundation.Outcome
open DataForge.Foundation.Runs
open DataForge.Domain.Common
open DataForge.Domain.Artifact
open DataForge.Domain.Compute
open DataForge.Orchestration.Cancellation
open DataForge.Orchestration.StatusBridge
open DataForge.Orchestration.Workflows (ActionPlanExecuteApprovedRequest Raised.text)

section Assets

inductive ApplyAsset where
  | actionPlan
  | remediationExecutionReport
  | preparedDataset
  | syntheticDataset
  | modelImpactReport
  | exportPackage
deriving DecidableEq

namespace ApplyAsset

def all : List ApplyAsset :=
  [.actionPlan, .remediationExecutionReport, .preparedDataset, .syntheticDataset,
    .modelImpactReport, .exportPackage]

def deps : ApplyAsset → List ApplyAsset
  | .actionPlan => []
  | .remediationExecutionReport => [.actionPlan]
  | .preparedDataset => [.remediationExecutionReport]
  | .syntheticDataset => [.preparedDataset]
  | .modelImpactReport => [.preparedDataset, .syntheticDataset]
  | .exportPackage => [.modelImpactReport]

def stage : ApplyAsset → JobStage × Nat
  | .actionPlan => (.runningDecisionCore, 30)
  | .remediationExecutionReport => (.runningDecisionCore, 50)
  | .preparedDataset => (.runningDecisionCore, 65)
  | .syntheticDataset => (.runningDecisionCore, 75)
  | .modelImpactReport => (.runningDecisionCore, 90)
  | .exportPackage => (.completed, 100)

theorem mem_all (a : ApplyAsset) : a ∈ all := by cases a <;> decide

end ApplyAsset

/-- What the assets of a run build on its storage. Each body returns the refs of its
event; those of the export package are read from what it has left. -/
structure ApplyAssets (σ : Type) where
  body : ApplyAsset → Effect Raised σ (List ArtifactRef)
  finalCandidateRef : σ → Option ArtifactRef
  finalExportRef : σ → Option ArtifactRef
  gatesReportRef : σ → Option ArtifactRef

variable {σ : Type}

def ApplyAssets.promotedRefs (assets : ApplyAssets σ) (store : σ) : List ArtifactRef :=
  (assets.finalCandidateRef store).toList ++ (assets.finalExportRef store).toList

def ApplyAssets.eventRefs (assets : ApplyAssets σ) (a : ApplyAsset) (refs : List ArtifactRef)
    (store : σ) : List ArtifactRef :=
  if a = .exportPackage then assets.promotedRefs store ++ (assets.gatesReportRef store).toList
  else refs

def emitAndResult (jobId : NonEmptyStr) (a : ApplyAsset) (artifactRefs : List ArtifactRef) :
    JobEvent :=
  if a.stage.1 = .completed then emitCompleted jobId artifactRefs
  else emitStage jobId a.stage.1 a.stage.2 artifactRefs

theorem status_emitAndResult (jobId : NonEmptyStr) (a : ApplyAsset) (refs : List ArtifactRef) :
    (emitAndResult jobId a refs).status = if a = .exportPackage then .completed else .running := by
  cases a <;> rfl

end Assets

section System

inductive AssetStatus where
  | materialized
  | failed
  | skipped
deriving DecidableEq

inductive Phase where
  | start
  | admitted
  | materializing
  | checked
  | returned
  | raised
deriving DecidableEq

structure RunState (σ : Type) where
  phase : Phase
  token : CancellationToken
  settled : ApplyAsset → Option AssetStatus
  events : List JobEvent
  store : σ

/-- What can happen next: someone cancels the job, the launcher goes on to its next look
at the run, an asset settles, or the materialization raises. -/
inductive Action where
  | trigger (reasonCode : Text)
  | launch
  | settle (a : ApplyAsset)
  | crash (e : Raised)

variable {σ : Type}

namespace RunState

variable (s : RunState σ)

def record (e : JobEvent) (phase : Phase) : RunState σ :=
  { s with phase := phase, events := s.events ++ [e] }

/-- The materialization is over. -/
def AllSettled : Prop := ∀ a ∈ ApplyAsset.all, s.settled a ≠ none

/-- `result.success` -/
def Success : Prop := ∀ a ∈ ApplyAsset.all, s.settled a = some .materialized

instance : Decidable s.AllSettled := inferInstanceAs (Decidable (∀ _ ∈ _, _))

instance : Decidable s.Success := inferInstanceAs (Decidable (∀ _ ∈ _, _))

/-- An asset runs after those it depends on. -/
def Enabled (a : ApplyAsset) : Prop :=
  s.phase = .materializing ∧ s.settled a = none ∧ ∀ d ∈ a.deps, s.settled d ≠ none

instance (a : ApplyAsset) : Decidable (s.Enabled a) := inferInstanceAs (Decidable (_ ∧ _ ∧ _))

def settle (a : ApplyAsset) (status : AssetStatus) : RunState σ :=
  { s with settled := Function.update s.settled a (some status) }

variable {s} {a b : ApplyAsset} {status : AssetStatus}

@[simp] theorem settled_settle_self : (s.settle a status).settled a = some status := by
  simp [settle]

theorem settled_settle_of_ne (h : b ≠ a) : (s.settle a status).settled b = s.settled b := by
  simp [settle, h]

end RunState

variable (p : Platform) (request : ActionPlanExecuteApprovedRequest) (assets : ApplyAssets σ)

/-- The launcher between two of its looks at the run. -/
def launch (s : RunState σ) : RunState σ :=
  match s.phase with
  | .start =>
    if request.approvalMetadata.isSome = false then { s with phase := .raised }
    else if s.token.cancelled then s.record (emitCancelled request.platformJobId 0) .raised
    else { s with phase := .admitted }
  | .admitted => s.record (emitStarted request.platformJobId .queued 0) .materializing
  | .materializing =>
    if ¬ s.AllSettled then s
    else if s.token.cancelled then s.record (emitCancelled request.platformJobId 50) .raised
    else { s with phase := .checked }
  | .checked =>
    if s.Success then { s with phase := .returned }
    else s.record (emitFailed request.platformJobId 0 .internalError) .raised
  | .returned | .raised => s

/-- An asset whose dependency failed is skipped; one that fails records no event. -/
def settleAsset (a : ApplyAsset) (s : RunState σ) : RunState σ :=
  if ∀ d ∈ a.deps, s.settled d = some .materialized then
    match (assets.body a).run s.store with
    | (.error _, store) => { s.settle a .failed with store := store }
    | (.ok refs, store) =>
      let e := emitAndResult request.platformJobId a (assets.eventRefs a refs store)
      { s.settle a .materialized with events := s.events ++ [e], store := store }
  else s.settle a .skipped

def step (s : RunState σ) : Action → RunState σ
  | .trigger reasonCode => { s with token := s.token.cancel reasonCode }
  | .launch => launch request s
  | .settle a => if s.Enabled a then settleAsset request assets a s else s
  | .crash e =>
    if s.phase = .materializing then
      s.record (emitFailed request.platformJobId 0 (classifyFailure p (Raised.text e))) .raised
    else s

def perform (action : Action) : Effect Empty (RunState σ) Unit :=
  fun s => (.ok (), step p request assets s action)

/-- A run before the launcher's first look. -/
def initial (token : CancellationToken) (store : σ) : RunState σ :=
  ⟨.start, token, fun _ => none, [], store⟩

end System

end DataForge.Orchestration.ApplyRuns
