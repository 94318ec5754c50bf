import DataForge.Domain.Artifact
import DataForge.Domain.Decision

namespace DataForge.Api.Store

open DataForge.Foundation.Strings
open DataForge.Foundation.Dictionary
open DataForge.Domain.Common
open DataForge.Domain.Compute
open DataForge.Domain.Decision

/-- What the service keeps of an analyze or apply run; the fields that only an apply
run fills are absent otherwise. -/
structure JobResultRecord where
  jobId : NonEmptyStr
  workflowType : WorkflowType
  status : ComputeRunStatus
  statusUrl : Text
  expectedOutputs : List Text
  materializedAssets : List Text
  idempotencyKey : Sha256Digest
  mutatesDataset : Bool
  actionPlanId : Option NonEmptyStr
  actionPlanHash : Option Sha256Digest
  candidateArtifact : Option (Text × Text)
  syntheticArtifactUri : Option Text
  syntheticStatus : Option Text
  modelImpactArtifactUri : Option Text
  exportPackageArtifactUri : Option Text

structure ActionPlanRecord where
  actionPlan : ActionPlan
  jobId : Option NonEmptyStr
  actionPlanHash : Option Sha256Digest
  acceptedStepIds : List NonEmptyStr
  workflowType : Option WorkflowType
  statusUrl : Option Text

structure ComputeResultStore where
  jobs : Dict Text JobResultRecord
  actionPlans : Dict Text ActionPlanRecord

def ComputeResultStore.empty : ComputeResultStore := ⟨[], []⟩

namespace ComputeResultStore

variable (store : ComputeResultStore)

def recordJob (record : JobResultRecord) : ComputeResultStore :=
  { store with jobs := set record.jobId.1 record store.jobs }

def getJob (jobId : Text) : Option JobResultRecord := get? jobId store.jobs

def recordActionPlan (record : ActionPlanRecord) : ComputeResultStore :=
  { store with actionPlans := set record.actionPlan.actionPlanId.1 record store.actionPlans }

def getActionPlan (actionPlanId : Text) : Option ActionPlanRecord :=
  get? actionPlanId store.actionPlans

@[simp] theorem getJob_recordActionPlan (record : ActionPlanRecord) (jobId : Text) :
    (store.recordActionPlan record).getJob jobId = store.getJob jobId := rfl

@[simp] theorem getActionPlan_recordJob (record : JobResultRecord) (actionPlanId : Text) :
    (store.recordJob record).getActionPlan actionPlanId = store.getActionPlan actionPlanId := rfl

theorem getJob_recordJob (record : JobResultRecord) (jobId : Text) :
    (store.recordJob record).getJob jobId =
      if record.jobId.1 = jobId then some record else store.getJob jobId :=
  get?_set _ _ _ _

theorem getActionPlan_recordActionPlan (record : ActionPlanRecord) (actionPlanId : Text) :
    (store.recordActionPlan record).getActionPlan actionPlanId =
      if record.actionPlan.actionPlanId.1 = actionPlanId then some record
      else store.getActionPlan actionPlanId :=
  get?_set _ _ _ _

end ComputeResultStore

end DataForge.Api.Store
