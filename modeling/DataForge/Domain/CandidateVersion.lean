import DataForge.Domain.Artifact
import DataForge.Domain.ValidationGates

namespace DataForge.Domain.CandidateVersion

open DataForge.Foundation.Strings
open DataForge.Domain.Common
open DataForge.Domain.Artifact
open DataForge.Domain.ValidationGates

inductive CandidateVersionStatus where
  | proposed
  | reviewRequired
  | blocked
  | failed
deriving DecidableEq

def CandidateVersionStatus.value : CandidateVersionStatus → Text
  | .proposed => "proposed".toList
  | .reviewRequired => "review_required".toList
  | .blocked => "blocked".toList
  | .failed => "failed".toList

structure CandidatePolicyVersions where
  profilePolicyVersion : NonEmptyStr
  decisionPolicyVersion : NonEmptyStr
  scorePolicyVersion : NonEmptyStr
  methodPolicyVersion : NonEmptyStr
  validationGatesPolicyVersion : Option NonEmptyStr

structure CandidateDatasetVersionLineage where
  parentVersionId : NonEmptyStr
  proposedVersionName : NonEmptyStr
  actionPlanId : NonEmptyStr
  createdByJobId : NonEmptyStr
  configHash : Sha256Digest

/-- The entries of the summary; without a report it has none. -/
structure ValidationGatesSummary where
  overallStatus : ValidationGateStatus
  candidateStatus : CandidateArtifactStatus
  rawArtifactUnchanged : Bool
  blockerPresent : Bool

structure CandidateDatasetVersion where
  candidateVersionId : NonEmptyStr
  status : CandidateVersionStatus
  lineage : CandidateDatasetVersionLineage
  candidateArtifacts : List ArtifactRef
  primaryDatasetArtifact : ArtifactRef
  validationGatesReport : Option ArtifactRef
  validationGatesSummary : Option ValidationGatesSummary
  blockExport : Bool
  blockModelEvaluation : Bool
  blockTraining : Bool
  blockerReasonCodes : List NonEmptyStr
  proposedAt : Datetime

end DataForge.Domain.CandidateVersion

namespace DataForge.Domain.ExportPackage

open DataForge.Foundation.Strings
open DataForge.Domain.Common
open DataForge.Domain.Artifact

inductive GateStatus where
  | pending
  | passed
  | failed
  | notApplicable
deriving DecidableEq

inductive ExportPackageStatus where
  | ready
  | blocked
deriving DecidableEq

def ExportPackageStatus.value : ExportPackageStatus → Text
  | .ready => "READY".toList
  | .blocked => "BLOCKED".toList

inductive ModelImpactVerdict where
  | improved
  | requiresReview
  | degraded
  | rejected
deriving DecidableEq

def ModelImpactVerdict.value : ModelImpactVerdict → Text
  | .improved => "improved".toList
  | .requiresReview => "requires_review".toList
  | .degraded => "degraded".toList
  | .rejected => "rejected".toList

structure ValidationGateResult where
  name : Text
  status : GateStatus
  reasonCodes : List Text
deriving DecidableEq

structure ExportObjectCounts where
  included : Nat
  blocked : Nat
  excluded : Nat

structure ExportPackageLineage where
  parentVersionId : NonEmptyStr
  actionPlanId : NonEmptyStr
  decisionReportId : NonEmptyStr
  configHash : Sha256Digest

structure ExportPackage where
  exportPackageId : NonEmptyStr
  datasetId : NonEmptyStr
  versionId : NonEmptyStr
  sourceVersionId : NonEmptyStr
  createdByJobId : NonEmptyStr
  status : ExportPackageStatus
  artifacts : List ArtifactRef
  validationGates : List ValidationGateResult
  objectCounts : ExportObjectCounts
  blockedReasonCodes : List Text
  lineage : ExportPackageLineage
  createdAt : Datetime

end DataForge.Domain.ExportPackage
