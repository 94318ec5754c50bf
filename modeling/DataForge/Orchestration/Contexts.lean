import DataForge.Domain.CandidateVersion
import DataForge.Domain.Decision

namespace DataForge.Orchestration.Contexts

open DataForge.Foundation.Strings
open DataForge.Domain.Artifact
open DataForge.Domain.Decision
open DataForge.Domain.CandidateVersion

/-- A dataclass: its fields are not validated. -/
structure RunContext where
  computeRunId : Text
  platformJobId : Text
  organizationId : Text
  projectId : Text
  datasetId : Text
  datasetVersionId : Text

/-- The frozen part of an APPLY run's context. -/
structure ApplyRunContext where
  actionPlanId : Text
  decisionReportId : Text
  sourceDatasetVersionId : Text
  proposedVersionName : Text
  configHash : Text
  policyVersions : CandidatePolicyVersions
  actionPlan : Option ActionPlan
  inputArtifacts : List ArtifactRef
  syntheticStepIds : List Text
  requireModelImpactEligibility : Bool

def ApplyRunContext.onInputs (ctx : ApplyRunContext) (plan : ActionPlan) (refs : List ArtifactRef) :
    ApplyRunContext :=
  { ctx with actionPlan := some plan, inputArtifacts := refs }

end DataForge.Orchestration.Contexts
