import DataForge.Domain.Splits

namespace DataForge.Domain.ValidationGates

open DataForge.Foundation.Strings
open DataForge.Domain.Common
open DataForge.Domain.Leakage

inductive ValidationGateType where
  | schemaValidation
  | businessRules
  | privacyCheck
  | splitLeakageCheck
  | syntheticDcrCheck
  | syntheticExactDuplicateToReal
  | syntheticNearestNeighborPrivacy
  | syntheticDistributionSimilarity
  | syntheticCorrelationPreservation
  | syntheticMissingnessComparison
  | syntheticTstr
  | syntheticTrts
  | syntheticShapConsistency
  | syntheticTabsyndex
  | rawArtifactImmutability
deriving DecidableEq

def ValidationGateType.value : ValidationGateType → Text
  | .schemaValidation => "schema_validation".toList
  | .businessRules => "business_rules".toList
  | .privacyCheck => "privacy_check".toList
  | .splitLeakageCheck => "split_leakage_check".toList
  | .syntheticDcrCheck => "synthetic_dcr_check".toList
  | .syntheticExactDuplicateToReal => "synthetic_exact_duplicate_to_real".toList
  | .syntheticNearestNeighborPrivacy => "synthetic_nearest_neighbor_privacy".toList
  | .syntheticDistributionSimilarity => "synthetic_distribution_similarity".toList
  | .syntheticCorrelationPreservation => "synthetic_correlation_preservation".toList
  | .syntheticMissingnessComparison => "synthetic_missingness_comparison".toList
  | .syntheticTstr => "synthetic_tstr".toList
  | .syntheticTrts => "synthetic_trts".toList
  | .syntheticShapConsistency => "synthetic_shap_consistency".toList
  | .syntheticTabsyndex => "synthetic_tabsyndex".toList
  | .rawArtifactImmutability => "raw_artifact_immutability".toList

inductive ValidationGateStatus where
  | passed
  | failed
  | notApplicable
deriving DecidableEq

inductive ValidationGateSeverity where
  | info
  | warning
  | blocker
deriving DecidableEq

structure CandidateValidationGate where
  gateType : ValidationGateType
  status : ValidationGateStatus
  severity : ValidationGateSeverity
  reasonCode : NonEmptyStr
  blockAction : Option BlockAction
  findingsCount : Nat
  notApplicableReason : Option Text
deriving DecidableEq

inductive CandidateArtifactStatus where
  | ok
  | validationFailed
  | reviewRequired
deriving DecidableEq

structure ValidationGatesReport where
  overallStatus : ValidationGateStatus
  candidateStatus : CandidateArtifactStatus
  rawArtifactUnchanged : Bool
  blockExport : Bool
  blockModelEvaluation : Bool
  blockTraining : Bool
  blockerPresent : Bool
  blockerGateTypes : List ValidationGateType
  gates : List CandidateValidationGate
deriving DecidableEq

end DataForge.Domain.ValidationGates
