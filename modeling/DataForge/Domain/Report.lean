import DataForge.Domain.Artifact
import DataForge.Domain.Decision
import DataForge.Domain.Evidence

namespace DataForge.Domain.Report

open DataForge.Foundation.Strings
open DataForge.Foundation.Numbers
open DataForge.Foundation.Scores
open DataForge.Domain.Common
open DataForge.Domain.Artifact
open DataForge.Domain.Decision
open DataForge.Domain.Evidence

inductive DatasetDecision where
  | readyForTraining
  | readyForTrainingWithReviewNotes
  | needsReview
  | blocked
deriving DecidableEq

inductive DatasetReadiness where
  | readyForExport
  | readyWithWarnings
  | notReadyForExport
  | blocked
deriving DecidableEq

inductive DecisionAction where
  | keep
  | removeDuplicate
  | sendToLabelReview
  | sendToPrivacyReview
  | imputeMissingValues
  | augmentRareClass
  | generateSyntheticCandidate
  | blockExport
  | exportReady
deriving DecidableEq

def DecisionAction.value : DecisionAction → Text
  | .keep => "KEEP".toList
  | .removeDuplicate => "REMOVE_DUPLICATE".toList
  | .sendToLabelReview => "SEND_TO_LABEL_REVIEW".toList
  | .sendToPrivacyReview => "SEND_TO_PRIVACY_REVIEW".toList
  | .imputeMissingValues => "IMPUTE_MISSING_VALUES".toList
  | .augmentRareClass => "AUGMENT_RARE_CLASS".toList
  | .generateSyntheticCandidate => "GENERATE_SYNTHETIC_CANDIDATE".toList
  | .blockExport => "BLOCK_EXPORT".toList
  | .exportReady => "EXPORT_READY".toList

structure PolicyVersions where
  decisionPolicy : NonEmptyStr
  scorePolicy : NonEmptyStr
  privacyPolicy : NonEmptyStr
  methodPolicy : NonEmptyStr

structure ReadinessAssessment (F : Type) [ScoreLike F] where
  status : DatasetReadiness
  score : Score F
  reasonCodes : List Text

structure CriticalBlocker where
  code : NonEmptyStr
  severity : String
  message : String
  evidenceRefs : List EvidenceRef

structure RecommendedAction where
  recommendationId : Text
  action : DecisionAction
  modality : DataModality
  count : Nat
  reasonCodes : List NonEmptyStr
  reason : String
  segment : Text
  requiresApproval : Bool

structure BlockedDecisionAction where
  action : DecisionAction
  reason : String
  reasonCodes : List NonEmptyStr

structure ObjectLevelDecision (F : Type) [ScoreLike F] where
  objectId : NonEmptyStr
  modality : DataModality
  action : DecisionAction
  reasons : List NonEmptyStr
  blockedActions : List BlockedDecisionAction
  objectValueScore : Score F

structure DecisionReport (F : Type) [ScoreLike F] where
  decisionReportId : Text
  datasetId : NonEmptyStr
  versionId : NonEmptyStr
  decisionSchemaVersion : NonEmptyStr
  datasetDecision : DatasetDecision
  readiness : ReadinessAssessment F
  criticalBlockers : List CriticalBlocker
  safeActionsAvailable : Bool
  recommendedNextJob : Option WorkflowType
  objectDecisions : List (ObjectLevelDecision F)
  recommendedActions : List RecommendedAction
  policyVersions : PolicyVersions
  generatedAt : Datetime

structure DataForgeScorePenalty (F : Type) where
  reasonCode : Text
  value : F
  applied : Bool

/-- One value for each component of the dataset score. -/
structure ScoreComponents (F : Type) where
  completeness : F
  validity : F
  uniqueness : F
  balance : F
  privacySafety : F
  modelReadiness : F
  lineageCompleteness : F

structure DataForgeScore (F : Type) [ScoreLike F] where
  value : Score F
  rawScore : { x : F // InRange 100 x }
  policyVersion : NonEmptyStr
  weights : ScoreComponents F
  components : ScoreComponents (Score F)
  weightedComponents : ScoreComponents F
  penalties : List (DataForgeScorePenalty F)
  hardBlocked : Bool
  readinessStatus : DatasetReadiness
  reasonCodes : List Text

end DataForge.Domain.Report
