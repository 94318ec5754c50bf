import DataForge.Domain.Common
import DataForge.Foundation.Outcome
import DataForge.Foundation.Scores

namespace DataForge.Domain.Evidence

open DataForge.Foundation.Strings
open DataForge.Foundation.Scores
open DataForge.Domain.Common

inductive DataModality where
  | tabular
  | text
  | image
  | video
  | audio
  | documentOcr
  | multimodal
deriving DecidableEq

inductive SignalStatus where
  | available
  | notApplicable
  | unavailable
deriving DecidableEq

structure EvidenceRef where
  kind : NonEmptyStr
  uri : S3Uri
deriving DecidableEq

/-- A signal has a value exactly if it is available, and a reason if it is not. -/
structure NormalizedSignal (F : Type) [ScoreLike F] where
  value : Option (Score F)
  status : SignalStatus
  reason : Option Text
  availableHasValue : status = .available → value ≠ none
  missingHasNone : status ≠ .available → value = none
  missingHasReason : status ≠ .available → ∃ text ∈ reason, text ≠ []

structure EvidenceSignals (F : Type) [ScoreLike F] where
  technicalQuality : NormalizedSignal F
  duplicateScore : NormalizedSignal F
  privacyRisk : NormalizedSignal F
  labelIssueScore : NormalizedSignal F
  rareSegmentScore : NormalizedSignal F
  businessImportance : NormalizedSignal F
  modelUncertainty : NormalizedSignal F
  predictionConfidence : NormalizedSignal F
  predictionMargin : NormalizedSignal F
  predictionEntropy : NormalizedSignal F
  ambiguousObjectScore : NormalizedSignal F
  probableLabelErrorScore : NormalizedSignal F

structure EvidenceBundle (F : Type) [ScoreLike F] where
  evidenceBundleId : NonEmptyStr
  objectId : NonEmptyStr
  modality : DataModality
  signals : EvidenceSignals F
  evidenceRefs : List EvidenceRef

namespace NormalizedSignal

variable {F : Type} [ScoreLike F]

def available (value : Score F) : NormalizedSignal F where
  value := some value
  status := .available
  reason := none
  availableHasValue _ := by simp
  missingHasNone h := absurd rfl h
  missingHasReason h := absurd rfl h

def missing (reason : NonEmptyStr) : NormalizedSignal F where
  value := none
  status := .notApplicable
  reason := some reason.1
  availableHasValue h := by cases h
  missingHasNone _ := rfl
  missingHasReason _ := ⟨reason.1, rfl, reason.2⟩

end NormalizedSignal

end DataForge.Domain.Evidence

namespace DataForge.Domain.Passport

open DataForge.Foundation.Strings
open DataForge.Foundation.Outcome
open DataForge.Foundation.Scores
open DataForge.Domain.Common
open DataForge.Domain.Evidence

/-- The field check of a score. -/
def scoreField {F : Type} [ScoreLike F] (model name : String) (x : F) : Result (Score F) :=
  if h : InRange 1 x then .ok ⟨x, h⟩ else .error (.validation model name)

theorem scoreField_eq_ok {F : Type} [ScoreLike F] {model name : String} {x : F} {score : Score F} :
    scoreField model name x = .ok score ↔ score.1 = x := by
  rw [scoreField]
  constructor
  · intro h
    split at h
    · exact congrArg Subtype.val (Except.ok.inj h).symm
    · cases h
  · rintro rfl
    rw [dif_pos score.2]

variable (F : Type) [ScoreLike F]

structure ObjectModelErrorSignals where
  objectId : NonEmptyStr
  confidence : Score F
  margin : Score F
  normalizedEntropy : Score F
  ambiguousObjectScore : Score F
  probableLabelErrorScore : Score F

structure TechnicalQualityBlock where
  score : Option (Score F)
  status : SignalStatus

structure PrivacyBlock where
  riskScore : Option (Score F)
  status : SignalStatus
  piiDetected : Bool
  piiTypes : List Text
  exportEligibility : NonEmptyStr

structure DuplicateSignals where
  duplicateScore : Option (Score F)
  status : SignalStatus
  duplicateClusterId : Option Text

structure LearningValueSignals where
  rareSegmentScore : Option (Score F)
  modelUncertainty : Option (Score F)
  labelIssueScore : Option (Score F)
  ambiguousObjectScore : Option (Score F)
  probableLabelErrorScore : Option (Score F)
  missingReason : NonEmptyStr

structure PredictionBlock where
  confidence : Score F
  margin : Score F
  normalizedEntropy : Score F

structure ObjectDecisionBlock where
  action : NonEmptyStr
  reasonCodes : List Text

structure ObjectAnalyticalPassport where
  objectId : NonEmptyStr
  modality : DataModality
  technicalQuality : TechnicalQualityBlock F
  privacy : PrivacyBlock F
  duplicateSignals : DuplicateSignals F
  learningValue : LearningValueSignals F
  prediction : Option (PredictionBlock F)
  decision : ObjectDecisionBlock
  evidenceRefs : List EvidenceRef

end DataForge.Domain.Passport
