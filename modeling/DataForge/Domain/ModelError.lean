import DataForge.Domain.Common
import DataForge.Foundation.Dictionary
import DataForge.Foundation.Outcome
import DataForge.Foundation.Scores

namespace DataForge.Domain.ModelError

open DataForge.Foundation.Strings
open DataForge.Foundation.Dictionary
open DataForge.Foundation.Scores
open DataForge.Domain.Common

inductive ReasonCode where
  | ambiguousObject
  | highModelUncertainty
  | lowPredictionMargin
  | labelConflict
  | neighborLabelSupportNotAvailable
  | neighborLabelDisagreement
  | probableLabelError
  | highConfidenceLabelConflict
  | largeMarginLabelConflict
  | lowEntropyLabelConflict
deriving DecidableEq

def ReasonCode.value : ReasonCode → String
  | .ambiguousObject => "ambiguous_object"
  | .highModelUncertainty => "high_model_uncertainty"
  | .lowPredictionMargin => "low_prediction_margin"
  | .labelConflict => "label_conflict"
  | .neighborLabelSupportNotAvailable => "neighbor_label_support_not_available"
  | .neighborLabelDisagreement => "neighbor_label_disagreement"
  | .probableLabelError => "probable_label_error"
  | .highConfidenceLabelConflict => "high_confidence_label_conflict"
  | .largeMarginLabelConflict => "large_margin_label_conflict"
  | .lowEntropyLabelConflict => "low_entropy_label_conflict"

variable (F : Type) [ScoreLike F]

/-- A prediction with the probability of at least one class. -/
structure PredictionRow where
  objectId : NonEmptyStr
  trueLabel : NonEmptyStr
  predictedLabel : NonEmptyStr
  predictedProba : { proba : Dict Text (Score F) // proba ≠ [] }

structure ModelErrorThresholds where
  labelErrorConfidence : Score F := Score.fraction 85 2
  labelErrorMargin : Score F := Score.fraction 6 1
  ambiguousMaxConfidence : Score F := Score.fraction 6 1
  ambiguousMinNormalizedEntropy : Score F := Score.fraction 7 1
  ambiguousMaxMargin : Score F := Score.fraction 2 1
  labelSupportThreshold : Score F := Score.fraction 6 1

structure ObjectModelErrorSignals where
  objectId : NonEmptyStr
  trueLabel : NonEmptyStr
  predictedLabel : NonEmptyStr
  confidence : Score F
  margin : Score F
  entropy : F
  normalizedEntropy : Score F
  labelConflict : Bool
  ambiguousObjectScore : Score F
  probableLabelErrorScore : Score F
  neighborLabelSupport : Option (Score F)
  clusterLabelSupport : Option (Score F)
  labelSupportStatus : String
  reasonCodes : List ReasonCode

structure ConfusionMatrixEntry where
  trueLabel : NonEmptyStr
  predictedLabel : NonEmptyStr
  count : Nat

structure ErrorConcentrationEntry where
  bucket : NonEmptyStr
  total : Nat
  errors : Nat
  errorRate : Score F

structure ModelErrorAggregateMetrics where
  accuracy : Score F
  labelConflictCount : Nat
  highConfidenceErrorCount : Nat
  ambiguousObjectCount : Nat
  probableLabelErrorCount : Nat

structure ModelErrorReport where
  classes : List NonEmptyStr
  confusionMatrix : List ConfusionMatrixEntry
  aggregateMetrics : ModelErrorAggregateMetrics F
  segmentErrorConcentration : List (ErrorConcentrationEntry F)
  classErrorConcentration : List (ErrorConcentrationEntry F)
  highConfidenceErrors : List NonEmptyStr
  uncertainObjects : List NonEmptyStr
  objectSignals : List (ObjectModelErrorSignals F)
  thresholds : ModelErrorThresholds F

end DataForge.Domain.ModelError

namespace DataForge.Domain.PredictionChecks

open DataForge.Foundation.Strings
open DataForge.Foundation.Outcome
open DataForge.Foundation.Dictionary
open DataForge.Foundation.Numbers
open DataForge.Foundation.Scores
open DataForge.Domain.Common
open DataForge.Domain.ModelError
open FloatLike ScoreLike

variable {F : Type} [ScoreLike F]

/-- The probabilities of the classes, in the order of the dictionary. -/
def weights (row : PredictionRow F) : List F := row.predictedProba.1.map fun item => item.2.1

def topClass (row : PredictionRow F) : Text × Score F :=
  maxBy lt (fun item => item.2.1) (row.predictedProba.1.head row.predictedProba.2)
    row.predictedProba.1.tail

def predictionError (message : String) : Raised := .validation "PredictionRow" message

/-- A row without probabilities is left out by its type. -/
def validateProbabilities (row : PredictionRow F) (confidence : Score F) : Result Unit := do
  guardOk (lt (decimal 1 6) (abs (sub (FloatLike.sum (weights row)) (ofInt 1))) = false)
    (predictionError "predicted_proba values must sum to 1.0")
  guardOk (row.predictedLabel.1 = (topClass row).1)
    (predictionError "predicted_label must match argmax(predicted_proba)")
  guardOk (lt (decimal 1 6) (abs (sub confidence.1 (topClass row).2.1)) = false)
    (predictionError "confidence must equal max(predicted_proba)")

/-- The model of a prediction accepts the row with some confidence. -/
def Accepted (row : PredictionRow F) : Prop :=
  ∃ confidence, validateProbabilities row confidence = .ok ()

end DataForge.Domain.PredictionChecks
