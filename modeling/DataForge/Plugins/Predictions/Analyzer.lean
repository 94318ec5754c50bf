import DataForge.Domain.Evidence
import DataForge.Domain.ModelError
import DataForge.Foundation.Canonical
import DataForge.Foundation.Grouping
import Mathlib.Data.Prod.Lex

namespace DataForge.Plugins.Predictions.Analyzer

open DataForge.Foundation.Strings
open DataForge.Foundation.Outcome
open DataForge.Foundation.Dictionary
open DataForge.Foundation.Grouping
open DataForge.Foundation.Canonical
open DataForge.Foundation.Numbers
open DataForge.Foundation.Scores
open DataForge.Domain.Common
open DataForge.Domain.ModelError
open DataForge.Domain.Passport (scoreField)
open FloatLike ScoreLike

variable {F : Type} [ScoreLike F]

structure ManifestRowSummary (F : Type) where
  label : Option Text
  segment : Option Text
  neighborLabelDistribution : Option (Dict Text F)
  clusterLabelDistribution : Option (Dict Text F)

section Uncertainty

/-- `sorted(probabilities, reverse=True)`. -/
def probabilities (row : PredictionRow F) : List F :=
  (row.predictedProba.1.map fun item => item.2.1).insertionSort fun p q => !lt p q

theorem probabilities_ne_nil (row : PredictionRow F) : probabilities row ≠ [] := by
  rw [probabilities, ← List.length_pos_iff, List.length_insertionSort, List.length_map,
    List.length_pos_iff]
  exact row.predictedProba.2

def confidence (row : PredictionRow F) : F := (probabilities row).head (probabilities_ne_nil row)

def margin (row : PredictionRow F) : F :=
  match probabilities row with
  | first :: second :: _ => sub first second
  | _ => ofInt 1

variable (log : F → F)

def entropy (row : PredictionRow F) : F :=
  (probabilities row).foldl
    (fun e p => if lt (ofInt 0) p then sub e (mul p (log p)) else e) (ofInt 0)

def normalizedEntropy (row : PredictionRow F) : F :=
  let k := (probabilities row).length
  let logK := if 1 < k then log (ofInt k) else ofInt 1
  if lt (ofInt 0) logK then div (entropy log row) logK else ofInt 0

def labelSupport (distribution : Option (Dict Text F)) (label : NonEmptyStr) : Option (Score F) :=
  distribution.map fun d => (get? label.1 d).elim Score.zero Score.clamped

end Uncertainty

section Signals

variable (log : F → F) (thresholds : ModelErrorThresholds F)

def ambiguousObjectScore (row : PredictionRow F) : Score F :=
  Score.clamped (div (FloatLike.sum [FloatLike.max (ofInt 0) (sub (ofInt 1) (confidence row)),
    FloatLike.max (ofInt 0) (sub (ofInt 1) (margin row)), normalizedEntropy log row]) (ofInt 3))

def probableLabelErrorScore (row : PredictionRow F) (conflict : Bool)
    (neighbor cluster : Option (Score F)) : Score F :=
  let components := [confidence row, margin row,
      FloatLike.max (ofInt 0) (sub (ofInt 1) (normalizedEntropy log row))] ++
    (neighbor.map Subtype.val).toList ++ (cluster.map Subtype.val).toList
  Score.clamped
    (if conflict then div (FloatLike.sum components) (ofInt components.length) else ofInt 0)

def supportStatus (neighbor cluster : Option (Score F)) : String :=
  if neighbor.isSome ∨ cluster.isSome then "available" else "not_applicable"

def reasons (row : PredictionRow F) (conflict : Bool) (neighbor cluster : Option (Score F)) :
    List ReasonCode :=
  let uncertain := le thresholds.ambiguousMinNormalizedEntropy.1 (normalizedEntropy log row)
  let close := le (margin row) thresholds.ambiguousMaxMargin.1
  let supported := fun support : Score F => le thresholds.labelSupportThreshold.1 support.1
  (if le (confidence row) thresholds.ambiguousMaxConfidence.1 || close || uncertain then
      [.ambiguousObject] else []) ++
    (if uncertain then [.highModelUncertainty] else []) ++
    (if close then [.lowPredictionMargin] else []) ++
    if conflict then
      [.labelConflict] ++
        (if supportStatus neighbor cluster = "not_applicable" then
          [.neighborLabelSupportNotAvailable] else []) ++
        (if neighbor.any supported || cluster.any supported then [.neighborLabelDisagreement]
          else []) ++
        (if le thresholds.labelErrorConfidence.1 (confidence row) then
          [.probableLabelError, .highConfidenceLabelConflict] else []) ++
        (if le thresholds.labelErrorMargin.1 (margin row) then [.largeMarginLabelConflict]
          else []) ++
        (if le (normalizedEntropy log row) (sub (ofInt 1) thresholds.labelErrorMargin.1) then
          [.lowEntropyLabelConflict] else [])
    else []

def computeObjectSignals (row : PredictionRow F) (labelOverride : Option Text)
    (neighborLabelDistribution clusterLabelDistribution : Option (Dict Text F)) :
    Result (ObjectModelErrorSignals F) := do
  let trueLabel := labelOverride.getD row.trueLabel.1
  let conflict := decide (row.predictedLabel.1 ≠ trueLabel)
  let neighbor := labelSupport neighborLabelDistribution row.predictedLabel
  let cluster := labelSupport clusterLabelDistribution row.predictedLabel
  let trueLabel ← field "ObjectModelErrorSignals" "true_label" trueLabel
  let confidence ← scoreField "ObjectModelErrorSignals" "confidence" (confidence row)
  let margin ← scoreField "ObjectModelErrorSignals" "margin" (margin row)
  guardOk (lt (entropy log row) (ofInt 0) = false) (.validation "ObjectModelErrorSignals" "entropy")
  let normalized ← scoreField "ObjectModelErrorSignals" "normalized_entropy"
      (normalizedEntropy log row)
  pure
    { objectId := row.objectId
      trueLabel := trueLabel
      predictedLabel := row.predictedLabel
      confidence := confidence
      margin := margin
      entropy := entropy log row
      normalizedEntropy := normalized
      labelConflict := conflict
      ambiguousObjectScore := ambiguousObjectScore log row
      probableLabelErrorScore := probableLabelErrorScore log row conflict neighbor cluster
      neighborLabelSupport := neighbor
      clusterLabelSupport := cluster
      labelSupportStatus := supportStatus neighbor cluster
      reasonCodes := (reasons log thresholds row conflict neighbor cluster).eraseDups }

end Signals

section Tallies

structure BucketStats where
  total : Nat := 0
  errors : Nat := 0

/-- `buckets.setdefault(bucket, _BucketStats())`, counted on. -/
def observeBucket (buckets : Dict NonEmptyStr BucketStats) (item : NonEmptyStr × Bool) :
    Dict NonEmptyStr BucketStats :=
  let stats := (get? item.1 buckets).getD {}
  set item.1 ⟨stats.total + 1, stats.errors + if item.2 then 1 else 0⟩ buckets

abbrev ConfusionKey := NonEmptyStr ×ₗ NonEmptyStr

/-- The lists and counters that the loop over the rows fills. -/
structure Tally (F : Type) [ScoreLike F] where
  objectSignals : List (ObjectModelErrorSignals F) := []
  confusion : Dict ConfusionKey Nat := []
  classesSeen : List NonEmptyStr := []
  segmentBuckets : Dict NonEmptyStr BucketStats := []
  classBuckets : Dict NonEmptyStr BucketStats := []
  highConfidenceErrors : List NonEmptyStr := []
  uncertainObjects : List NonEmptyStr := []
  ambiguousCount : Nat := 0
  probableLabelErrorCount : Nat := 0
  highConfidenceErrorCount : Nat := 0
  labelConflictCount : Nat := 0
  matchedCount : Nat := 0
  correctCount : Nat := 0

/-- The signals of a row, and the segment of its object where it has one. -/
structure Observation (F : Type) [ScoreLike F] where
  signals : ObjectModelErrorSignals F
  segment : Option NonEmptyStr

variable (log : F → F) (thresholds : ModelErrorThresholds F)
  (manifest : Dict Text (ManifestRowSummary F))

/-- What the loop makes of a row that the manifest has a label for. -/
def observation (row : PredictionRow F) : Result (Option (Observation F)) :=
  match get? row.objectId.1 manifest with
  | none => .ok none
  | some summary =>
    match summary.label with
    | none => .ok none
    | some label => do
      let signals ← computeObjectSignals log thresholds row (some label)
        summary.neighborLabelDistribution summary.clusterLabelDistribution
      pure (some ⟨signals, summary.segment.bind nonEmpty⟩)

def isAmbiguous (signals : ObjectModelErrorSignals F) : Bool :=
  le signals.confidence.1 thresholds.ambiguousMaxConfidence.1 ||
    le thresholds.ambiguousMinNormalizedEntropy.1 signals.normalizedEntropy.1 ||
    le signals.margin.1 thresholds.ambiguousMaxMargin.1

def isHighConfidenceError (signals : ObjectModelErrorSignals F) : Bool :=
  signals.labelConflict && le thresholds.labelErrorConfidence.1 signals.confidence.1

def isProbableLabelError (signals : ObjectModelErrorSignals F) : Bool :=
  signals.labelConflict &&
    (le thresholds.labelErrorConfidence.1 signals.confidence.1 ||
      le thresholds.labelErrorMargin.1 signals.margin.1)

def Tally.observe (tally : Tally F) (seen : Observation F) : Tally F :=
  let signals := seen.signals
  let ambiguous := isAmbiguous thresholds signals
  let highConfidence := isHighConfidenceError thresholds signals
  let one := fun counted : Bool => if counted then 1 else 0
  { objectSignals := tally.objectSignals ++ [signals]
    confusion := addCount tally.confusion (toLex (signals.trueLabel, signals.predictedLabel), 1)
    classesSeen := tally.classesSeen ++ [signals.trueLabel, signals.predictedLabel]
    segmentBuckets := seen.segment.elim tally.segmentBuckets fun segment =>
      observeBucket tally.segmentBuckets (segment, signals.labelConflict)
    classBuckets := observeBucket tally.classBuckets (signals.trueLabel, signals.labelConflict)
    highConfidenceErrors := if highConfidence then tally.highConfidenceErrors ++ [signals.objectId]
      else tally.highConfidenceErrors
    uncertainObjects := if ambiguous then tally.uncertainObjects ++ [signals.objectId]
      else tally.uncertainObjects
    ambiguousCount := tally.ambiguousCount + one ambiguous
    probableLabelErrorCount :=
      tally.probableLabelErrorCount + one (isProbableLabelError thresholds signals)
    highConfidenceErrorCount := tally.highConfidenceErrorCount + one highConfidence
    labelConflictCount := tally.labelConflictCount + one signals.labelConflict
    matchedCount := tally.matchedCount + 1
    correctCount := tally.correctCount + one (!signals.labelConflict) }

def analyzeRow (tally : Tally F) (row : PredictionRow F) : Result (Tally F) := do
  match ← observation log thresholds manifest row with
  | none => pure tally
  | some seen => pure (tally.observe thresholds seen)

def share (part whole : Nat) : F := if whole = 0 then ofInt 0 else div (ofInt part) (ofInt whole)

def concentrationEntry (item : NonEmptyStr × BucketStats) : Result (ErrorConcentrationEntry F) := do
  let errorRate ← scoreField "ErrorConcentrationEntry" "error_rate"
      (share item.2.errors item.2.total)
  pure ⟨item.1, item.2.total, item.2.errors, errorRate⟩

def analyzeModelErrors (rows : List (PredictionRow F)) : Result (ModelErrorReport F) := do
  let tally ← rows.foldlM (analyzeRow log thresholds manifest) {}
  let accuracy ← scoreField "ModelErrorAggregateMetrics" "accuracy"
    (share tally.correctCount tally.matchedCount)
  let segments ← (sortedItems tally.segmentBuckets).mapM concentrationEntry
  let classes ← (sortedItems tally.classBuckets).mapM concentrationEntry
  pure
    { classes := sortedSet tally.classesSeen
      confusionMatrix := (sortedItems tally.confusion).map fun cell =>
        ⟨(ofLex cell.1).1, (ofLex cell.1).2, cell.2⟩
      aggregateMetrics := ⟨accuracy, tally.labelConflictCount, tally.highConfidenceErrorCount,
        tally.ambiguousCount, tally.probableLabelErrorCount⟩
      segmentErrorConcentration := segments
      classErrorConcentration := classes
      highConfidenceErrors := sortedSet tally.highConfidenceErrors
      uncertainObjects := sortedSet tally.uncertainObjects
      objectSignals := tally.objectSignals
      thresholds := thresholds }

end Tallies

end DataForge.Plugins.Predictions.Analyzer
