import DataForge.Domain.CandidateVersion
import DataForge.Domain.Splits
import DataForge.Foundation.Canonical
import DataForge.Foundation.Scores
import DataForge.Plugins.Tabular.Sources

namespace DataForge.Kernel.ModelImpact

open DataForge.Foundation.Strings
open DataForge.Foundation.Outcome
open DataForge.Foundation.Dictionary
open DataForge.Foundation.Canonical
open DataForge.Foundation.Numbers
open DataForge.Foundation.Scores
open DataForge.Foundation.Tables
open DataForge.Domain.Common
open DataForge.Domain.ExportPackage
open DataForge.Domain.Splits
open DataForge.Plugins.Tabular.Sources
open FloatLike ScoreLike MetricLike

inductive MetricStatus where
  | available
  | notApplicable
deriving DecidableEq

inductive SyntheticUtilityStatus where
  | recommended
  | requiresReview
  | rejected
  | notApplicable
deriving DecidableEq

structure ClassificationMetrics (F : Type) where
  rareClassRecall : F
  macroF1 : F
  weightedF1 : F
  prAuc : Option F

/-- Without a reason where the metrics are available. -/
structure TstrTrtsMetrics (F : Type) where
  status : MetricStatus
  reason : Option String
  tstrMacroF1Drop : Option F
  tstrMacroF1Threshold : Option F
  trtsMacroF1Delta : Option F
  trtsUnstableThreshold : Option F

structure MetricDeltas (F : Type) where
  rareClassRecall : F
  macroF1 : F
  weightedF1 : F
  prAuc : Option F

structure DegradedDrops (F : Type) where
  rareClassRecall : F
  macroF1 : F
  weightedF1 : F
  prAuc : F

theorem one_feature : [literal "x"] ≠ [] := List.cons_ne_nil _ _

structure RunModelImpactRequest (F : Type) where
  sourceArtifact : Table
  candidateArtifact : Table
  sourceSplitManifest : SplitManifest
  candidateSplitManifest : SplitManifest
  featureColumns : { columns : List NonEmptyStr // columns ≠ [] }
  targetColumn : NonEmptyStr
  rareClassLabel : NonEmptyStr
  candidateIsSynthetic : Bool
  validationGatesBlockerPresent : Bool
  randomSeed : Int
  tstrMacroF1Threshold : F
  trtsUnstableThreshold : F
  degradedDrops : DegradedDrops F

structure ModelImpactReport (F : Type) where
  verdict : ModelImpactVerdict
  verdictReasonCodes : List String
  deltas : MetricDeltas F
  tstrTrts : TstrTrtsMetrics F
  syntheticUtilityStatus : SyntheticUtilityStatus
  syntheticUtilityReasonCodes : List String

section Rows

def readCsvRows (t : Table) : List IdentifiedRow := identifiedRows t.records

/-- The rows of the ids that a manifest puts in a split, in the order of the ids; the
last row of an id stands for it. -/
def selectSplitRows (rows : List IdentifiedRow) (manifest : SplitManifest) (split : DataSplit) :
    List IdentifiedRow :=
  let targetIds := (manifest.assignments.filter fun a => a.split = split).map fun a => a.objectId.1
  let byId : Dict Text IdentifiedRow := update [] (rows.map fun row => ((objectId row).1, row))
  (sortedSet targetIds).filterMap fun id => get? id byId

/-- The rows of the test split, or those of the validation split where it has none. -/
def evaluationRows (rows : List IdentifiedRow) (manifest : SplitManifest) : List IdentifiedRow :=
  if selectSplitRows rows manifest .test = [] then selectSplitRows rows manifest .validation
  else selectSplitRows rows manifest .test

end Rows

section Classification

variable {F : Type} [MetricLike F]

/-- `delta <= -threshold` -/
def dropped (delta threshold : F) : Bool := ScoreLike.le delta (sub (ofInt 0) threshold)

/-- `delta >= 0` -/
def kept (delta : F) : Bool := ScoreLike.le (ofInt 0) delta

def raised (delta : F) : Bool := lt (ofInt 0) delta

/-- `math.isclose(delta, 0.0, abs_tol=1e-9)` -/
def unchanged (delta : F) : Bool :=
  !isInf (FloatLike.abs delta) &&
    (ScoreLike.le (FloatLike.abs delta) (decimal 1 9) ||
      ScoreLike.le (FloatLike.abs delta) (mul (decimal 1 9) (FloatLike.abs delta)))

def codeIf (condition : Bool) (code : String) : List String := if condition then [code] else []

def weightedAndPrAucDegraded (deltas : MetricDeltas F) (drops : DegradedDrops F) : List String :=
  codeIf (dropped deltas.weightedF1 drops.weightedF1) "weighted_f1_degraded" ++
    codeIf (deltas.prAuc.any fun delta => dropped delta drops.prAuc) "pr_auc_degraded"

def degradedReasons (deltas : MetricDeltas F) (drops : DegradedDrops F) : List String :=
  codeIf (dropped deltas.rareClassRecall drops.rareClassRecall) "rare_class_recall_degraded" ++
    codeIf (dropped deltas.macroF1 drops.macroF1) "macro_f1_degraded" ++
    weightedAndPrAucDegraded deltas drops

/-- The rare class gains and nothing else loses. -/
def improves (deltas : MetricDeltas F) : Bool :=
  raised deltas.rareClassRecall && kept deltas.macroF1 && kept deltas.weightedF1 &&
    deltas.prAuc.all kept

def classifyVerdict (deltas : MetricDeltas F) (drops : DegradedDrops F) (blockerPresent : Bool) :
    ModelImpactVerdict × List String :=
  if blockerPresent then (.rejected, ["validation_gates_blocker_present"])
  else if degradedReasons deltas drops ≠ [] then
    (.degraded, "metrics_degraded" :: degradedReasons deltas drops)
  else if improves deltas then
    (.improved, "rare_class_recall_improved" ::
      (codeIf (raised deltas.macroF1) "macro_f1_improved" ++
        codeIf (raised deltas.weightedF1) "weighted_f1_improved" ++
        codeIf (deltas.prAuc.any raised) "pr_auc_improved"))
  else if unchanged deltas.rareClassRecall && unchanged deltas.macroF1 &&
    unchanged deltas.weightedF1 &&
      deltas.prAuc.all unchanged then
    (.requiresReview, ["metrics_unchanged"])
  else (.requiresReview, ["mixed_metric_movement"])

/-- A value above its threshold, where both are there. -/
def exceeds (value threshold : Option F) : Bool :=
  value.any fun v => threshold.any fun t => lt t v

def classifySyntheticUtility (candidateIsSynthetic : Bool) (verdict : ModelImpactVerdict)
    (deltas : MetricDeltas F) (drops : DegradedDrops F) (tstrTrts : TstrTrtsMetrics F)
    (blockerPresent : Bool) : SyntheticUtilityStatus × List String :=
  let reasons := codeIf (decide (verdict = .degraded)) "metrics_degraded" ++
    weightedAndPrAucDegraded deltas drops
  if candidateIsSynthetic = false then (.notApplicable, [])
  else if blockerPresent then (.rejected, ["validation_gates_blocker_present"])
  else if reasons ≠ [] then (.rejected, reasons)
  else if tstrTrts.status ≠ .available then
    (.requiresReview, [tstrTrts.reason.getD "tstr_trts_not_available"])
  else if exceeds tstrTrts.tstrMacroF1Drop tstrTrts.tstrMacroF1Threshold then
    (.rejected, ["tstr_macro_f1_drop_above_threshold"])
  else if exceeds (tstrTrts.trtsMacroF1Delta.map FloatLike.abs) tstrTrts.trtsUnstableThreshold then
    (.requiresReview, ["trts_macro_f1_unstable"])
  else if verdict = .improved ∧ improves deltas = true then
    (.recommended, ["tstr_within_threshold", "rare_class_recall_improved"])
  else (.requiresReview, ["metrics_inconclusive"])

end Classification

section Run

variable {F : Type} [MetricLike F]

def isSyntheticColumn : Text := "is_synthetic".toList

/-- What the classifier makes of training and test rows under a request. -/
abbrev Learner (F : Type) :=
  RunModelImpactRequest F → List IdentifiedRow → List IdentifiedRow →
    Result (ClassificationMetrics F)

/-- The metrics, or the reason why there are none. -/
def trainAndEvaluate (fit : Learner F) (request : RunModelImpactRequest F)
    (trainRows testRows : List IdentifiedRow) : Result (Except String (ClassificationMetrics F)) :=
  if trainRows = [] then .ok (.error "empty_train_split")
  else if testRows = [] then .ok (.error "empty_test_split")
  else if (trainRows.map fun row => cell request.targetColumn.1 row.1).dedup.length < 2 then
    .ok (.error "single_class_in_train_split")
  else do
    let metrics ← fit request trainRows testRows
    pure (.ok metrics)

/-- The rows that a run trains and tests on. -/
structure ImpactRows where
  baselineTrain : List IdentifiedRow
  baselineTest : List IdentifiedRow
  candidateTrain : List IdentifiedRow
  candidateTest : List IdentifiedRow

def impactRows (request : RunModelImpactRequest F) : ImpactRows :=
  let sourceRows := readCsvRows request.sourceArtifact
  let candidateRows := readCsvRows request.candidateArtifact
  { baselineTrain := selectSplitRows sourceRows request.sourceSplitManifest .train
    baselineTest := evaluationRows sourceRows request.sourceSplitManifest
    candidateTrain := selectSplitRows candidateRows request.candidateSplitManifest .train
    candidateTest := evaluationRows candidateRows request.candidateSplitManifest }

def notAvailable (reason : String) : TstrTrtsMetrics F :=
  ⟨.notApplicable, some reason, none, none, none, none⟩

def unavailableReason (name : String) : Except String (ClassificationMetrics F) → List String
  | .ok _ => []
  | .error reason => [name ++ "_" ++ reason]

/-- Training on synthetic rows and testing on real ones, and the other way around. -/
def computeTstrTrts (fit : Learner F) (request : RunModelImpactRequest F) (rows : ImpactRows)
    (baselineMacroF1 candidateMacroF1 : F) : Result (TstrTrtsMetrics F) :=
  let syntheticTrainRows := rows.candidateTrain.filter fun row =>
    cell isSyntheticColumn row.1 = "1".toList
  if request.candidateIsSynthetic = false then .ok (notAvailable "candidate_is_not_synthetic")
  else if syntheticTrainRows = [] then .ok (notAvailable "candidate_has_no_synthetic_train_rows")
  else do
    let tstr ← trainAndEvaluate fit request syntheticTrainRows rows.baselineTest
    let trts ← trainAndEvaluate fit request rows.baselineTrain syntheticTrainRows
    let unavailable := unavailableReason "tstr" tstr ++ unavailableReason "trts" trts
    pure
      { status := if unavailable = [] then .available else .notApplicable
        reason := if unavailable = [] then none else some (";".intercalate unavailable)
        tstrMacroF1Drop := tstr.toOption.map fun metrics => sub baselineMacroF1 metrics.macroF1
        tstrMacroF1Threshold := some request.tstrMacroF1Threshold
        trtsMacroF1Delta := trts.toOption.map fun metrics => sub candidateMacroF1 metrics.macroF1
        trtsUnstableThreshold := some request.trtsUnstableThreshold }

def metricDeltas (baseline candidate : ClassificationMetrics F) : MetricDeltas F where
  rareClassRecall := sub candidate.rareClassRecall baseline.rareClassRecall
  macroF1 := sub candidate.macroF1 baseline.macroF1
  weightedF1 := sub candidate.weightedF1 baseline.weightedF1
  prAuc := candidate.prAuc.bind fun c => baseline.prAuc.map fun b => sub c b

def modelImpactReport (request : RunModelImpactRequest F) (deltas : MetricDeltas F)
    (tstrTrts : TstrTrtsMetrics F) : ModelImpactReport F :=
  let verdict := classifyVerdict deltas request.degradedDrops request.validationGatesBlockerPresent
  let utility := classifySyntheticUtility request.candidateIsSynthetic verdict.1 deltas
    request.degradedDrops tstrTrts request.validationGatesBlockerPresent
  { verdict := verdict.1
    verdictReasonCodes := verdict.2
    deltas := deltas
    tstrTrts := tstrTrts
    syntheticUtilityStatus := utility.1
    syntheticUtilityReasonCodes := utility.2 }

def requireMetrics : Except String (ClassificationMetrics F) → Result (ClassificationMetrics F)
  | .ok metrics => .ok metrics
  | .error reason =>
    .error (.reasoned "ModelImpactRunnerError" reason .modelImpactNotEligible none reason)

def runModelImpact (fit : Learner F) (request : RunModelImpactRequest F) :
    Result (ModelImpactReport F) := do
  let rows := impactRows request
  let baseline ← trainAndEvaluate fit request rows.baselineTrain rows.baselineTest
  let candidate ← trainAndEvaluate fit request rows.candidateTrain rows.candidateTest
  let baseline ← requireMetrics baseline
  let candidate ← requireMetrics candidate
  let tstrTrts ← computeTstrTrts fit request rows baseline.macroF1 candidate.macroF1
  pure (modelImpactReport request (metricDeltas baseline candidate) tstrTrts)

theorem runModelImpact_eq_ok {fit : Learner F} {request : RunModelImpactRequest F}
    {report : ModelImpactReport F} (h : runModelImpact fit request = .ok report) :
    ∃ deltas tstrTrts, report = modelImpactReport request deltas tstrTrts := by
  obtain ⟨_, -, h⟩ := bind_eq_ok.mp h
  obtain ⟨_, -, h⟩ := bind_eq_ok.mp h
  obtain ⟨baseline, -, h⟩ := bind_eq_ok.mp h
  obtain ⟨candidate, -, h⟩ := bind_eq_ok.mp h
  obtain ⟨tstrTrts, -, h⟩ := bind_eq_ok.mp h
  exact ⟨_, tstrTrts, (Except.ok.inj h).symm⟩

end Run

end DataForge.Kernel.ModelImpact
