import DataForge.Domain.Profile
import DataForge.Domain.Report

namespace DataForge.Kernel.DatasetScore

open DataForge.Foundation.Strings
open DataForge.Foundation.Numbers
open DataForge.Foundation.Scores
open DataForge.Domain.Common
open DataForge.Domain.Artifact
open DataForge.Domain.Profile
open DataForge.Domain.Report
open FloatLike ScoreLike

structure BuildDataForgeScoreRequest (F : Type) [ScoreLike F] where
  tabularProfile : Option (TabularProfileReport F)
  textOcrReport : Option TextOcrReport
  decisionReport : Option (DecisionReport F)
  splitLeakageDetected : Bool

variable {F : Type} [ScoreLike F]

def weights : ScoreComponents F where
  completeness := decimal 15 2
  validity := decimal 15 2
  uniqueness := decimal 12 2
  balance := decimal 15 2
  privacySafety := decimal 18 2
  modelReadiness := decimal 15 2
  lineageCompleteness := decimal 10 2

section Components

/-- `k / n` of two counts. -/
def ratio (k n : Nat) : F := div (ofInt k) (ofInt n)

def hasBlocker (decisionReport : Option (DecisionReport F)) (code : String) : Bool :=
  match decisionReport with
  | none => false
  | some report => report.criticalBlockers.any fun blocker => blocker.code.1 = code.toList

def completeness : Option (TabularProfileReport F) → Score F
  | none => Score.one
  | some profile =>
    if profile.rowCount = 0 ∨ profile.columnCount = 0 then Score.one
    else
      let columns := (profile.missingness.map MissingnessDiagnostics.columns).getD []
      let counted := (columns.map ColumnMissingness.totalCount).sum
      if 0 < counted then
        Score.rounded
          (sub (ofInt 1) (ratio (columns.map ColumnMissingness.missingCount).sum counted))
      else Score.rounded (sub (ofInt 1)
        (ratio profile.nullCounts.sum (profile.rowCount * profile.columnCount)))

def validityScores (profile : Option (TabularProfileReport F))
    (textOcrReport : Option TextOcrReport) : List F :=
  (match profile.bind TabularProfileReport.businessRulePassRates with
    | some (rate :: rates) =>
      [div (sum ((rate :: rates).map Subtype.val)) (ofInt (rates.length + 1))]
    | _ => []) ++
  (match profile.bind TabularProfileReport.missingness with
    | some missingness => [if missingness.targetColumnMissing then ofInt 0 else ofInt 1]
    | none => []) ++
  (match textOcrReport with
    | some report => if 0 < report.totalRecordCount then
        [ratio report.totalValidRecordCount report.totalRecordCount] else []
    | none => [])

def validity (profile : Option (TabularProfileReport F)) (textOcrReport : Option TextOcrReport) :
    Score F :=
  let scores := validityScores profile textOcrReport
  if scores = [] then Score.one
  else Score.rounded (div (sum scores) (ofInt scores.length))

def duplicateRatios (profile : Option (TabularProfileReport F))
    (textOcrReport : Option TextOcrReport) : List F :=
  (match profile with
    | some report =>
      (report.duplicateObjectIds.map fun ids =>
        if 0 < report.rowCount then [ratio ids.length report.rowCount] else []).getD []
    | none => []) ++
  (match textOcrReport with
    | some report => if 0 < report.totalValidRecordCount then
        [ratio report.totalDuplicateRecordCount report.totalValidRecordCount] else []
    | none => [])

def uniqueness (profile : Option (TabularProfileReport F)) (textOcrReport : Option TextOcrReport) :
    Score F :=
  let duplicateRatio := match duplicateRatios profile textOcrReport with
    | [] => ofInt 0
    | r :: rs => rs.foldl FloatLike.max r
  Score.rounded (sub (ofInt 1) duplicateRatio)

def balance (profile : Option (TabularProfileReport F)) : Score F :=
  match profile.bind TabularProfileReport.classImbalance with
  | none => Score.one
  | some imbalance => Score.rounded imbalance.balanceScore.1

def privacySafety (textOcrReport : Option TextOcrReport)
    (decisionReport : Option (DecisionReport F)) : Score F :=
  if hasBlocker decisionReport "PII_UNMASKED" then Score.zero
  else match textOcrReport with
    | none => Score.one
    | some report =>
      if report.totalValidRecordCount = 0 then Score.one
      else Score.rounded (sub (ofInt 1)
        (ratio (report.totalPiiRecordCount - report.totalRedactedRecordCount)
          report.totalValidRecordCount))

def hasLeakageCandidates (profile : Option (TabularProfileReport F)) : Bool :=
  match profile.bind TabularProfileReport.leakageCandidates with
  | some (_ :: _) => true
  | _ => false

def modelReadiness (profile : Option (TabularProfileReport F))
    (decisionReport : Option (DecisionReport F)) (splitLeakageDetected : Bool) : Score F :=
  if splitLeakageDetected || hasBlocker decisionReport "SPLIT_LEAKAGE" then Score.zero
  else if hasBlocker decisionReport "TARGET_LEAKAGE_CANDIDATE" then Score.zero
  else if hasLeakageCandidates profile then Score.fraction 3 1
  else match profile.bind TabularProfileReport.missingness with
    | some missingness => if missingness.targetColumnMissing then Score.zero else Score.one
    | none => Score.one

def lineageChecks (lineage : TabularProfileLineage) : List Bool :=
  [lineage.datasetId.1, lineage.versionId.1, lineage.parentVersionId.1, lineage.createdByJobId.1,
    lineage.configHash.1, lineage.sourceArtifactId.1, lineage.sourceManifestHash.1].map
      fun text => !text.isEmpty

def lineageCompleteness : Option (TabularProfileReport F) → Score F
  | none => Score.one
  | some profile =>
    let checks := lineageChecks profile.lineage
    ⟨ratio (checks.countP id) checks.length,
      inRange_ratio List.countP_le_length (by simp [checks, lineageChecks])⟩

end Components

section Penalties

variable (request : BuildDataForgeScoreRequest F)

def unmaskedPii : Bool :=
  hasBlocker request.decisionReport "PII_UNMASKED" ||
    match request.textOcrReport with
    | none => false
    | some report => report.totalRedactedRecordCount < report.totalPiiRecordCount

def targetLeakage : Bool :=
  hasBlocker request.decisionReport "TARGET_LEAKAGE_CANDIDATE" ||
    hasLeakageCandidates request.tabularProfile

def severeDuplicates : Bool :=
  (duplicateRatios request.tabularProfile request.textOcrReport).any fun duplicateRatio =>
    le (decimal 5 2) duplicateRatio

def severeClassImbalance (profile : Option (TabularProfileReport F)) : Bool :=
  match profile.bind TabularProfileReport.classImbalance with
  | none => false
  | some imbalance => le (ofInt 10) imbalance.imbalanceRatio ||
      le imbalance.minorityClassShare.1 (decimal 5 2)

def penalties : List (DataForgeScorePenalty F) :=
  [("unmasked_pii", -30, unmaskedPii request),
    ("split_leakage", -40, request.splitLeakageDetected ||
      hasBlocker request.decisionReport "SPLIT_LEAKAGE"),
    ("target_leakage_candidate", -25, targetLeakage request),
    ("severe_duplicates", -10, severeDuplicates request),
    ("severe_class_imbalance", -10, severeClassImbalance request.tabularProfile)].filterMap
      fun (reasonCode, value, triggered) =>
        if triggered then some ⟨reasonCode.toList, ofInt value, true⟩ else none

end Penalties

def hardBlocked (decisionReport : Option (DecisionReport F)) : Bool :=
  match decisionReport with
  | none => false
  | some report => report.readiness.status = .blocked || !report.criticalBlockers.isEmpty

def decisionReasonCodes (p : Platform) (decisionReport : Option (DecisionReport F)) : List Text :=
  match decisionReport with
  | none => []
  | some report => (report.criticalBlockers.map (fun blocker => p.lower blocker.code.1) ++
      report.recommendedActions.flatMap fun action =>
        action.reasonCodes.map Subtype.val).eraseDups

def componentValues (components : ScoreComponents F) : List F :=
  [components.completeness, components.validity, components.uniqueness, components.balance,
    components.privacySafety, components.modelReadiness, components.lineageCompleteness]

def weightComponents (components : ScoreComponents (Score F)) : ScoreComponents F where
  completeness := mul (decimal 15 2) components.completeness.1
  validity := mul (decimal 15 2) components.validity.1
  uniqueness := mul (decimal 12 2) components.uniqueness.1
  balance := mul (decimal 15 2) components.balance.1
  privacySafety := mul (decimal 18 2) components.privacySafety.1
  modelReadiness := mul (decimal 15 2) components.modelReadiness.1
  lineageCompleteness := mul (decimal 10 2) components.lineageCompleteness.1

def buildDataForgeScore (p : Platform) (request : BuildDataForgeScoreRequest F) :
    DataForgeScore F :=
  let components : ScoreComponents (Score F) :=
    { completeness := completeness request.tabularProfile
      validity := validity request.tabularProfile request.textOcrReport
      uniqueness := uniqueness request.tabularProfile request.textOcrReport
      balance := balance request.tabularProfile
      privacySafety := privacySafety request.textOcrReport request.decisionReport
      modelReadiness := modelReadiness request.tabularProfile request.decisionReport
        request.splitLeakageDetected
      lineageCompleteness := lineageCompleteness request.tabularProfile }
  let weighted := weightComponents components
  let applied := penalties request
  let rawScore := clamp 100 (add (mul (ofInt 100) (sum (componentValues weighted)))
    (sum (applied.map DataForgeScorePenalty.value)))
  have hraw : InRange 100 rawScore := inRange_clamp (by decide) (by decide) _
  { value := ⟨roundTo 6 (div rawScore (ofInt 100)), inRange_roundTo 6 (inRange_percent hraw)⟩
    rawScore := ⟨roundTo 6 rawScore, inRange_roundTo 6 hraw⟩
    policyVersion := literal "dataforge_score_v0"
    weights := weights
    components := components
    weightedComponents := weighted
    penalties := applied
    hardBlocked := hardBlocked request.decisionReport
    readinessStatus := if hardBlocked request.decisionReport then .blocked
      else if applied.isEmpty then .readyForExport else .readyWithWarnings
    reasonCodes := ((applied.filter DataForgeScorePenalty.applied).map
      DataForgeScorePenalty.reasonCode ++ decisionReasonCodes p request.decisionReport).eraseDups }

end DataForge.Kernel.DatasetScore
