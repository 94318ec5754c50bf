import DataForge.Domain.Profile
import DataForge.Kernel.ActionPlanPreview

namespace DataForge.Kernel.MethodSelection

open DataForge.Foundation.Strings
open DataForge.Foundation.Numbers
open DataForge.Foundation.Scores
open DataForge.Foundation.Dictionary
open DataForge.Foundation.Json
open DataForge.Domain.Common
open DataForge.Domain.Artifact
open DataForge.Domain.Decision
open DataForge.Domain.TabularProfile
open DataForge.Kernel.ActionPlanPreview (collapse imputeMissingValues augmentRareClass)
open FloatLike ScoreLike

variable {F : Type} [ScoreLike F] (p : Platform)

structure BuildMethodRecommendationsRequest (F : Type) [ScoreLike F] where
  tabularProfile : TabularProfileReport F
  policyVersion : NonEmptyStr := literal "method_selection_v0"

def slug (value : Text) : NonEmptyStr :=
  let s := stripBy (· == '_') (collapse false (p.lower value))
  if h : s = [] then literal "value" else ⟨s, h⟩

def isNumeric (column : ColumnProfile) : Bool :=
  column.type = .numericFloat || column.type = .numericInteger

/-- The missing rates of two segments differ by a fifth or more. -/
def isSegmentDependent (missingness : ColumnMissingness F) : Bool :=
  match missingness.bySegment with
  | none => false
  | some bySegment =>
    match bySegment.groups.map fun group => group.2.missingRatio.1 with
    | [] => false
    | ratio :: ratios =>
      le (decimal 2 1) (sub (maxBy lt id ratio ratios) (minBy lt id ratio ratios))

def rareClassNeedsPolicy (classImbalance : ClassImbalanceDiagnostics F) : Bool :=
  le classImbalance.minorityClassShare.1 (decimal 1 1) ||
    le (ofInt 3) classImbalance.imbalanceRatio

section Imputation

def groupMedian : NonEmptyStr := literal "group_median"

def median : NonEmptyStr := literal "median"

def imputationMethod (segmentDependent : Bool) : NonEmptyStr :=
  if segmentDependent then groupMedian else median

def imputationCandidates (recommendedId : NonEmptyStr) : List MethodCandidate :=
  [⟨groupMedian, if recommendedId = groupMedian then .recommended else .available, .enabled⟩,
    ⟨median, if recommendedId = median then .recommended else .available, .enabled⟩,
    ⟨literal "missingness_indicator", .available, .enabled⟩,
    ⟨literal "pmm", .disabledByPolicy, .disabledByPolicy⟩]

def targetImputation : BlockedMethod :=
  ⟨literal "target_imputation", literal "target_column_auto_imputation_forbidden"⟩

theorem candidateFor_imputationMethod (segmentDependent : Bool) :
    candidateFor (imputationCandidates (imputationMethod segmentDependent))
      (imputationMethod segmentDependent) =
        some ⟨imputationMethod segmentDependent, .recommended, .enabled⟩ := by
  cases segmentDependent <;> rfl

/-- What the action on one column is recorded with; `number` writes a float. -/
def imputationTarget (number : F → Value) (missingness : ColumnMissingness F)
    (column : ColumnProfile) (targetColumn : Option Text) : Dict Text Value :=
  [("scope".toList, .str "column".toList), ("column".toList, .str column.name.1),
    ("target_column".toList, (targetColumn.map Value.str).getD .null),
    ("missing_rate".toList, number missingness.missingRate.1),
    ("missing_count".toList, natValue missingness.missingCount)]

def buildNumericImputationRecommendation (number : F → Value) (missingness : ColumnMissingness F)
    (column : ColumnProfile) (targetColumn : Option Text) (policyVersion : NonEmptyStr) :
    MethodRecommendation where
  recommendationId := ⟨"method_rec_impute_".toList ++ (slug p column.name.1).1,
    List.append_ne_nil_of_left_ne_nil (by decide) _⟩
  issueId := ⟨"issue_missing_".toList ++ (slug p column.name.1).1,
    List.append_ne_nil_of_left_ne_nil (by decide) _⟩
  actionType := ⟨imputeMissingValues, by decide⟩
  policyVersion := policyVersion
  target := imputationTarget number missingness column targetColumn
  recommendedMethod := ⟨imputationMethod (isSegmentDependent missingness),
    literal "dataforge.tabular", false⟩
  candidateMethods := imputationCandidates (imputationMethod (isSegmentDependent missingness))
  blockedMethods := [targetImputation]
  expectedOutputs := [literal "imputation_report", literal "candidate_dataset_version",
    literal "version_compare_report"]
  modelImpactRequired := true
  recommendedIsCandidate := ⟨_, candidateFor_imputationMethod _, rfl⟩
  recommendedNotBlocked := by
    intro b hb
    obtain rfl := List.mem_singleton.mp hb
    cases isSegmentDependent missingness <;> exact (by decide)

end Imputation

section RareClass

def classWeights : NonEmptyStr := literal "class_weights"

def rareClassCandidates : List MethodCandidate :=
  [⟨classWeights, .recommended, .enabled⟩,
    ⟨literal "undersampling_majority", .available, .enabled⟩,
    ⟨literal "rare_case_review", .available, .enabled⟩,
    ⟨literal "collect_more_real_data", .available, .enabled⟩,
    ⟨literal "smote", .disabledByReadiness, .disabledByReadiness⟩,
    ⟨literal "gaussian_copula", .available, .enabled⟩,
    ⟨literal "borderline_smote", .disabledByReadiness, .disabledByReadiness⟩,
    ⟨literal "adasyn", .disabledByReadiness, .disabledByReadiness⟩,
    ⟨literal "ctgan", .disabledByPolicy, .disabledByPolicy⟩]

theorem candidateFor_classWeights :
    candidateFor rareClassCandidates classWeights =
      some ⟨classWeights, .recommended, .enabled⟩ := rfl

def buildRareClassRecommendation (number : F → Value) (classImbalance : ClassImbalanceDiagnostics F)
    (policyVersion : NonEmptyStr) : MethodRecommendation where
  recommendationId :=
    ⟨"method_rec_rare_class_".toList ++ (slug p classImbalance.rareClassLabel.1).1,
    List.append_ne_nil_of_left_ne_nil (by decide) _⟩
  issueId := ⟨"issue_rare_class_".toList ++ (slug p classImbalance.rareClassLabel.1).1,
    List.append_ne_nil_of_left_ne_nil (by decide) _⟩
  actionType := ⟨augmentRareClass, by decide⟩
  policyVersion := policyVersion
  target := [("scope".toList, .str "class".toList),
    ("target_column".toList, .str classImbalance.targetColumn.1),
    ("rare_class_label".toList, .str classImbalance.rareClassLabel.1),
    ("rare_class_count".toList, natValue classImbalance.rareClassCount),
    ("rare_class_ratio".toList, number classImbalance.rareClassRatio.1),
    ("imbalance_ratio".toList, number classImbalance.imbalanceRatio)]
  recommendedMethod := ⟨classWeights, literal "dataforge.tabular", false⟩
  candidateMethods := rareClassCandidates
  blockedMethods := []
  expectedOutputs := [literal "rare_class_method_report", literal "model_impact_report",
    literal "candidate_dataset_version"]
  modelImpactRequired := true
  recommendedIsCandidate := ⟨_, candidateFor_classWeights, rfl⟩
  recommendedNotBlocked := fun _ hb => absurd hb List.not_mem_nil

end RareClass

/-- The profile of the column whose missing values an entry counts, when the column gets a
recommendation. -/
def imputedColumn (profile : TabularProfileReport F) (targetColumn : Option Text)
    (missingness : ColumnMissingness F) : Option ColumnProfile :=
  if missingness.missingCount = 0 then none
  else if some missingness.column.1 = targetColumn then none
  else (get? missingness.column
    (update [] (profile.columns.map fun c => (c.name, c)))).filter isNumeric

def imputationRecommendations (number : F → Value) (request : BuildMethodRecommendationsRequest F) :
    List MethodRecommendation :=
  match request.tabularProfile.missingness with
  | none => []
  | some diagnostics => diagnostics.columns.filterMap fun missingness =>
    (imputedColumn request.tabularProfile diagnostics.targetColumn missingness).map fun column =>
      buildNumericImputationRecommendation p number missingness column diagnostics.targetColumn
        request.policyVersion

def rareClassRecommendations (number : F → Value) (request : BuildMethodRecommendationsRequest F) :
    List MethodRecommendation :=
  match request.tabularProfile.classImbalance with
  | none => []
  | some classImbalance =>
    if rareClassNeedsPolicy classImbalance then
      [buildRareClassRecommendation p number classImbalance request.policyVersion]
    else []

def buildMethodRecommendations (number : F → Value)
    (request : BuildMethodRecommendationsRequest F) : List MethodRecommendation :=
  imputationRecommendations p number request ++ rareClassRecommendations p number request

end DataForge.Kernel.MethodSelection
