import DataForge.Domain.Splits

namespace DataForge.Domain.ImpactEligibility

open DataForge.Foundation.Strings
open DataForge.Domain.Common

inductive ModelImpactTaskType where
  | supervisedTabularClassification
  | supervisedTabularRegression
deriving DecidableEq

inductive ModelImpactInputName where
  | targetLabel
  | enoughLabeledSamples
  | validSplitStrategy
  | noLeakageBlockers
  | baselineModelAvailable
deriving DecidableEq

inductive ModelImpactNotEligibleReasonCode where
  | targetLabelMissing
  | targetColumnHasMissingValues
  | notEnoughLabeledSamples
  | notEnoughRareClassSamples
  | splitManifestMissing
  | splitManifestInsufficientSplits
  | leakageBlockerPresent
  | baselineModelUnavailable
  | unsupportedTaskType
deriving DecidableEq

def ModelImpactNotEligibleReasonCode.value : ModelImpactNotEligibleReasonCode → String
  | .targetLabelMissing => "target_label_missing"
  | .targetColumnHasMissingValues => "target_column_has_missing_values"
  | .notEnoughLabeledSamples => "not_enough_labeled_samples"
  | .notEnoughRareClassSamples => "not_enough_rare_class_samples"
  | .splitManifestMissing => "split_manifest_missing"
  | .splitManifestInsufficientSplits => "split_manifest_insufficient_splits"
  | .leakageBlockerPresent => "leakage_blocker_present"
  | .baselineModelUnavailable => "baseline_model_unavailable"
  | .unsupportedTaskType => "unsupported_task_type"

inductive ModelImpactEligibilityStatus where
  | eligible
  | notEligible
deriving DecidableEq

structure ClassCount where
  label : NonEmptyStr
  count : Nat
deriving DecidableEq

structure ClassImbalanceDiagnostics where
  totalSamples : Nat
  classCounts : List ClassCount
  rareClassLabel : NonEmptyStr
deriving DecidableEq

structure MissingnessDiagnostics where
  targetColumnMissing : Bool
deriving DecidableEq

/-- The parts of the tabular profile that the eligibility check reads. -/
structure TabularProfileReport where
  targetColumn : Option Text
  missingness : Option MissingnessDiagnostics
  classImbalance : Option ClassImbalanceDiagnostics
deriving DecidableEq

/-- The ratio is the quotient of the counts, before it is rounded to a float. -/
structure ModelImpactCohortStats where
  label : NonEmptyStr
  count : Nat
  ratio : ℚ
  isRareClass : Bool
deriving DecidableEq

structure ModelImpactSplitStats where
  split : Text
  totalCount : Nat
  rareClassCount : Nat
deriving DecidableEq

structure ModelImpactEligibilityReport where
  status : ModelImpactEligibilityStatus
  eligible : Bool
  taskType : ModelImpactTaskType
  targetColumn : Option Text
  rareClassLabel : Option NonEmptyStr
  primaryReasonCode : String
  reasons : List String
  requiredInputsPresent : List ModelImpactInputName
  requiredInputsMissing : List ModelImpactInputName
  notEligibleReasonCodes : List ModelImpactNotEligibleReasonCode
  cohortStats : List ModelImpactCohortStats
  splitStats : List ModelImpactSplitStats
  minimumLabeledSamples : Int
  minimumRareClassSamples : Int
deriving DecidableEq

end DataForge.Domain.ImpactEligibility
