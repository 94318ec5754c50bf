import DataForge.Domain.Artifact
import DataForge.Foundation.Dictionary
import DataForge.Foundation.Scores
import Mathlib.Data.Rat.Defs

namespace DataForge.Domain.Splits

open DataForge.Foundation.Strings
open DataForge.Foundation.Dictionary
open DataForge.Domain.Common
open DataForge.Domain.Artifact

inductive DataSplit where
  | train
  | validation
  | test
  | holdout
  | unknown
deriving DecidableEq, Repr

def DataSplit.value : DataSplit → Text
  | .train => "train".toList
  | .validation => "validation".toList
  | .test => "test".toList
  | .holdout => "holdout".toList
  | .unknown => "unknown".toList

structure SplitAssignment where
  objectId : NonEmptyStr
  split : DataSplit
  label : NonEmptyStr
  groupValue : Option Text
deriving DecidableEq

/-- The ratios are the quotients of the counts, before they are rounded to floats. -/
structure SplitClassDistribution where
  split : DataSplit
  totalCount : Nat
  classCounts : Dict Text Nat
  classRatios : Dict Text ℚ
deriving DecidableEq

/-- `count / total if total else 0.0`. -/
def classRatio (total count : Nat) : ℚ := if total = 0 then 0 else count / total

structure SplitManifest where
  splitManifestId : Text
  targetColumn : NonEmptyStr
  seed : Int
  groupKey : Option NonEmptyStr
  assignments : List SplitAssignment
  classDistribution : List SplitClassDistribution
deriving DecidableEq

end DataForge.Domain.Splits

namespace DataForge.Domain.Leakage

open DataForge.Foundation.Strings
open DataForge.Foundation.Scores
open DataForge.Domain.Common

inductive LeakageCheckType where
  | exactHash
  | groupKey
  | targetLeakageCandidate
deriving DecidableEq

inductive LeakageCheckStatus where
  | passed
  | failed
  | notApplicable
deriving DecidableEq

inductive LeakageCheckSeverity where
  | info
  | warning
  | blocker
deriving DecidableEq

/-- The block actions that a check or a gate names. -/
inductive BlockAction where
  | blockExport
  | blockModelEvaluation
  | blockTraining
deriving DecidableEq

structure LeakageCrossSplitFinding where
  findingId : Text
  splits : List Text
  objectIds : List Text
  groupValue : Option Text
  column : Option NonEmptyStr
  notes : Text
deriving DecidableEq

structure LeakageCheckResult where
  checkType : LeakageCheckType
  status : LeakageCheckStatus
  severity : LeakageCheckSeverity
  reasonCode : Text
  blockAction : Option BlockAction
  affectedObjectIds : List Text
  affectedGroups : List Text
  affectedColumns : List Text
  findings : List LeakageCrossSplitFinding
  notes : Option Text
deriving DecidableEq

/-- Every check counts the findings that it lists. -/
def LeakageCheckResult.findingsCount (check : LeakageCheckResult) : Nat := check.findings.length

structure SplitLeakageReport (F : Type) [ScoreLike F] where
  splitManifestId : Text
  targetColumn : NonEmptyStr
  leakageDetected : Bool
  leakageRiskScore : Score F
  blockModelEvaluation : Bool
  blockTraining : Bool
  checks : List LeakageCheckResult

end DataForge.Domain.Leakage
