import DataForge.Domain.Common
import DataForge.Foundation.Dictionary
import DataForge.Foundation.Scores

namespace DataForge.Domain.Profile

open DataForge.Foundation.Strings
open DataForge.Foundation.Scores
open DataForge.Domain.Common

structure ColumnMissingness where
  missingCount : Nat
  totalCount : Nat

structure MissingnessDiagnostics where
  targetColumnMissing : Bool
  columns : List ColumnMissingness

structure ClassImbalanceDiagnostics (F : Type) [ScoreLike F] where
  minorityClassShare : Score F
  imbalanceRatio : F
  balanceScore : Score F

structure LeakageCandidate where
  column : NonEmptyStr
  reasonCode : NonEmptyStr

/-- The lineage of a profile, every field of which is required and not empty. -/
structure TabularProfileLineage where
  datasetId : NonEmptyStr
  versionId : NonEmptyStr
  parentVersionId : NonEmptyStr
  createdByJobId : NonEmptyStr
  configHash : Sha256Digest
  sourceArtifactId : NonEmptyStr
  sourceManifestHash : Sha256Digest

/-- The parts of the tabular profile that the dataset score reads: the null count of
each column, the diagnostics, the pass rate of each business rule and the lineage. -/
structure TabularProfileReport (F : Type) [ScoreLike F] where
  rowCount : Nat
  columnCount : Nat
  nullCounts : List Nat
  missingness : Option MissingnessDiagnostics
  duplicateObjectIds : Option (List NonEmptyStr)
  classImbalance : Option (ClassImbalanceDiagnostics F)
  leakageCandidates : Option (List LeakageCandidate)
  businessRulePassRates : Option (List (Score F))
  lineage : TabularProfileLineage

structure TextOcrReport where
  totalRecordCount : Nat
  totalValidRecordCount : Nat
  totalDuplicateRecordCount : Nat
  totalPiiRecordCount : Nat
  totalRedactedRecordCount : Nat

end DataForge.Domain.Profile

namespace DataForge.Domain.TabularProfile

open DataForge.Foundation.Strings
open DataForge.Foundation.Dictionary
open DataForge.Foundation.Scores
open DataForge.Domain.Common

inductive ColumnType where
  | numericInteger
  | numericFloat
  | boolean
  | categorical
  | datetime
  | identifier
  | text
  | unknown
deriving DecidableEq

structure ColumnProfile where
  name : NonEmptyStr
  type : ColumnType

variable (F : Type) [ScoreLike F]

structure MissingnessGroupStats where
  missingCount : Nat
  totalCount : Nat
  missingRatio : Score F

structure MissingnessByGroup where
  groupColumn : NonEmptyStr
  groups : Dict Text (MissingnessGroupStats F)

structure ColumnMissingness where
  column : NonEmptyStr
  missingCount : Nat
  missingRate : Score F
  bySegment : Option (MissingnessByGroup F)

structure MissingnessDiagnostics where
  targetColumn : Option Text
  columns : List (ColumnMissingness F)

structure ClassImbalanceDiagnostics where
  targetColumn : NonEmptyStr
  rareClassLabel : NonEmptyStr
  rareClassCount : Nat
  rareClassRatio : Score F
  minorityClassShare : Score F
  imbalanceRatio : F

/-- The parts of the tabular profile that the selection of methods reads. -/
structure TabularProfileReport where
  columns : List ColumnProfile
  missingness : Option (MissingnessDiagnostics F)
  classImbalance : Option (ClassImbalanceDiagnostics F)

variable {F}

def TabularProfileReport.names (profile : TabularProfileReport F) : List NonEmptyStr :=
  profile.columns.map ColumnProfile.name

/-- The profile of a table: its columns have distinct names, and the missing values are
counted once for each of them. -/
structure OfTable (profile : TabularProfileReport F) : Prop where
  distinct : profile.names.Nodup
  measured : ∀ missingness ∈ profile.missingness,
    missingness.columns.map ColumnMissingness.column = profile.names

end DataForge.Domain.TabularProfile
