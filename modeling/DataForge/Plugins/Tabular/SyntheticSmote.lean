import DataForge.Foundation.Json
import DataForge.Plugins.Tabular.LeakageChecks
import DataForge.Plugins.Tabular.Splits
import DataForge.Plugins.Tabular.SyntheticCommon

namespace DataForge.Plugins.Tabular.SyntheticSmote

open DataForge.Foundation.Strings
open DataForge.Foundation.Outcome
open DataForge.Foundation.Dictionary
open DataForge.Foundation.Json
open DataForge.Foundation.Numbers
open DataForge.Foundation.Features
open DataForge.Foundation.Scores
open DataForge.Foundation.Tables
open DataForge.Domain.Common
open DataForge.Domain.Splits
open DataForge.Plugins.Tabular.Sources
open DataForge.Plugins.Tabular.Splits
open DataForge.Plugins.Tabular.LeakageChecks hiding verifyAssignmentsMatchRows buildReport
open DataForge.Plugins.Tabular.SyntheticCommon

def smoteError (reasonCode message : String) (code : ErrorCode := .actionPlanPreconditionFailed) :
    Raised :=
  .reasoned "SmoteExecutionError" reasonCode code none message

def neverFeatureColumns : List Text :=
  ["object_id", "customer_id_hash", "case_id", "transaction_id", "document_id", "support_ticket_id",
    "manual_review_flag"].map String.toList ++ [isSyntheticColumn, sourceSplitColumn]

variable {F : Type}

/-- What `random.Random` draws. -/
structure Generator (F : Type) where
  State : Type
  seeded : Int → State
  randrange : Nat → State → Nat × State
  random : State → F × State
  randrange_lt : ∀ n s, 0 < n → (randrange n s).1 < n

theorem default_neighbors : 1 ≤ 5 := by decide

structure ExecuteSmoteAugmentationRequest (F : Type) [ScoreLike F] where
  stepType : Text
  methodId : Text
  config : Dict Text Value
  splitManifest : SplitManifest
  targetColumn : NonEmptyStr
  rareClassLabel : NonEmptyStr
  randomSeed : Int
  kNeighbors : { n : Nat // 1 ≤ n }
  samplingStrategy : { x :
    F // FloatLike.lt (FloatLike.ofInt 0) x = true ∧ ScoreLike.le x (FloatLike.ofInt 1) = true }
  sampleLineageLimit : Nat
  featureColumns : Option (List NonEmptyStr)

structure SyntheticSampleLineage (F : Type) where
  syntheticObjectId : Text
  seedObjectId : NonEmptyStr
  neighborObjectId : NonEmptyStr
  lambdaValue : F

structure SmoteReport (F : Type) where
  targetColumn : NonEmptyStr
  rareClassLabel : NonEmptyStr
  randomSeed : Int
  kNeighbors : Nat
  featureColumns : List Text
  excludedColumns : List Text
  realTotalCount : Nat
  realTrainCount : Nat
  realTrainRareCount : Nat
  targetCountAfterAugmentation : Int
  generatedCount : Nat
  sampleLineage : List (SyntheticSampleLineage F)
  sampleLineageTruncated : Bool
  fullSampleLineageCount : Nat

structure ExecuteSmoteAugmentationResult (F : Type) where
  report : SmoteReport F
  candidate : Table
  augmentedSplitManifest : SplitManifest

/-- The source split of a step's config is the training split, or not given. -/
def fromTrain (config : Dict Text Value) : Bool :=
  match get? "source_split".toList config with
  | none => true
  | some (.str split) => decide (split = DataSplit.train.value)
  | some _ => false

section Inputs

variable [FeatureLike F] (request : ExecuteSmoteAugmentationRequest F)

def validateStep : Result Unit := do
  guardOk (request.stepType = "AUGMENT_RARE_CLASS".toList)
    (smoteError "unsupported_action_step_type"
      "SMOTE executor only handles AUGMENT_RARE_CLASS steps.")
  guardOk (request.methodId = "smote".toList)
    (smoteError "unsupported_synthetic_method" "SMOTE executor only supports method=smote.")
  guardOk (fromTrain request.config)
    (smoteError "non_train_source_split"
      "SMOTE may only be fitted on the training split per PRD §11.10.")
  guardOk (request.splitManifest.targetColumn = request.targetColumn)
    (smoteError "target_column_mismatch_with_split_manifest"
      "Request target column does not match the split manifest target.")

def readSourceRows (t : Table) (targetColumn : NonEmptyStr) : Result (List IdentifiedRow) := do
  let rows ← readRows "SmoteExecutionError" "Target column is not present in source CSV."
    .invalidJobPayload t targetColumn
  pure (identifiedRows rows)

def verifyAssignmentsMatchRows (assignments : Assignments) (rows : List IdentifiedRow) :
    Result Unit :=
  guardOk (∀ item ∈ assignments, item.1 ∈ rows.map fun row => (objectId row).1)
    (smoteError "split_manifest_object_id_missing_in_source"
      "Split manifest references object_ids missing from the source CSV.")

def inTrain (row : IdentifiedRow) : Bool :=
  (get? (objectId row).1 (indexAssignments request.splitManifest)).any fun found =>
    decide (found.1 = .train)

def isRare (row : IdentifiedRow) : Bool :=
  decide (cell request.targetColumn.1 row.1 = request.rareClassLabel.1)

/-- The training rows of the rare class. -/
def trainRare (rows : List IdentifiedRow) : List IdentifiedRow :=
  rows.filter fun row => inTrain request row && isRare request row

def trainMajorityCount (rows : List IdentifiedRow) : Nat :=
  rows.countP fun row => inTrain request row && !isRare request row

def targetCountAfterAugmentation (rareCount majorityCount : Nat) (samplingStrategy : F) : Int :=
  max (rareCount : Int)
    (FloatLike.round (FloatLike.mul (FloatLike.ofInt majorityCount) samplingStrategy))

/-- The number of samples that the request asks for on these rows. -/
def generatedCount (rows : List IdentifiedRow) : Nat :=
  let rareCount := (trainRare request rows).length
  (targetCountAfterAugmentation rareCount (trainMajorityCount request rows)
    request.samplingStrategy.1 -
    rareCount).toNat

def isFeature (columns : List Text) (targetColumn : NonEmptyStr) (column : Text) : Bool :=
  decide (column ∈ columns ∧ column ≠ targetColumn.1 ∧ column ∉ neverFeatureColumns)

def resolveFeatureColumns (columns : List Text) (targetColumn : NonEmptyStr)
    (explicit : Option (List NonEmptyStr)) : List Text × List Text :=
  let candidates := (explicit.map fun listed => listed.map Subtype.val).getD columns
  (candidates.filter (isFeature columns targetColumn),
    (candidates.filter fun column => !isFeature columns targetColumn column).eraseDups)

def featureVector (columns : List Text) (row : IdentifiedRow) : List F :=
  columns.map fun column => (parseNumeric (cell column row.1)).getD (FloatLike.ofInt 0)

end Inputs

section Samples

variable [FeatureLike F] (gen : Generator F)

def squaredDifference (pair : F × F) : Result F :=
  match FeatureLike.square (FloatLike.sub pair.1 pair.2) with
  | some d => .ok d
  | none => .error (.plain "OverflowError" "(34, 'Numerical result out of range')")

def squaredDistance (a b : List F) : Result F := do
  let squares ← (a.zip b).mapM squaredDifference
  pure (FloatLike.sum squares)

def distancesFrom (vectors : List (List F)) (seedPos : Nat) : Result (List (F × Nat)) :=
  (vectors.zipIdx.filter fun item => item.2 ≠ seedPos).mapM fun item => do
    let d ← squaredDistance (vectors.getD seedPos []) item.1
    pure (d, item.2)

/-- One of the nearest `k`, or the seed itself where it is alone. -/
def pickNeighbor (vectors : List (List F)) (k seedPos : Nat) (s : gen.State) :
    Result (Nat × gen.State) := do
  let distances ← distancesFrom vectors seedPos
  let nearest := (distances.insertionSort fun a b => !scoreLt b a).take k
  if distances = [] then pure (seedPos, s)
  else
    let (i, s) := gen.randrange nearest.length s
    match nearest[i]? with
    | some (_, pos) => pure (pos, s)
    | none => .error (.plain "IndexError" "Cannot choose from an empty sequence")

/-- `txn_synth_` and the number of the sample. -/
def syntheticId (index : Nat) : Text := "txn_synth_".toList ++ zeroPadded 6 index

def interpolate (seedRow neighborRow : IdentifiedRow) (lambda : F) (row : Row) (column : Text) :
    Result Row :=
  match (parseNumeric (cell column seedRow.1) : Option F),
    parseNumeric (cell column neighborRow.1) with
  | some x, some y => do
    let text ← formatNumeric (FloatLike.add x (FloatLike.mul lambda (FloatLike.sub y x)))
    pure (set column text row)
  | _, _ => pure row

def buildSyntheticRow (seedRow neighborRow : IdentifiedRow) (featureColumns : List Text)
    (lambda : F)
    (targetColumn rareClassLabel : NonEmptyStr) (syntheticObjectId : Text) : Result Row := do
  let row ← featureColumns.foldlM (interpolate seedRow neighborRow lambda)
    (set targetColumn.1 rareClassLabel.1 (set objectIdColumn syntheticObjectId seedRow.1))
  pure (set sourceSplitColumn DataSplit.train.value (set isSyntheticColumn "1".toList row))

structure Sample (F : Type) where
  row : Row
  lineage : SyntheticSampleLineage F

variable (request : ExecuteSmoteAugmentationRequest F) (rare : List IdentifiedRow)
  (featureColumns : List Text)

def drawSample (index : Nat) (s : gen.State) : Result (Sample F × gen.State) := do
  let (seedPos, s) := gen.randrange rare.length s
  let (neighborPos, s) ← pickNeighbor gen (rare.map (featureVector featureColumns))
    (min request.kNeighbors.1 (rare.length - 1)) seedPos s
  let (lambda, s) := gen.random s
  match rare[seedPos]?, rare[neighborPos]? with
  | some seedRow, some neighborRow => do
    let row ← buildSyntheticRow seedRow neighborRow featureColumns lambda request.targetColumn
      request.rareClassLabel (syntheticId index)
    pure (⟨row,
      ⟨syntheticId index, objectId seedRow, objectId neighborRow, ScoreLike.roundTo 6 lambda⟩⟩, s)
  | _, _ => .error (.plain "IndexError" "list index out of range")

def drawSamples : List Nat → gen.State → Result (List (Sample F))
  | [], _ => .ok []
  | index :: indices, s => do
    let (sample, s) ← drawSample gen request rare featureColumns index s
    let samples ← drawSamples indices s
    pure (sample :: samples)

end Samples

section Execution

variable [FeatureLike F] (gen : Generator F) (request : ExecuteSmoteAugmentationRequest F)

def buildReport (columns : List Text) (rows : List IdentifiedRow) (samples : List (Sample F)) :
    SmoteReport F :=
  let rareCount := (trainRare request rows).length
  let (featureColumns, excludedColumns) :=
    resolveFeatureColumns columns request.targetColumn request.featureColumns
  { targetColumn := request.targetColumn
    rareClassLabel := request.rareClassLabel
    randomSeed := request.randomSeed
    kNeighbors := min request.kNeighbors.1 (rareCount - 1)
    featureColumns := featureColumns
    excludedColumns := excludedColumns
    realTotalCount := rows.length
    realTrainCount := rareCount + trainMajorityCount request rows
    realTrainRareCount := rareCount
    targetCountAfterAugmentation := targetCountAfterAugmentation rareCount
      (trainMajorityCount request rows) request.samplingStrategy.1
    generatedCount := samples.length
    sampleLineage := (samples.map Sample.lineage).take request.sampleLineageLimit
    sampleLineageTruncated := decide (request.sampleLineageLimit < samples.length)
    fullSampleLineageCount := samples.length }

def executeSmoteAugmentationAction (t : Table) : Result (ExecuteSmoteAugmentationResult F) := do
  validateStep request
  let rows ← readSourceRows t request.targetColumn
  verifyAssignmentsMatchRows (indexAssignments request.splitManifest) rows
  let rare := trainRare request rows
  guardOk (rare ≠ [])
    (smoteError "rare_class_absent_in_train_split"
      "SMOTE requires at least one rare-class row in the training split.")
  guardOk (2 ≤ rare.length)
    (smoteError "rare_class_too_small_for_neighbors"
      "SMOTE requires at least two rare-class rows in the training split to compute nearest neighbors.")
  let featureColumns :=
    (resolveFeatureColumns t.columns request.targetColumn request.featureColumns).1
  guardOk (featureColumns ≠ [])
    (smoteError "no_numeric_feature_columns" "SMOTE requires at least one numeric feature column.")
  let samples ← drawSamples gen request rare featureColumns
      (List.range (generatedCount request rows))
    (gen.seeded request.randomSeed)
  let syntheticRows := samples.map Sample.row
  let augmented ← buildAugmentedSplitManifest request.splitManifest syntheticRows
      request.targetColumn
    "smote"
  pure
    { report := buildReport request t.columns rows samples
      candidate := writeCandidateCsv (rows.map Subtype.val) syntheticRows
        (candidateDatasetColumns t.columns)
      augmentedSplitManifest := augmented }

end Execution

end DataForge.Plugins.Tabular.SyntheticSmote
