import DataForge.Kernel.ActionPlanPreview
import DataForge.Orchestration.Remediation
import DataForge.Plugins.Tabular.DuplicateChain
import DataForge.Plugins.Tabular.SplitCreation

namespace DataForge.Orchestration.RemediationSteps

open DataForge.Foundation.Strings
open DataForge.Foundation.Outcome
open DataForge.Foundation.Sha256
open DataForge.Foundation.Dictionary
open DataForge.Foundation.Json
open DataForge.Foundation.Features
open DataForge.Foundation.Numbers
open DataForge.Foundation.Scores
open DataForge.Foundation.Tables
open DataForge.Domain.Common
open DataForge.Domain.Decision
open DataForge.Domain.Splits
open DataForge.Domain.ValidationGates
open DataForge.Kernel.StableHash
open DataForge.Orchestration.Remediation
open DataForge.Plugins.Tabular.Splits
open DataForge.Plugins.Tabular.SplitCreation
open DataForge.Plugins.Tabular.Duplicates
open DataForge.Plugins.Tabular.DuplicateChain (defaultIdColumn)
open DataForge.Plugins.Tabular.SyntheticSmote

section Config

/-- A member of a config that is a text and not empty. -/
def textMember (key : String) (config : Dict Text Value) : Option NonEmptyStr :=
  match get? key.toList config with
  | some (.str (c :: s)) => some ⟨c :: s, List.cons_ne_nil c s⟩
  | _ => none

/-- The first step that configures a text decides for the whole plan. -/
def configText (key : String) (plan : ActionPlan) (default : NonEmptyStr) : NonEmptyStr :=
  (plan.steps.findSome? fun step => textMember key step.config).getD default

def targetColumn (plan : ActionPlan) : NonEmptyStr :=
  configText "target_column" plan (literal "is_fraud")

def rareClassLabel (plan : ActionPlan) : NonEmptyStr :=
  configText "rare_class_label" plan (literal "1")

/-- `seed or 42` -/
def seedOr42 (seed : Option Int) : Int := if seed.getD 0 = 0 then 42 else seed.getD 0

end Config

variable {F : Type} [FeatureLike F]

section Split

structure SplitStep where
  stepId : Text
  config : Dict Text Value
  randomSeed : Option Int

def splitStep (plan : ActionPlan) : SplitStep :=
  match plan.steps.find? fun step => decide (step.type.1 = "CREATE_SPLIT".toList) with
  | some step => ⟨step.stepId.1, step.config, step.randomSeed⟩
  | none =>
    { stepId := "create_split_for_apply".toList
      config := [("strategy".toList, .str "group_stratified".toList),
        ("target_column".toList, .str (targetColumn plan).1),
        ("group_key".toList, .str "customer_id_hash".toList)]
      randomSeed := some 42 }

def splitManifestId (plan : ActionPlan) (sourceHash : Sha256Digest) : Text :=
  prefixedId "split_manifest".toList (.obj [("prefix".toList, .str "split_manifest".toList),
    ("parts".toList, texts [plan.actionPlanId.1, (splitStep plan).stepId, sourceHash.1])])

def defaultSplitRatios : DataSplit → F
  | .train => ScoreLike.decimal 70 2
  | _ => ScoreLike.decimal 15 2

def createSplitForApply (shuffle : Int → Shuffle) (writer : Table → Bytes) (plan : ActionPlan)
    (t : Table) : Result SplitManifest :=
  let request : SplitRequest F :=
    { splitManifestId := splitManifestId plan (sha256Digest (writer t))
      targetColumn := targetColumn plan
      seed := seedOr42 (splitStep plan).randomSeed
      splitRatios := defaultSplitRatios }
  executeTabularSplitAction shuffle request (splitStep plan).config t

end Split

section Smote

def kNeighbors (config : Dict Text Value) : Result { n : Nat // 1 ≤ n } :=
  match ((get? "k_neighbors".toList config).map (intOf F)).getD (some 3) with
  | none => .error (.plain "ValueError" "invalid literal for int()")
  | some n =>
    if h : 1 ≤ n.toNat then .ok ⟨n.toNat, h⟩
    else .error (.validation "ExecuteSmoteAugmentationRequest" "k_neighbors")

def samplingStrategy (config : Dict Text Value) :
    Result { x : F // FloatLike.lt (FloatLike.ofInt 0) x = true ∧
      ScoreLike.le x (FloatLike.ofInt 1) = true } :=
  match ((get? "sampling_strategy".toList config).map floatOf).getD
    (some (ScoreLike.decimal 20 2)) with
  | none => .error (.plain "ValueError" "could not convert string to float")
  | some x =>
    if h : FloatLike.lt (FloatLike.ofInt 0) x = true ∧
      ScoreLike.le x (FloatLike.ofInt 1) = true then
      .ok ⟨x, h⟩
    else .error (.validation "ExecuteSmoteAugmentationRequest" "sampling_strategy")

def smoteRequest (plan : ActionPlan) (step : ActionPlanStep) (manifest : SplitManifest) :
    Result (ExecuteSmoteAugmentationRequest F) := do
  let k ← kNeighbors (F := F) step.config
  let strategy ← samplingStrategy step.config
  pure
    { stepType := step.type.1
      methodId := step.methodId.1
      config := step.config
      splitManifest := manifest
      targetColumn := targetColumn plan
      rareClassLabel := rareClassLabel plan
      randomSeed := seedOr42 step.randomSeed
      kNeighbors := k
      samplingStrategy := strategy
      sampleLineageLimit := 25
      featureColumns := none }

def smoteForApply (gen : Generator F) (plan : ActionPlan) (step : ActionPlanStep)
    (manifest : SplitManifest) (t : Table) : Result (ExecuteSmoteAugmentationResult F) := do
  let request ← smoteRequest plan step manifest
  executeSmoteAugmentationAction gen request t

end Smote

def duplicatesForApply (writer : Table → Bytes) (_ : ActionPlan) (step : ActionPlanStep)
    (t : Table) :
    Result Table := do
  let result ← executeTabularDuplicatesAction
    ⟨step.type.1, sha256Digest (writer t), defaultIdColumn, none⟩ ⟨writer t, .ok t⟩
  pure result.candidate

/-- The surroundings of a run: its source, the generators behind a seed, how tables are
written, and the executors that are not embedded. -/
structure Surroundings (F : Type) where
  source : Result Table
  gen : Generator F
  shuffle : Int → Shuffle
  writer : Table → Bytes
  impute : ActionPlan → ActionPlanStep → Table → Result Table
  gates : ActionPlan → Table → Table → Option SplitManifest → Option (SmoteReport F) →
    Result ValidationGatesReport

/-- The executors of the runtime. -/
def executors (env : Surroundings F) : Executors F where
  source := env.source
  impute := env.impute
  duplicates := duplicatesForApply env.writer
  createSplit := createSplitForApply (F := F) env.shuffle env.writer
  smote := smoteForApply env.gen
  gates := env.gates

end DataForge.Orchestration.RemediationSteps
