import DataForge.Foundation.Triples
import DataForge.Kernel.ModelImpact
import DataForge.Orchestration.RemediationSteps

namespace DataForge.Orchestration.ModelImpactStage

open DataForge.Foundation.Strings
open DataForge.Foundation.Outcome
open DataForge.Foundation.Dictionary
open DataForge.Foundation.Features
open DataForge.Foundation.Scores
open DataForge.Foundation.Tables
open DataForge.Foundation.Triples
open DataForge.Domain.Common
open DataForge.Domain.Decision
open DataForge.Domain.Splits
open DataForge.Domain.ValidationGates
open DataForge.Kernel.ModelImpact
open DataForge.Orchestration.Remediation
open DataForge.Orchestration.RemediationSteps
open DataForge.Plugins.Tabular.Sources

variable {F : Type} [FeatureLike F]

section Columns

/-- The value of a line; none where the line is too short. -/
def rawValue (t : Table) (values : List Text) (column : Text) : Option Text :=
  (get? column (update [] (t.header.mapIdx fun i name => (name, values[i]?)))).getD (some [])

def excludedColumns (targetColumn : NonEmptyStr) : List Text :=
  ["object_id", "customer_id_hash", "case_id", "is_synthetic", "synthetic_source_split"].map
    String.toList ++ [targetColumn.1]

def isFloat (F : Type) [FeatureLike F] (value : Text) : Bool :=
  (MetricLike.parse value : Option F).isSome

/-- A column that has values, each of them a number. -/
def isNumericColumn (F : Type) [FeatureLike F] (t : Table) (column : Text) : Bool :=
  let values :=
    ((t.lines.filter (· ≠ [])).map fun line => rawValue t line column).filter (· ≠ some [])
  decide (values ≠ []) && values.all fun value => value.any (isFloat F)

def numericFeatureColumns (F : Type) [FeatureLike F] (t : Table) (targetColumn : NonEmptyStr) :
    List Text :=
  t.header.filter fun column => decide (column ∉ excludedColumns targetColumn) &&
    !("_was_missing".toList).isSuffixOf column && isNumericColumn F t column

end Columns

/-- A run's state up to its final outputs. -/
structure ImpactState (F : Type) where
  remediation : ApplyExecutionState F
  modelImpactReport : Option (ModelImpactReport F)

abbrev ImpactRun (F α : Type) := Effect Raised (ImpactState F) α

section Stage

variable (fit : Learner F) (ex : Executors F) (plan : ActionPlan) (requireEligibility : Bool)

def onRemediation {α : Type} (m : Run F α) : ImpactRun F α := fun s =>
  ((m.run s.remediation).1, { s with remediation := (m.run s.remediation).2 })

/-- The first step with a seed decides. -/
def randomSeed (plan : ActionPlan) : Int := (plan.steps.findSome? ActionPlanStep.randomSeed).getD 42

/-- The request to the model impact runner, with the thresholds that it has by default. -/
def impactRequest (plan : ActionPlan) (source candidate : Table)
    (split candidateSplit : SplitManifest)
    (candidateIsSynthetic : Bool) (gates : ValidationGatesReport)
    (featureColumns : { columns : List NonEmptyStr // columns ≠ [] }) :
    RunModelImpactRequest F where
  sourceArtifact := source
  candidateArtifact := candidate
  sourceSplitManifest := split
  candidateSplitManifest := candidateSplit
  featureColumns := featureColumns
  targetColumn := targetColumn plan
  rareClassLabel := rareClassLabel plan
  candidateIsSynthetic := candidateIsSynthetic
  validationGatesBlockerPresent := gates.blockerPresent
  randomSeed := randomSeed plan
  tstrMacroF1Threshold := ScoreLike.decimal 10 2
  trtsUnstableThreshold := ScoreLike.decimal 20 2
  degradedDrops := ⟨ScoreLike.decimal 5 2, ScoreLike.decimal 3 2, ScoreLike.decimal 3 2,
    ScoreLike.decimal 3 2⟩

def runImpact (source candidate : Table) (gates : ValidationGatesReport) : ImpactRun F Unit := do
  let split ← onRemediation (ensureSplitManifest ex plan source)
  let state ← Effect.get
  let featureColumns ← Effect.lift ((numericFeatureColumns F candidate (targetColumn plan)).mapM
    (field "RunModelImpactRequest" "feature_columns"))
  if h : featureColumns ≠ [] then do
    let report ← Effect.lift (runModelImpact fit (impactRequest plan source candidate split
      (state.remediation.splitManifest.getD split)
        state.remediation.syntheticDatasetReport.isSome gates
      ⟨featureColumns, h⟩))
    Effect.modify fun state => { state with modelImpactReport := some report }
  else pure ()

def ensureCandidate : ImpactRun F Unit := do
  let state ← Effect.get
  match state.remediation.primaryCandidateArtifact with
  | some _ => pure ()
  | none => do
    let _ ← onRemediation (executeRemediationPlan ex plan)
    pure ()

/-- A failure of the model impact counts where the package requires it. -/
def onImpactFailure (e : Raised) : ImpactRun F Unit :=
  if requireEligibility then Effect.raise e else pure ()

def ensureModelImpactReport : ImpactRun F Unit := do
  let state ← Effect.get
  match state.modelImpactReport with
  | some _ => pure ()
  | none => do
    ensureCandidate ex plan
    let state ← Effect.get
    match state.remediation.sourceArtifact, state.remediation.primaryCandidateArtifact,
      state.remediation.validationGatesReport with
    | some source, some candidate, some gates =>
      Effect.tryCatch (runImpact fit ex plan source candidate gates)
        (onImpactFailure requireEligibility)
    | _, _, _ => pure ()

end Stage

section Reports

variable {fit : Learner F} {ex : Executors F} {plan : ActionPlan} {requireEligibility : Bool}
  {report : ValidationGatesReport}

/-- The gates have reported. -/
def Reported (report : ValidationGatesReport) (s : ApplyExecutionState F) : Prop :=
  s.validationGatesReport = some report

theorem preserves_ensureSplitManifest (t : Table) :
    Preserves (Reported report) (ensureSplitManifest ex plan t) := by
  refine preserves_get_bind fun s _ => ?_
  split
  · exact preserves_pure
  · refine preserves_bind preserves_lift fun manifest => ?_
    exact preserves_bind (preserves_modify fun s hs => hs) fun _ => preserves_pure

theorem preserves_executeStep (step : ActionPlanStep) (t : Table) :
    Preserves (Reported report) (executeStep ex plan step t) := by
  rw [executeStep]
  split_ifs
  · exact preserves_lift
  · exact preserves_lift
  · refine preserves_bind (preserves_ensureSplitManifest t) fun manifest => ?_
    refine preserves_bind preserves_lift fun result => ?_
    exact preserves_bind (preserves_modify fun s hs => hs) fun _ => preserves_pure
  · exact preserves_raise

theorem preserves_executeSteps (steps : List ActionPlanStep) (t : Table) :
    Preserves (Reported report) (executeSteps ex plan steps t) := by
  induction steps generalizing t with
  | nil => exact preserves_pure
  | cons step steps ih =>
    refine preserves_bind (preserves_executeStep step t) fun candidate => ?_
    exact preserves_bind (preserves_modify fun s hs => hs) fun _ => ih candidate

/-- The gates run once. -/
theorem preserves_runValidationGates :
    Preserves (Reported report) (runValidationGates ex plan) := by
  refine preserves_get_bind fun s hs => ?_
  rw [Reported] at hs
  rw [hs]
  exact preserves_pure

theorem preserves_executeRemediationPlan :
    Preserves (Reported report) (executeRemediationPlan ex plan) := by
  refine preserves_get_bind fun s _ => ?_
  split
  · exact preserves_pure
  · have hsource : Preserves (Reported report) (resolveSourceArtifact ex) := by
      refine preserves_get_bind fun s _ => ?_
      split
      · exact preserves_pure
      · refine preserves_bind preserves_lift fun source => ?_
        exact preserves_bind (preserves_modify fun s hs => hs) fun _ => preserves_pure
    refine preserves_bind hsource fun source => ?_
    refine preserves_bind (preserves_executeSteps plan.steps source) fun _ => ?_
    refine preserves_get_bind fun s _ => ?_
    split
    · exact preserves_raise
    · refine preserves_bind preserves_runValidationGates fun gates => ?_
      exact preserves_bind (preserves_modify fun s hs => hs) fun _ => preserves_pure

theorem preserves_onRemediation {α : Type} {m : Run F α} (h : Preserves (Reported report) m) :
    Preserves (fun s : ImpactState F => Reported report s.remediation) (onRemediation m) :=
  preserves_part (fun s t => { s with remediation := t }) (fun _ => rfl) h (fun _ hs => hs)
    fun _ _ _ ht => ht

theorem preserves_ensureCandidate :
    Preserves (fun s : ImpactState F => Reported report s.remediation)
      (ensureCandidate ex plan) := by
  refine preserves_get_bind fun s _ => ?_
  split
  · exact preserves_pure
  · exact preserves_bind (preserves_onRemediation preserves_executeRemediationPlan) fun _ =>
      preserves_pure

theorem preserves_ensureModelImpactReport :
    Preserves (fun s : ImpactState F => Reported report s.remediation)
      (ensureModelImpactReport fit ex plan requireEligibility) := by
  refine preserves_get_bind fun s _ => ?_
  split
  · exact preserves_pure
  refine preserves_bind preserves_ensureCandidate fun _ => preserves_get_bind fun s _ => ?_
  split
  · refine preserves_tryCatch ?_ fun e => ?_
    · refine preserves_bind (preserves_onRemediation (preserves_ensureSplitManifest _))
        fun split => ?_
      refine preserves_get_bind fun s _ => preserves_bind preserves_lift fun columns => ?_
      split
      · refine preserves_bind preserves_lift fun report => ?_
        exact preserves_modify fun s hs => hs
      · exact preserves_pure
    · rw [onImpactFailure]
      split
      · exact preserves_raise
      · exact preserves_pure
  · exact preserves_pure

end Reports

end DataForge.Orchestration.ModelImpactStage
