import DataForge.Foundation.Failures
import DataForge.Foundation.Features
import DataForge.Kernel.ModelImpact

namespace DataForge.Kernel.ImpactTraining

open DataForge.Foundation.Strings
open DataForge.Foundation.Outcome
open DataForge.Foundation.Failures
open DataForge.Foundation.Canonical
open DataForge.Foundation.Numbers
open DataForge.Foundation.Scores
open DataForge.Foundation.Features
open DataForge.Foundation.Tables
open DataForge.Domain.Common
open DataForge.Kernel.ModelImpact
open DataForge.Plugins.Tabular.Sources
open FloatLike MetricLike

/-- Floats of which the finite ones are told, zero among them. -/
class FiniteLike (F : Type) extends FeatureLike F where
  isFinite : F → Bool
  isFinite_zero : isFinite (ofInt 0) = true

/-- The numbers that no double reaches stand for those that are not finite. -/
instance : FiniteLike ℚ where
  isFinite x := decide (|x| < 2 ^ 1024)
  isFinite_zero := by decide +kernel

open FiniteLike

variable {F : Type} [FiniteLike F]

section Matrix

/-- `float(raw)`, with zero for an empty cell and for one that cannot be read. -/
def featureValue (F : Type) [FiniteLike F] (raw : Text) : F :=
  if raw = [] then ofInt 0 else (parse raw).getD (ofInt 0)

def toXy (F : Type) [FiniteLike F] (featureColumns : List NonEmptyStr) (targetColumn : NonEmptyStr)
    (rows : List IdentifiedRow) : List (List F × Text) :=
  rows.map fun row =>
    (featureColumns.map fun column => featureValue F (cell column.1 row.1),
      cell targetColumn.1 row.1)

def FiniteMatrix (matrix : List (List F)) : Prop :=
  ∀ vector ∈ matrix, ∀ x ∈ vector, isFinite x = true

/-- The cell is not a number that is infinite or none. -/
def ReadsFinite (F : Type) [FiniteLike F] (raw : Text) : Prop :=
  raw ≠ [] → ∀ x : F, parse raw = some x → isFinite x = true

theorem isFinite_featureValue {raw : Text} :
    isFinite (featureValue F raw) = true ↔ ReadsFinite F raw := by
  rw [featureValue, ReadsFinite]
  by_cases hraw : raw = []
  · rw [if_pos hraw]
    exact iff_of_true isFinite_zero fun hne => absurd hraw hne
  · rw [if_neg hraw]
    cases hparse : (parse raw : Option F) with
    | none => exact iff_of_true isFinite_zero fun _ x hx => nomatch hx
    | some value => simp [hraw]

theorem finiteMatrix_toXy {featureColumns : List NonEmptyStr} (targetColumn : NonEmptyStr)
    {rows : List IdentifiedRow} :
    FiniteMatrix ((toXy F featureColumns targetColumn rows).map Prod.fst) ↔
      ∀ row ∈ rows, ∀ column ∈ featureColumns, ReadsFinite F (cell column.1 row.1) := by
  rw [FiniteMatrix, toXy, List.map_map, List.forall_mem_map]
  refine forall₂_congr fun row _ => ?_
  change (∀ x ∈ featureColumns.map _, _) ↔ _
  rw [List.forall_mem_map]
  exact forall₂_congr fun column _ => isFinite_featureValue

end Matrix

section Learner

/-- The labels that are predicted, and the probabilities of the rare class where it is known. -/
structure Predictions (F : Type) where
  labels : List Text
  rareProba : Option (List F)

/-- A classifier with its seed: fitted on labelled vectors, it predicts the labels of others. -/
abbrev Classifier (F : Type) := Int → List (List F × Text) → List (List F) → Result (Predictions F)

abbrev Scorer (F : Type) := NonEmptyStr → List Text → Predictions F → ClassificationMetrics F

/-- The rest of the evaluation, once the rows are there: the classifier is fitted and scored, and the
confusion matrix takes labels only that are not empty. -/
def fitAndScore (fit : Classifier F) (score : Scorer F) : Learner F :=
  fun request trainRows testRows => do
  let train := toXy F request.featureColumns.1 request.targetColumn trainRows
  let test := toXy F request.featureColumns.1 request.targetColumn testRows
  let predictions ← fit request.randomSeed train (test.map Prod.fst)
  let _ ← (sortedSet (test.map Prod.snd ++ predictions.labels)).mapM fun label =>
    (field "ConfusionMatrixCell" "true_label" label : Result NonEmptyStr)
  pure (score request.rareClassLabel (test.map Prod.snd) predictions)

/-- What is documented of the classifier: it fits finite vectors of two classes, rejects others, and
predicts labels that it was fitted on. -/
structure Documented (fit : Classifier F) : Prop where
  fits : ∀ seed train test, 2 ≤ (train.map Prod.snd).dedup.length → test ≠ [] →
    FiniteMatrix (train.map Prod.fst) → FiniteMatrix test → ∃ predictions, fit seed train test =
      .ok predictions
  rejects : ∀ seed train test, (∃ predictions, fit seed train test = .ok predictions) →
    FiniteMatrix (train.map Prod.fst) ∧ FiniteMatrix test
  known : ∀ seed train test predictions, fit seed train test = .ok predictions →
    ∀ label ∈ predictions.labels, label ∈ train.map Prod.snd

variable {fit : Classifier F} {score : Scorer F} {request : RunModelImpactRequest F}
  {trainRows testRows : List IdentifiedRow}

theorem map_snd_toXy {featureColumns : List NonEmptyStr} {targetColumn : NonEmptyStr}
    {rows : List IdentifiedRow} : (toXy F featureColumns targetColumn rows).map Prod.snd =
      rows.map fun row => cell targetColumn.1 row.1 := by
  rw [toXy, List.map_map]
  rfl

/-- The rows have a label in the target column. -/
def Labelled (targetColumn : NonEmptyStr) (rows : List IdentifiedRow) : Prop :=
  ∀ row ∈ rows, cell targetColumn.1 row.1 ≠ []

theorem exists_fitAndScore_iff (hfit : Documented fit)
    (hclasses : 2 ≤ (trainRows.map fun row => cell request.targetColumn.1 row.1).dedup.length)
    (htest : testRows ≠ []) (htrainLabels : Labelled request.targetColumn trainRows)
    (htestLabels : Labelled request.targetColumn testRows) :
    (∃ metrics, fitAndScore fit score request trainRows testRows = .ok metrics) ↔
      ∀ row ∈ trainRows ++ testRows, ∀ column ∈ request.featureColumns.1,
        ReadsFinite F (cell column.1 row.1) := by
  rw [List.forall_mem_append, ← finiteMatrix_toXy request.targetColumn,
    ← finiteMatrix_toXy request.targetColumn]
  constructor
  · rintro ⟨metrics, h⟩
    obtain ⟨predictions, hpredictions, -⟩ := bind_eq_ok.mp h
    exact hfit.rejects _ _ _ ⟨predictions, hpredictions⟩
  · rintro ⟨htrain, hfinite⟩
    rw [← map_snd_toXy (F := F)] at hclasses
    have hmatrix :
        (toXy F request.featureColumns.1 request.targetColumn testRows).map Prod.fst ≠ [] := by
      rw [toXy, List.map_map, ne_eq, List.map_eq_nil_iff]
      exact htest
    obtain ⟨predictions, hpredictions⟩ :=
      hfit.fits request.randomSeed _ _ hclasses hmatrix htrain hfinite
    have hlabels :
        ∀ label ∈ sortedSet ((toXy F request.featureColumns.1 request.targetColumn testRows).map
        Prod.snd ++ predictions.labels), ∃ checked,
        (field "ConfusionMatrixCell" "true_label" label : Result NonEmptyStr) = .ok checked := by
      intro label hlabel
      have hne : label ≠ [] := by
        rw [mem_sortedSet, List.mem_append, map_snd_toXy] at hlabel
        obtain hlabel | hlabel := hlabel
        · obtain ⟨row, hrow, rfl⟩ := List.mem_map.mp hlabel
          exact htestLabels row hrow
        · have hknown := hfit.known _ _ _ _ hpredictions label hlabel
          rw [map_snd_toXy] at hknown
          obtain ⟨row, hrow, rfl⟩ := List.mem_map.mp hknown
          exact htrainLabels row hrow
      exact ⟨⟨label, hne⟩, field_eq_ok.mpr rfl⟩
    obtain ⟨checked, hchecked⟩ := exists_mapM_ok hlabels
    rw [fitAndScore]
    simp only [hpredictions, ok_bind, hchecked]
    exact ⟨_, rfl⟩

/-- The metrics are available exactly where there are rows on both sides, of two classes to train on,
and none of their features reads as a number that is not finite. -/
theorem available_iff (hfit : Documented fit)
    (htrainLabels : Labelled request.targetColumn trainRows)
    (htestLabels : Labelled request.targetColumn testRows) :
    (∃ metrics,
      trainAndEvaluate (fitAndScore fit score) request trainRows testRows = .ok (.ok metrics)) ↔
      testRows ≠ [] ∧ 2 ≤
        (trainRows.map fun row => cell request.targetColumn.1 row.1).dedup.length ∧
        ∀ row ∈ trainRows ++ testRows, ∀ column ∈ request.featureColumns.1,
          ReadsFinite F (cell column.1 row.1) := by
  rw [trainAndEvaluate]
  by_cases htrain : trainRows = []
  · rw [if_pos htrain, htrain]
    simp
  · rw [if_neg htrain]
    by_cases htest : testRows = []
    · rw [if_pos htest]
      simp [htest]
    · rw [if_neg htest, and_iff_right htest]
      by_cases hclasses :
        (trainRows.map fun row => cell request.targetColumn.1 row.1).dedup.length < 2
      · rw [if_pos hclasses]
        exact iff_of_false (by simp) fun h => absurd h.1 (not_le.mpr hclasses)
      · have hscored :
            (∃ metrics, fitAndScore fit score request trainRows testRows = .ok metrics) ↔ _ :=
          exists_fitAndScore_iff hfit (not_lt.mp hclasses) htest htrainLabels htestLabels
        rw [if_neg hclasses, and_iff_right (not_lt.mp hclasses), ← hscored]
        constructor
        · rintro ⟨metrics, h⟩
          obtain ⟨found, hfound, -⟩ := bind_eq_ok.mp h
          exact ⟨found, hfound⟩
        · rintro ⟨metrics, h⟩
          rw [h]
          exact ⟨metrics, rfl⟩

end Learner

end DataForge.Kernel.ImpactTraining
