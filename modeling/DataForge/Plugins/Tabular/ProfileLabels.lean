import DataForge.Domain.ImpactEligibility
import DataForge.Plugins.Tabular.ProfileInference

namespace DataForge.Plugins.Tabular.ProfileLabels

open DataForge.Foundation.Strings
open DataForge.Foundation.Outcome
open DataForge.Foundation.Dictionary
open DataForge.Foundation.Canonical
open DataForge.Foundation.Grouping
open DataForge.Foundation.Tables
open DataForge.Domain.Common
open DataForge.Domain.ImpactEligibility
open DataForge.Plugins.Tabular.ProfileInference (selectTargetColumn targetColumnNames)

/-- The labels of the rows that have one. -/
def labels (rows : List Row) (targetColumn : NonEmptyStr) : List NonEmptyStr :=
  rows.filterMap fun row => nonEmpty (cell targetColumn.1 row)

/-- `_build_class_imbalance_diagnostics`, as far as it counts. -/
def buildClassImbalanceDiagnostics (rows : List Row) :
    Option NonEmptyStr → Option ClassImbalanceDiagnostics
  | none => none
  | some targetColumn =>
    let counts := counter (labels rows targetColumn)
    match counts.insertionSort fun a b => a.2 < b.2 ∨ (a.2 = b.2 ∧ a.1 ≤ b.1) with
    | [] => none
    | rare :: _ => some
      { totalSamples := (counts.map Prod.snd).sum
        classCounts := (sortedItems counts).map fun entry => ⟨entry.1, entry.2⟩
        rareClassLabel := rare.1 }

def missingTargetCount (rows : List Row) (targetColumn : NonEmptyStr) : Nat :=
  rows.countP fun row => cell targetColumn.1 row = []

/-- `infer_tabular_profile`, as far as the check of the eligibility reads its report. -/
def inferTabularProfile (rows : List Row) (columns : List NonEmptyStr) :
    Result TabularProfileReport := do
  guardOk (columns ≠ []) (.plain "ValueError" "tabular profile requires at least one column")
  let targetColumn := selectTargetColumn columns
  pure
    { targetColumn := targetColumn.map Subtype.val
      missingness :=
        some ⟨targetColumn.any fun column => decide (0 < missingTargetCount rows column)⟩
      classImbalance := buildClassImbalanceDiagnostics rows targetColumn }

variable {rows : List Row} {columns : List NonEmptyStr} {profile : TabularProfileReport}
  {targetColumn : NonEmptyStr}

theorem inferTabularProfile_eq_ok (h : inferTabularProfile rows columns = .ok profile) :
    profile.targetColumn = (selectTargetColumn columns).map Subtype.val ∧
      profile.missingness = some ⟨(selectTargetColumn columns).any fun column =>
        decide (0 < missingTargetCount rows column)⟩ := by
  obtain ⟨-, h⟩ := check_bind_eq_ok.mp h
  obtain rfl := Except.ok.inj h
  exact ⟨rfl, rfl⟩

theorem missingTargetCount_eq_zero : missingTargetCount rows targetColumn = 0 ↔
    ∀ row ∈ rows, cell targetColumn.1 row ≠ [] := by
  rw [missingTargetCount, List.countP_eq_zero]
  exact forall₂_congr fun row _ => by rw [decide_eq_true_iff]

/-- A column that the profile takes for the target is not the column of the ids. -/
theorem ne_of_selectTargetColumn {name : Text}
    (hname : ∀ target ∈ targetColumnNames, target.1 ≠ name)
    (h : selectTargetColumn columns = some targetColumn) : targetColumn.1 ≠ name :=
  hname targetColumn (List.mem_of_find?_eq_some h)

end DataForge.Plugins.Tabular.ProfileLabels
