import DataForge.Domain.Splits
import DataForge.Foundation.Features
import DataForge.Foundation.Grouping
import DataForge.Plugins.Tabular.Sources

namespace DataForge.Plugins.Tabular.SyntheticCommon

open DataForge.Foundation.Strings
open DataForge.Foundation.Outcome
open DataForge.Foundation.Canonical
open DataForge.Foundation.Dictionary
open DataForge.Foundation.Grouping
open DataForge.Foundation.Numbers
open DataForge.Foundation.Features
open DataForge.Foundation.Scores
open DataForge.Foundation.Tables
open DataForge.Domain.Common
open DataForge.Domain.Splits
open DataForge.Plugins.Tabular.Sources

def isSyntheticColumn : Text := "is_synthetic".toList

def sourceSplitColumn : Text := "synthetic_source_split".toList

section Rows

def candidateDatasetColumns (columns : List Text) : List Text :=
  columns ++ [isSyntheticColumn, sourceSplitColumn].filter fun column => column ∉ columns

/-- A real row as the candidate shows it. -/
def materialized (columns : List Text) (row : Row) : Row :=
  let row := rowOf columns fun column => cell column row
  let row := if cell isSyntheticColumn row = [] then set isSyntheticColumn "0".toList row else row
  if contains sourceSplitColumn row then row else set sourceSplitColumn [] row

def writeCandidateCsv (rows syntheticRows : List Row) (columns : List Text) : Table :=
  Table.write columns (rows.map (materialized columns) ++
    syntheticRows.map fun row => rowOf columns fun column => cell column row)

variable {columns : List Text} {column : Text}

theorem mem_candidateDatasetColumns (h : column ∈ columns) :
    column ∈ candidateDatasetColumns columns :=
  List.mem_append_left _ h

theorem marker_mem_candidateDatasetColumns (h : column ∈ [isSyntheticColumn, sourceSplitColumn]) :
    column ∈ candidateDatasetColumns columns := by
  by_cases hmem : column ∈ columns
  · exact mem_candidateDatasetColumns hmem
  · exact List.mem_append_right _ (List.mem_filter.mpr ⟨h, decide_eq_true hmem⟩)

theorem nil_notMem_candidateDatasetColumns (h : [] ∉ columns) :
    [] ∉ candidateDatasetColumns columns := by
  intro hmem
  obtain hmem | hmem := List.mem_append.mp hmem
  · exact h hmem
  · exact absurd (List.mem_of_mem_filter hmem) (by decide)

theorem cell_materialized (h : column ∈ columns) (hsynthetic : column ≠ isSyntheticColumn)
    (hsource : column ≠ sourceSplitColumn) (row : Row) :
    cell column (materialized columns row) = cell column row := by
  rw [materialized]
  split <;> split <;> simp [cell_set_ne, hsynthetic.symm, hsource.symm, h]

theorem cell_flag_materialized (h : isSyntheticColumn ∈ columns) (row : Row) :
    cell isSyntheticColumn (materialized columns row) =
      if cell isSyntheticColumn row = [] then "0".toList else cell isSyntheticColumn row := by
  have hne : sourceSplitColumn ≠ isSyntheticColumn := by decide
  rw [materialized, cell_rowOf h]
  split <;> split <;> simp [cell_set_ne hne, h]

theorem cell_sourceSplit_materialized (h : sourceSplitColumn ∈ columns) (row : Row) :
    cell sourceSplitColumn (materialized columns row) = cell sourceSplitColumn row := by
  have hne : isSyntheticColumn ≠ sourceSplitColumn := by decide
  have hcontains : ∀ row' : Row, cell sourceSplitColumn row' = cell sourceSplitColumn row →
      cell sourceSplitColumn (if contains sourceSplitColumn row' then row'
        else set sourceSplitColumn [] row') = cell sourceSplitColumn row := by
    intro row' hrow'
    split
    · exact hrow'
    · next hnone =>
      rw [cell_set_self, ← hrow', cell]
      rw [contains, Bool.not_eq_true, Option.isSome_eq_false_iff,
        Option.isNone_iff_eq_none] at hnone
      rw [hnone, Option.getD_none]
  rw [materialized]
  apply hcontains
  split
  · rw [cell_set_ne hne, cell_rowOf h]
  · rw [cell_rowOf h]

end Rows

section Numbers

variable {F : Type} [FeatureLike F]

/-- A cell as a number; what compares with nothing is none. -/
def parseNumeric (value : Text) : Option F :=
  if value = [] then none else (MetricLike.parse value).filter fun x => FloatLike.beq x x

def truncateError (x : F) : Raised :=
  if MetricLike.isInf x then .plain "OverflowError" "cannot convert float infinity to integer"
  else .plain "ValueError" "cannot convert float NaN to integer"

def formatNumeric (x : F) : Result Text :=
  match FeatureLike.truncate x with
  | none => .error (truncateError x)
  | some n =>
    if FloatLike.beq x (FloatLike.ofInt n) then .ok (decimalText n)
    else
      let formatted := rstripBy (· == '.') (rstripBy (· == '0') (FeatureLike.fixed 6 x))
      .ok (if formatted = [] then "0".toList else formatted)

end Numbers

section Manifest

def syntheticLabel (targetColumn : NonEmptyStr) (row : Row) : NonEmptyStr :=
  if h : cell targetColumn.1 row ≠ [] then ⟨cell targetColumn.1 row, h⟩ else literal "0"

def syntheticAssignment (targetColumn : NonEmptyStr) (row : Row) : Result SplitAssignment :=
  if h : cell objectIdColumn row ≠ [] then
    .ok ⟨⟨cell objectIdColumn row, h⟩, .train, syntheticLabel targetColumn row, none⟩
  else .error (.validation "SplitAssignment" "object_id")

/-- The counts of the splits, where the training split has these labels more. -/
def augmentedDistribution (distribution : List SplitClassDistribution) (labels : List Text) :
    List SplitClassDistribution :=
  let labelCounts : Dict DataSplit (Dict Text Nat) :=
    update [] (distribution.map fun item => (item.split, item.classCounts))
  let totalCounts : Dict DataSplit Nat :=
    update [] (distribution.map fun item => (item.split, item.totalCount))
  let trainCounts :=
    addCounts ((get? .train labelCounts).getD []) (labels.map fun label => (label, 1))
  let labelCounts := set .train trainCounts labelCounts
  let totalCounts := set .train (countOf .train totalCounts + labels.length) totalCounts
  distribution.map fun item =>
    let counts := (get? item.split labelCounts).getD item.classCounts
    let total := (get? item.split totalCounts).getD item.totalCount
    { item with
      totalCount := total
      classCounts := sortedItems counts
      classRatios := sortedItems (counts.map fun count => (count.1, classRatio total count.2)) }

def augmentedId (manifest : SplitManifest) (method : String) (count : Nat) : Text :=
  manifest.splitManifestId ++ "_with_".toList ++ method.toList ++ '_' :: Nat.toDigits 10 count

def buildAugmentedSplitManifest (manifest : SplitManifest) (syntheticRows : List Row)
    (targetColumn : NonEmptyStr) (method : String) : Result SplitManifest :=
  if syntheticRows = [] then .ok manifest
  else do
    let added ← syntheticRows.mapM (syntheticAssignment targetColumn)
    pure
      { manifest with
        splitManifestId := augmentedId manifest method syntheticRows.length
        assignments := manifest.assignments ++ added
        classDistribution := augmentedDistribution manifest.classDistribution
          (added.map fun a => a.label.1) }

def assignmentIds (manifest : SplitManifest) : List Text :=
  manifest.assignments.map fun a => a.objectId.1

theorem exists_added {manifest augmented : SplitManifest} {syntheticRows : List Row}
    {targetColumn : NonEmptyStr} {method : String}
    (h : buildAugmentedSplitManifest manifest syntheticRows targetColumn method = .ok augmented) :
    ∃ added, augmented.assignments = manifest.assignments ++ added ∧
      added.map (fun a => a.objectId.1) = syntheticRows.map (cell objectIdColumn) ∧
      (∀ a ∈ added, a.split = .train) ∧
      augmented.groupKey = manifest.groupKey ∧ augmented.targetColumn = manifest.targetColumn := by
  rw [buildAugmentedSplitManifest] at h
  split at h
  · next hnone =>
    obtain rfl := Except.ok.inj h
    exact ⟨[], (List.append_nil _).symm, by rw [hnone]; rfl,
      fun a ha => absurd ha (by simp), rfl, rfl⟩
  · obtain ⟨added, hadded, h⟩ := bind_eq_ok.mp h
    obtain rfl := Except.ok.inj h
    have hrow : ∀ row a, syntheticAssignment targetColumn row = .ok a →
        a.objectId.1 = cell objectIdColumn row ∧ a.split = .train := by
      intro row a ha
      rw [syntheticAssignment] at ha
      split at ha
      · obtain rfl := Except.ok.inj ha
        exact ⟨rfl, rfl⟩
      · cases ha
    refine ⟨added, rfl, map_of_mapM (fun row a ha => (hrow row a ha).1) hadded,
      fun a ha => ?_, rfl, rfl⟩
    have hsplits : added.map SplitAssignment.split = syntheticRows.map fun _ => DataSplit.train :=
      map_of_mapM (fun row a ha => (hrow row a ha).2) hadded
    obtain ⟨row, -, hsplit⟩ := List.mem_map.mp (hsplits ▸ List.mem_map_of_mem ha)
    exact hsplit.symm

theorem assignmentIds_augmented {manifest augmented : SplitManifest} {syntheticRows : List Row}
    {targetColumn : NonEmptyStr} {method : String}
    (h : buildAugmentedSplitManifest manifest syntheticRows targetColumn method = .ok augmented) :
    assignmentIds augmented =
      assignmentIds manifest ++ syntheticRows.map (cell objectIdColumn) := by
  obtain ⟨added, hassignments, hids, -⟩ := exists_added h
  rw [assignmentIds, hassignments, List.map_append, hids, assignmentIds]

end Manifest

end DataForge.Plugins.Tabular.SyntheticCommon
