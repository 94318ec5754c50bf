import DataForge.Foundation.Json
import DataForge.Plugins.Tabular.Sources
import DataForge.Plugins.Tabular.SplitFidelity

namespace DataForge.Plugins.Tabular.SplitCreation

open DataForge.Foundation.Strings
open DataForge.Foundation.Outcome
open DataForge.Foundation.Canonical
open DataForge.Foundation.Dictionary
open DataForge.Foundation.Grouping
open DataForge.Foundation.Json
open DataForge.Foundation.Numbers
open DataForge.Foundation.Tables
open DataForge.Domain.Common
open DataForge.Domain.Splits
open DataForge.Plugins.Tabular.Sources
open DataForge.Plugins.Tabular.Splits
open DataForge.Plugins.Tabular.SplitFidelity

def splitError (reasonCode message : String) : Raised :=
  .reasoned "SplitCreationError" reasonCode .actionPlanPreconditionFailed none message

def readSplitRows : Table → NonEmptyStr → Result (List Row) :=
  readRows "SplitCreationError" "Split target column is not present in source CSV."
    .actionPlanPreconditionFailed

def defaultGroupKeyCandidates : List NonEmptyStr := [literal "customer_id_hash", literal "case_id"]

def resolveGroupKey (config : Dict Text Value) (columns : List Text) :
    Result (Option NonEmptyStr) :=
  let notFound : Raised := splitError "group_key_not_found"
    "Configured group_key is not present in source CSV."
  match get? "group_key".toList config with
  | none | some .null =>
    .ok (defaultGroupKeyCandidates.find? fun candidate => candidate.1 ∈ columns)
  | some (.str (c :: key)) =>
    if c :: key ∈ columns then .ok (some ⟨c :: key, List.cons_ne_nil c key⟩) else .error notFound
  | some _ => .error notFound

/-- The value of the group column, where there is one that is not empty. -/
def rowGroup (groupKey : Option NonEmptyStr) (row : Row) : Option Text :=
  groupKey.bind fun key => if cell key.1 row = [] then none else some (cell key.1 row)

def toTabularRow (targetColumn : NonEmptyStr) (groupKey : Option NonEmptyStr) (item : Row × Nat) :
    Result TabularRow :=
  if h : cell targetColumn.1 item.1 ≠ [] then
    .ok ⟨effectiveId item.2 item.1, ⟨cell targetColumn.1 item.1, h⟩, rowGroup groupKey item.1⟩
  else .error (splitError "missing_target_label"
    "Supervised split creation requires non-empty target labels.")

def toTabularRows (rows : List Row) (targetColumn : NonEmptyStr) (groupKey : Option NonEmptyStr) :
    Result (List TabularRow) :=
  rows.zipIdx.mapM (toTabularRow targetColumn groupKey)

def classDistribution (assignments : List SplitAssignment) : List SplitClassDistribution :=
  splitOrder.map fun split =>
    let labels :=
      (assignments.filter fun assignment => assignment.split = split).map fun assignment =>
      assignment.label.1
    ⟨split, labels.length, sortedItems (counter labels),
      (sortedItems (counter labels)).map fun item => (item.1, classRatio labels.length item.2)⟩

structure SplitRequest (F : Type) where
  splitManifestId : Text
  targetColumn : NonEmptyStr
  seed : Int
  splitRatios : DataSplit → F

/-- The split of a table under a group key; `shuffle` is what the generator makes of
each seed. -/
def createSplit {F : Type} [FloatLike F] (shuffle : Int → Shuffle) (request : SplitRequest F)
    (t : Table) (groupKey : Option NonEmptyStr) : Result SplitManifest := do
  let rows ← readSplitRows t request.targetColumn
  let tabularRows ← toTabularRows rows request.targetColumn groupKey
  let assignments ← assignSplits (shuffle request.seed) tabularRows request.splitRatios
  pure
    { splitManifestId := request.splitManifestId
      targetColumn := request.targetColumn
      seed := request.seed
      groupKey := groupKey
      assignments := assignments
      classDistribution := classDistribution assignments }

/-- The strategy of a split step is the one that is supported, or not given. -/
def supportedStrategy (config : Dict Text Value) : Bool :=
  match get? "strategy".toList config with
  | none => true
  | some (.str strategy) => decide (strategy = "group_stratified".toList)
  | some _ => false

def executeTabularSplitAction {F : Type} [FloatLike F] (shuffle : Int → Shuffle)
    (request : SplitRequest F) (config : Dict Text Value) (t : Table) : Result SplitManifest := do
  guardOk (supportedStrategy config)
    (splitError "unsupported_split_strategy" "MVP split creation supports group_stratified only.")
  let _ ← readSplitRows t request.targetColumn
  let groupKey ← resolveGroupKey config t.columns
  createSplit shuffle request t groupKey

section Spec

variable {F : Type} [FloatLike F]

theorem toTabularRow_eq_ok {targetColumn : NonEmptyStr} {groupKey : Option NonEmptyStr}
    {item : Row × Nat} {row : TabularRow} (h : toTabularRow targetColumn groupKey item = .ok row) :
    row.objectId = effectiveId item.2 item.1 ∧ row.groupValue = rowGroup groupKey item.1 := by
  rw [toTabularRow] at h
  split at h
  · obtain rfl := Except.ok.inj h
    exact ⟨rfl, rfl⟩
  · cases h

/-- What an assignment says of its row: the id, the split and the group. -/
def placed (splitOf : Option Text → DataSplit) (groupKey : Option NonEmptyStr) (item : Row × Nat) :
    NonEmptyStr × DataSplit × Option Text :=
  (effectiveId item.2 item.1, splitOf (rowGroup groupKey item.1), rowGroup groupKey item.1)

/-- The group value of a row decides its split. -/
theorem createSplit_spec {shuffle : Int → Shuffle} {request : SplitRequest F} {t : Table}
    {groupKey : Option NonEmptyStr} {manifest : SplitManifest}
    (h : createSplit shuffle request t groupKey = .ok manifest) :
    (t.columns ≠ [] ∧ manifest.targetColumn.1 ∈ t.columns ∧ t.records ≠ []) ∧
      manifest.groupKey = groupKey ∧ ∃ splitOf : Option Text → DataSplit,
        manifest.assignments.map (fun a => (a.objectId, a.split, a.groupValue)) =
          t.records.zipIdx.map (placed splitOf groupKey) := by
  rw [createSplit] at h
  obtain ⟨rows, hread, h⟩ := bind_eq_ok.mp h
  obtain ⟨tabularRows, hrows, h⟩ := bind_eq_ok.mp h
  obtain ⟨assignments, hassign, h⟩ := bind_eq_ok.mp h
  obtain ⟨hcolumns, htarget, hrecords, rfl⟩ := readRows_eq_ok.mp hread
  obtain ⟨-, rfl⟩ := assignSplits_eq_ok.mp hassign
  obtain rfl := Except.ok.inj h
  set byGroup :=
    (placeAll (shuffle request.seed) tabularRows request.splitRatios).assignmentsByGroup
  refine ⟨⟨hcolumns, htarget, hrecords⟩, rfl, fun v => (get? v byGroup).getD .unknown, ?_⟩
  rw [List.map_map]
  refine map_of_mapM (fun item row hrow => ?_) hrows
  obtain ⟨hid, hgroup⟩ := toTabularRow_eq_ok hrow
  simp only [Function.comp_apply, assigned, splitOf, placed, hid, hgroup]

end Spec

end DataForge.Plugins.Tabular.SplitCreation
