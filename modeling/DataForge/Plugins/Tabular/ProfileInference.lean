import DataForge.Domain.Artifact
import DataForge.Domain.Profile
import DataForge.Foundation.Canonical
import DataForge.Foundation.Features
import DataForge.Foundation.Grouping
import DataForge.Foundation.Tables

namespace DataForge.Plugins.Tabular.ProfileInference

open DataForge.Foundation.Strings
open DataForge.Foundation.Outcome
open DataForge.Foundation.Canonical
open DataForge.Foundation.Numbers
open DataForge.Foundation.Scores
open DataForge.Foundation.Features
open DataForge.Foundation.Dictionary
open DataForge.Foundation.Grouping
open DataForge.Foundation.Tables
open DataForge.Domain.Common
open DataForge.Domain.Artifact
open DataForge.Domain.TabularProfile
open FloatLike ScoreLike MetricLike

section Columns

def targetColumnNames : List NonEmptyStr := [literal "is_fraud", literal "label", literal "target"]

def selectTargetColumn (columns : List NonEmptyStr) : Option NonEmptyStr :=
  targetColumnNames.find? fun name => decide (name ∈ columns)

def selectSegmentColumn (columns : List NonEmptyStr) (requested : Option Text) :
    Option NonEmptyStr :=
  columns.find? fun column => decide (some column.1 = requested)

/-- The columns of a file that have a name. -/
def namedColumns (t : Table) : List NonEmptyStr :=
  t.header.filterMap fun name => if h : name = [] then none else some ⟨name, h⟩

theorem namedColumns_val (t : Table) : (namedColumns t).map Subtype.val = t.columns := by
  rw [namedColumns, Table.columns, List.map_filterMap]
  induction t.header with
  | nil => rfl
  | cons name header ih =>
    by_cases h : name = []
    · rw [List.filter_cons_of_neg (by simpa using h)]
      simpa [List.filterMap_cons, h] using ih
    · rw [List.filter_cons_of_pos (by simpa using h)]
      simpa [List.filterMap_cons, h] using ih

end Columns

variable (F : Type) [FeatureLike F] (p : Platform) (strptime : Text → Text → Bool)

section Types

def isInteger (token : Text) : Bool := (readInt token).isSome

def isFloat (token : Text) : Bool :=
  (parse token : Option F).isSome &&
    decide (p.lower token ∉ ["inf".toList, "-inf".toList, "nan".toList])

def datetimeFormats : List Text :=
  ["%Y-%m-%d", "%Y-%m-%dT%H:%M:%S", "%Y-%m-%dT%H:%M:%SZ", "%Y-%m-%d %H:%M:%S"].map String.toList

/-- `strptime` tells whether a value can be read with a format. -/
def isDatetime (token : Text) : Bool := datetimeFormats.any (strptime token)

def isBoolean (token : Text) : Bool :=
  decide (p.lower token ∈ ["true".toList, "false".toList, "yes".toList, "no".toList])

def looksLikeIdentifier : Text → Bool
  | [] => false
  | c :: s => c.isAlphanum && s.all fun d => d.isAlphanum || d = '_' || d = ':' || d = '-'

/-- `len(distinct) / total`, compared with a bound in tenths. -/
def distinctRatio (values : List Text) : F :=
  div (ofInt values.dedup.length) (ofInt values.length)

/-- The type that the values of a column suggest, the empty cells left out. -/
def inferType (values : List Text) : ColumnType :=
  let tokens := values.map strip
  let sawBool := tokens.any (isBoolean p)
  let sawInt := tokens.any isInteger
  let sawFloat := tokens.any fun token => isFloat F p token && !isInteger token
  let sawDatetime := tokens.any (isDatetime strptime)
  let sawTextOnly := tokens.any fun token =>
    !(isBoolean p token || isInteger token || isFloat F p token || isDatetime strptime token)
  if values = [] then .unknown
  else if sawBool && !(sawTextOnly || sawFloat || sawDatetime) then .boolean
  else if sawInt && !sawTextOnly && !sawFloat && !sawDatetime then
    if values.all fun value => decide (value ∈ ["0".toList, "1".toList]) then .boolean
    else .numericInteger
  else if (sawFloat || sawInt) && !sawTextOnly && !sawDatetime then .numericFloat
  else if sawDatetime && !(sawTextOnly || sawInt || sawFloat) then .datetime
  else if tokens.all looksLikeIdentifier &&
    le (decimal 9 1) (distinctRatio F values) then .identifier
  else if sawTextOnly then
    if lt (distinctRatio F values) (decimal 5 1) && decide (values.dedup.length ≤ 50) then
      .categorical
    else .text
  else .unknown

end Types

section Missingness

/-- The values of a column as its aggregator sees them, once for each column of the name. -/
def observed (rows : List Row) (columns : List NonEmptyStr) (column : NonEmptyStr) : List Text :=
  rows.flatMap fun row => (columns.filter (· = column)).map fun name => cell name.1 row

def nullCount (rows : List Row) (columns : List NonEmptyStr) (column : NonEmptyStr) : Nat :=
  (observed rows columns column).countP (· = [])

def ratio (model field : String) (k n : Nat) : Result (Score F) :=
  if n = 0 then .ok Score.zero
  else if h : InRange 1 (div (ofInt k) (ofInt n) : F) then .ok ⟨_, h⟩
  else .error (.validation model field)

def groupStats (group : Text × List Text) : Result (Text × MissingnessGroupStats F) := do
  let missing := group.2.countP (· = [])
  let missingRatio ← ratio F "MissingnessGroupStats" "missing_ratio" missing group.2.length
  pure (group.1, ⟨missing, group.2.length, missingRatio⟩)

/-- How the missing values of a column are spread over the values of another one. -/
def groupBlock (rows : List Row) (columns : List NonEmptyStr) (column : NonEmptyStr) :
    Option NonEmptyStr → Result (Option (MissingnessByGroup F))
  | none => .ok none
  | some groupColumn =>
    match groupItems ((rows.filter fun row => cell groupColumn.1 row ≠ []).flatMap fun row =>
      (columns.filter (· = column)).map fun name => (cell groupColumn.1 row, cell name.1 row)) with
    | [] => .ok none
    | groups => do
      let stats ← groups.mapM (groupStats F)
      pure (some ⟨groupColumn, stats⟩)

def columnMissingness (rows : List Row) (columns : List NonEmptyStr) (segment : Option NonEmptyStr)
    (column : NonEmptyStr) : Result (ColumnMissingness F) := do
  let missingRate ← ratio F "ColumnMissingness" "missing_rate" (nullCount rows columns column)
      rows.length
  let bySegment ← groupBlock F rows columns column segment
  pure ⟨column, nullCount rows columns column, missingRate, bySegment⟩

end Missingness

section Imbalance

def targetClassCounts (rows : List Row) (targetColumn : NonEmptyStr) : Dict Text Nat :=
  counter ((rows.map (cell targetColumn.1)).filter (· ≠ []))

def atLeastOne (x : F) : F := if le (ofInt 1) x then x else ofInt 1

def classImbalance (rows : List Row) : Option NonEmptyStr →
    Result (Option (ClassImbalanceDiagnostics F))
  | none => .ok none
  | some targetColumn =>
    let counts := targetClassCounts rows targetColumn
    match counts.insertionSort fun a b => a.2 < b.2 ∨ (a.2 = b.2 ∧ a.1 ≤ b.1) with
    | [] => .ok none
    | rare :: _ => do
      let total := (counts.map Prod.snd).sum
      let most := (counts.map Prod.snd).foldl Nat.max 0
      let label ← field "ClassImbalanceDiagnostics" "rare_class_label" rare.1
      let share ← ratio F "ClassImbalanceDiagnostics" "minority_class_share" rare.2 total
      let imbalance : F := if 0 < rare.2 then div (ofInt most) (ofInt rare.2) else ofInt most
      pure (some ⟨targetColumn, label, rare.2, share, share, atLeastOne F imbalance⟩)

end Imbalance

/-- `infer_tabular_profile`, as far as the selection of methods reads its report. -/
def inferTabularProfile (rows : List Row) (columns : List NonEmptyStr)
    (segmentColumn : Option Text) :
    Result (TabularProfileReport F) := do
  guardOk (columns ≠ []) (.plain "ValueError" "tabular profile requires at least one column")
  let targetColumn := selectTargetColumn columns
  let missingness ← columns.mapM
    (columnMissingness F rows columns (selectSegmentColumn columns segmentColumn))
  let imbalance ← classImbalance F rows targetColumn
  pure
    { columns := columns.map fun column =>
        ⟨column, inferType F p strptime ((observed rows columns column).filter (· ≠ []))⟩
      missingness := some ⟨targetColumn.map Subtype.val, missingness⟩
      classImbalance := imbalance }

end DataForge.Plugins.Tabular.ProfileInference
