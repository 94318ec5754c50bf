import DataForge.Domain.Splits
import DataForge.Foundation.Features
import DataForge.Foundation.Grouping
import DataForge.Foundation.Outcome
import DataForge.Foundation.Tables

namespace DataForge.Plugins.Export.TabularWriter

open DataForge.Foundation.Strings
open DataForge.Foundation.Outcome
open DataForge.Foundation.Dictionary
open DataForge.Foundation.Features
open DataForge.Foundation.Grouping
open DataForge.Foundation.Scores
open DataForge.Foundation.Tables
open DataForge.Domain.Common
open DataForge.Domain.Splits

section Coercion

inductive ArrowType where
  | int64
  | float64
  | string
deriving DecidableEq

/-- The values of a column with the type that is chosen for them, `none` for a null. -/
inductive Coerced (F : Type) where
  | int64 (values : List (Option Int))
  | float64 (values : List (Option F))
  | string (values : List (Option Text))

def Coerced.dtype {F : Type} : Coerced F → ArrowType
  | .int64 _ => .int64
  | .float64 _ => .float64
  | .string _ => .string

/-- Where the nulls are. -/
def Coerced.nulls {F : Type} : Coerced F → List Bool
  | .int64 values => values.map Option.isNone
  | .float64 values => values.map Option.isNone
  | .string values => values.map Option.isNone

/-- `None if value == "" else value`. -/
def clean (value : Text) : Option Text := if value = [] then none else some value

/-- The values read one by one, the nulls kept, up to the first that cannot be read. -/
def readAll {α : Type} (read : Text → Option α) : List (Option Text) → Option (List (Option α))
  | [] => some []
  | none :: cleaned => (readAll read cleaned).map fun values => none :: values
  | some value :: cleaned => do
    let read₁ ← read value
    let values ← readAll read cleaned
    pure (some read₁ :: values)

variable {F : Type} [MetricLike F]

def coerceColumnValues (values : List Text) : Coerced F :=
  let cleaned := values.map clean
  if cleaned.all Option.isNone then .string cleaned
  else match readAll readInt cleaned with
    | some ints => .int64 ints
    | none => match readAll MetricLike.parse cleaned with
      | some floats => .float64 floats
      | none => .string cleaned

end Coercion

section Arrow

def InInt64 (n : Int) : Prop := -2 ^ 63 ≤ n ∧ n < 2 ^ 63

instance (n : Int) : Decidable (InInt64 n) := inferInstanceAs (Decidable (_ ∧ _))

/-- `pa.array` for values that are of the kind of their type: it keeps the type and the
nulls, and it fails where an integer is outside the machine's range. -/
structure Arrow (F : Type) where
  Column : Type
  array : Coerced F → Result Column
  dtype : Column → ArrowType
  nulls : Column → List Bool
  array_int64 : ∀ values, (∃ column, array (.int64 values) = .ok column) ↔
    ∀ n, some n ∈ values → InInt64 n
  array_float64 : ∀ values, ∃ column, array (.float64 values) = .ok column
  array_string : ∀ values, ∃ column, array (.string values) = .ok column
  dtype_array : ∀ {coerced column}, array coerced = .ok column → dtype column = coerced.dtype
  nulls_array : ∀ {coerced column}, array coerced = .ok column → nulls column = coerced.nulls

def plainArray {F : Type} : Coerced F → Result (Coerced F)
  | .int64 values =>
    if (values.all fun value => value.all fun n => decide (InInt64 n)) = true then
      .ok (.int64 values)
    else .error (.plain "OverflowError" "Python int too large to convert to C long")
  | coerced => .ok coerced

theorem plainArray_eq_ok {F : Type} {coerced column : Coerced F}
    (h : plainArray coerced = .ok column) : column = coerced := by
  match coerced with
  | .int64 values =>
    rw [plainArray] at h
    split at h
    · exact (Except.ok.inj h).symm
    · cases h
  | .float64 values => exact (Except.ok.inj h).symm
  | .string values => exact (Except.ok.inj h).symm

/-- The coerced values themselves, as columns. -/
def plainArrow (F : Type) : Arrow F where
  Column := Coerced F
  array := plainArray
  dtype := Coerced.dtype
  nulls := Coerced.nulls
  array_int64 values := by
    have hall : (values.all fun value => value.all fun n => decide (InInt64 n)) = true ↔
        ∀ n, some n ∈ values → InInt64 n := by
      rw [List.all_eq_true]
      constructor
      · intro h n hn
        simpa using h (some n) hn
      · intro h value hvalue
        cases value with
        | none => rfl
        | some n => simpa using h n hvalue
    rw [plainArray, ← hall]
    split
    · next hin => exact ⟨fun _ => hin, fun _ => ⟨_, rfl⟩⟩
    · next hout => exact ⟨fun ⟨_, h⟩ => (by cases h), fun h => absurd h hout⟩
  array_float64 values := ⟨_, rfl⟩
  array_string values := ⟨_, rfl⟩
  dtype_array h := by rw [plainArray_eq_ok h]
  nulls_array h := by rw [plainArray_eq_ok h]

end Arrow

section Writer

def writerError (reasonCode message : String) : Raised :=
  .reasoned "TabularExportWriterError" reasonCode .invalidJobPayload none message

structure TabularExportRequest where
  splitManifest : Option SplitManifest
  blockedObjectIds : List NonEmptyStr
  writeCsv : Bool := true
  writePerSplit : Bool := true
  objectIdColumn : NonEmptyStr := literal "object_id"

variable {F : Type} [MetricLike F] (arrow : Arrow F) {S : Type}

/-- What is saved in a file of a format. -/
inductive FileContent where
  | parquet (table : Dict Text arrow.Column)
  | csv (table : Table)

structure ExportFile where
  content : FileContent arrow
  split : Option DataSplit
  rowCount : Nat
  columnCount : Nat

/-- A saved table, with the rows that it was made from. -/
structure ParquetFile (S : Type) where
  rows : List Row
  table : Dict Text arrow.Column
  artifact : S

structure TabularExportPerSplitArtifact (S : Type) where
  split : DataSplit
  parquetArtifact : ParquetFile arrow S
  csvArtifact : Option S
  rowCount : Nat

structure TabularExportArtifacts (S : Type) where
  parquetArtifact : ParquetFile arrow S
  csvArtifact : Option S
  perSplit : List (TabularExportPerSplitArtifact arrow S)
  columns : List Text
  includedRowCount : Nat
  excludedBlockedCount : Nat

/-- `dict(zip(columns, line))`: of a short line the last columns have no cell. -/
def exportRow (columns line : List Text) : Row := update [] (columns.zip line)

/-- Blank lines are rows without cells here. -/
def readCandidateRows (t : Table) : Result (List Row × List Text) := do
  guardOk (t.header ≠ []) (writerError "empty_tabular_source"
    "Candidate tabular source is empty (missing CSV header).")
  pure (t.lines.map (exportRow t.header), t.header)

def columnArray (rows : List Row) (column : Text) : Result (Text × arrow.Column) := do
  let array ← arrow.array (coerceColumnValues (rows.map (cell column)))
  pure (column, array)

def rowsToArrow (rows : List Row) (columns : List Text) : Result (Dict Text arrow.Column) := do
  let arrays ← columns.mapM (columnArray arrow rows)
  pure (update [] arrays)

-- how the registry saves a file
variable (save : ExportFile arrow → Result S)

def persistParquet (rows : List Row) (columns : List Text) (split : Option DataSplit) :
    Result (ParquetFile arrow S) := do
  let table ← rowsToArrow arrow rows columns
  let artifact ← save ⟨.parquet table, split, rows.length, columns.length⟩
  pure ⟨rows, table, artifact⟩

def persistCsv (rows : List Row) (columns : List Text) (split : Option DataSplit) : Result S :=
  save ⟨.csv (Table.write columns rows), split, rows.length, columns.length⟩

/-- `_persist_csv(…) if request.write_csv else None`. -/
def persistCsvIf (writeCsv : Bool) (rows : List Row) (columns : List Text)
    (split : Option DataSplit) : Result (Option S) :=
  if writeCsv then (persistCsv arrow save rows columns split).map some else .ok none

def assignmentMap (manifest : SplitManifest) : Dict Text DataSplit :=
  update [] (manifest.assignments.map fun assignment => (assignment.objectId.1, assignment.split))

/-- The split of a row's id, for a row that has an id. -/
def splitOfRow (request : TabularExportRequest) (manifest : SplitManifest) (row : Row) :
    Option DataSplit :=
  let objectId := cell request.objectIdColumn.1 row
  if objectId = [] ∨ objectId ∈ request.blockedObjectIds.map Subtype.val then none
  else get? objectId (assignmentMap manifest)

def rowsBySplit (request : TabularExportRequest) (manifest : SplitManifest) (rows : List Row) :
    Dict DataSplit (List Row) :=
  groupItems
    (rows.filterMap fun row => (splitOfRow request manifest row).map fun split => (split, row))

def persistSplit (request : TabularExportRequest) (columns : List Text)
    (group : DataSplit × List Row) :
    Result (TabularExportPerSplitArtifact arrow S) := do
  let parquet ← persistParquet arrow save group.2 columns (some group.1)
  let csv ← persistCsvIf arrow save request.writeCsv group.2 columns (some group.1)
  pure ⟨group.1, parquet, csv, group.2.length⟩

def writePerSplitArtifacts (request : TabularExportRequest) (manifest : SplitManifest)
    (rows : List Row)
    (columns : List Text) : Result (List (TabularExportPerSplitArtifact arrow S)) :=
  ((rowsBySplit request manifest rows).mergeSort fun a b => decide (a.1.value ≤ b.1.value)).mapM
    (persistSplit arrow save request columns)

/-- The files of the splits, where the request asks for them. -/
def perSplitArtifacts (request : TabularExportRequest) (rows : List Row) (columns : List Text) :
    Result (List (TabularExportPerSplitArtifact arrow S)) :=
  match request.splitManifest with
  | some manifest =>
    if request.writePerSplit then writePerSplitArtifacts arrow save request manifest rows columns
    else .ok []
  | none => .ok []

def filteredRows (request : TabularExportRequest) (rows : List Row) : List Row :=
  rows.filter fun row =>
    cell request.objectIdColumn.1 row ∉ request.blockedObjectIds.map Subtype.val

def writeTabularExport (request : TabularExportRequest) (t : Table) :
    Result (TabularExportArtifacts arrow S) := do
  let (rows, columns) ← readCandidateRows t
  guardOk (request.objectIdColumn.1 ∈ columns) (writerError "object_id_column_missing_in_source"
    ("object_id column '" ++ String.ofList request.objectIdColumn.1 ++
      "' not found in candidate tabular source columns."))
  let filtered := filteredRows request rows
  let parquet ← persistParquet arrow save filtered columns none
  let csv ← persistCsvIf arrow save request.writeCsv filtered columns none
  let perSplit ← perSplitArtifacts arrow save request filtered columns
  pure ⟨parquet, csv, perSplit, columns, filtered.length, rows.length - filtered.length⟩

end Writer

end DataForge.Plugins.Export.TabularWriter
