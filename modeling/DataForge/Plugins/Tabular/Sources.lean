import DataForge.Domain.Common
import DataForge.Foundation.Json
import DataForge.Foundation.Tables

namespace DataForge.Plugins.Tabular.Sources

open DataForge.Foundation.Strings
open DataForge.Foundation.Outcome
open DataForge.Foundation.Sha256
open DataForge.Foundation.Canonical
open DataForge.Foundation.Json
open DataForge.Foundation.Dictionary
open DataForge.Foundation.Tables
open DataForge.Domain.Common

def objectIdColumn : Text := "object_id".toList

def fallbackId (index : Nat) : NonEmptyStr := ⟨"row_".toList ++ zeroPadded 6 index, by simp⟩

/-- The id of a row: its own cell, or its position where the cell is empty. -/
def effectiveId (index : Nat) (row : Row) : NonEmptyStr :=
  if h : cell objectIdColumn row ≠ [] then ⟨cell objectIdColumn row, h⟩ else fallbackId index

def withObjectId (index : Nat) (row : Row) : Row :=
  if cell objectIdColumn row = [] then set objectIdColumn (fallbackId index).1 row else row

@[simp] theorem cell_withObjectId (index : Nat) (row : Row) :
    cell objectIdColumn (withObjectId index row) = (effectiveId index row).1 := by
  by_cases h : cell objectIdColumn row = []
  · simp [withObjectId, effectiveId, h]
  · simp [withObjectId, effectiveId, h]

/-- A row whose id is filled in. -/
abbrev IdentifiedRow := { row : Row // cell objectIdColumn row ≠ [] }

def objectId (row : IdentifiedRow) : NonEmptyStr := ⟨cell objectIdColumn row.1, row.2⟩

def identify (item : Row × Nat) : IdentifiedRow :=
  ⟨withObjectId item.2 item.1, by
    rw [cell_withObjectId]
    exact (effectiveId item.2 item.1).2⟩

def identifiedRows (rows : List Row) : List IdentifiedRow := rows.zipIdx.map identify

/-- The canonical JSON of a row's cells in these columns. -/
@[irreducible] def rowBytes (columns : List Text) (row : Row) : Bytes :=
  let payload := rowOf columns fun column => cell column row
  encodeUtf8 (dumps (.obj (payload.map fun item => (item.1, .str item.2))))

@[irreducible] def signature (columns : List Text) (row : Row) : Text :=
  hexdigest (rowBytes columns row)

/-- A stored file: its bytes and what the CSV reader makes of them. -/
structure StoredFile where
  data : Bytes
  table : Result Table

/-- What the readers of the tabular plugins have in common: a header, the target column
in it, and at least one row. They differ in the error they raise. -/
def readRows (error targetMessage : String) (code : ErrorCode) (t : Table)
    (targetColumn : NonEmptyStr) :
    Result (List Row) := do
  guardOk (t.columns ≠ [])
    (.reasoned error "empty_tabular_source" code none "Source CSV has no header columns.")
  guardOk (targetColumn.1 ∈ t.columns)
    (.reasoned error "target_column_not_found" code none targetMessage)
  guardOk (t.records ≠ [])
    (.reasoned error "empty_tabular_source" code none "Source CSV has no data rows.")
  pure t.records

section Ids

variable {index : Nat} {row : Row}

@[simp] theorem objectId_identify (item : Row × Nat) :
    objectId (identify item) = effectiveId item.2 item.1 :=
  Subtype.ext (cell_withObjectId item.2 item.1)

theorem cell_withObjectId_ne {column : Text} (h : column ≠ objectIdColumn) :
    cell column (withObjectId index row) = cell column row := by
  rw [withObjectId]
  split
  · exact cell_set_ne (Ne.symm h) _
  · rfl

theorem readRows_eq_ok {error targetMessage : String} {code : ErrorCode} {t : Table}
    {targetColumn : NonEmptyStr} {rows : List Row} :
    readRows error targetMessage code t targetColumn = .ok rows ↔
      t.columns ≠ [] ∧ targetColumn.1 ∈ t.columns ∧ t.records ≠ [] ∧ rows = t.records := by
  simp only [readRows, check_bind_eq_ok, guardOk_eq_ok, pure_eq, Except.ok.injEq,
    eq_comm (a := rows)]

end Ids

section Bytes

variable {columns : List Text} {row row' : Row}

theorem rowBytes_congr (h : ∀ column ∈ columns, cell column row = cell column row') :
    rowBytes columns row = rowBytes columns row' := by
  rw [rowBytes, rowBytes, rowOf_congr h]

/-- The canonical JSON is equal where the named cells are. -/
theorem rowBytes_eq_iff {columns' : List Text} : rowBytes columns row = rowBytes columns' row' ↔
    ∀ column, (if column ∈ columns then some (cell column row) else none) =
      if column ∈ columns' then some (cell column row') else none := by
  have hmembers : ∀ (columns : List Text) (row : Row), ((sortKeysMembers
      ((rowOf columns fun column => cell column row).map
        fun item => (item.1, Value.str item.2))).map
        Prod.fst).Nodup := by
    intro columns row
    rw [keys_sortKeysMembers, List.map_map]
    exact nodup_keys_update (by simp) _
  have hinjective : ∀ s s' : Text, encodeUtf8 s = encodeUtf8 s' ↔ s = s' :=
    fun s s' => ⟨fun h => encodeUtf8_injective h, fun h => h ▸ rfl⟩
  rw [rowBytes, rowBytes, hinjective, dumps_eq_iff, sortKeys, sortKeys, Value.obj.injEq,
    sortedItems_eq_iff (hmembers columns row) (hmembers columns' row')]
  apply forall_congr'
  intro column
  rw [get?_sortKeysMembers, get?_sortKeysMembers, get?_map_values, get?_map_values, get?_rowOf,
    get?_rowOf]
  split <;> split <;> simp [sortKeys]

/-- The canonical JSON determines the cells. -/
theorem cell_of_rowBytes_eq (h : rowBytes columns row = rowBytes columns row') {column : Text}
    (hcolumn : column ∈ columns) : cell column row = cell column row' := by
  have hcell := rowBytes_eq_iff.mp h column
  rw [if_pos hcolumn, if_pos hcolumn] at hcell
  exact Option.some.inj hcell

end Bytes

end DataForge.Plugins.Tabular.Sources
