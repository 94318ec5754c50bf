import DataForge.Plugins.Tabular.DuplicateGroups

namespace DataForge.Plugins.Tabular.DuplicateChain

open DataForge.Foundation.Strings
open DataForge.Foundation.Outcome
open DataForge.Foundation.Sha256
open DataForge.Foundation.Tables
open DataForge.Domain.Common
open DataForge.Plugins.Tabular.Sources
open DataForge.Plugins.Tabular.Duplicates
open DataForge.Plugins.Tabular.DuplicateGroups

section Steps

def defaultIdColumn : NonEmptyStr := literal "object_id"

/-- A step of the plan executor on the file of a table. -/
def action (writer : Table → Bytes) (mode : DuplicateActionMode) (t : Table) :
    Result ExecuteTabularDuplicatesResult :=
  executeTabularDuplicatesAction ⟨mode.value, sha256Digest (writer t), defaultIdColumn, none⟩
    ⟨writer t, .ok t⟩

def signatureColumns (t : Table) : List Text :=
  resolveSignatureColumns t.columns none defaultIdColumn

def groupsOf (t : Table) : List (Text × List Member) :=
  duplicateGroups t.records defaultIdColumn (signatureColumns t)

def marked (t : Table) : Table :=
  .write (candidateColumnsForMark t.columns) (buildMarkOutput t.records (groupsOf t))

def removed (t : Table) : Table := .write t.columns (buildRemoveOutput t.records (groupsOf t))

structure Accepted (t : Table) : Prop where
  columns : t.columns ≠ []
  records : t.records ≠ []
  idColumn : defaultIdColumn.1 ∈ t.columns
  signature : signatureColumns t ≠ []

variable {writer : Table → Bytes} {t : Table}

theorem resolveMode_value (mode : DuplicateActionMode) : resolveMode mode.value = .ok mode := by
  cases mode <;> rfl

theorem execute_eq_ok {mode : DuplicateActionMode} {sourceHash : Sha256Digest}
    {idColumn : NonEmptyStr}
    {listed : Option (List NonEmptyStr)} {source : StoredFile}
    {result : ExecuteTabularDuplicatesResult} :
    executeTabularDuplicatesAction ⟨mode.value, sourceHash, idColumn, listed⟩ source = .ok result ↔
      sha256 source.data = sourceHash.1 ∧ ∃ t, source.table = .ok t ∧ t.columns ≠
        [] ∧ t.records ≠ [] ∧
        idColumn.1 ∈ t.columns ∧ resolveSignatureColumns t.columns listed idColumn ≠ [] ∧
        result = match mode with
          | .mark => markResult t.records t.columns idColumn
              (resolveSignatureColumns t.columns listed idColumn)
          | .removeCandidate => removeResult t.records t.columns idColumn
              (resolveSignatureColumns t.columns listed idColumn) := by
  rw [executeTabularDuplicatesAction, resolveMode_value, ok_bind, check_bind_eq_ok, guardOk_eq_ok,
    bind_eq_ok]
  refine and_congr_right fun _ => exists_congr fun t => and_congr_right fun _ => ?_
  simp only [check_bind_eq_ok, guardOk_eq_ok, pure_eq, Except.ok.injEq]
  exact and_congr_right fun _ => and_congr_right fun _ => and_congr_right fun _ =>
    and_congr_right fun _ => eq_comm

theorem action_eq_ok {mode : DuplicateActionMode} {result : ExecuteTabularDuplicatesResult} :
    action writer mode t = .ok result ↔ Accepted t ∧ result = match mode with
      | .mark => markResult t.records t.columns defaultIdColumn (signatureColumns t)
      | .removeCandidate =>
        removeResult t.records t.columns defaultIdColumn (signatureColumns t) := by
  rw [action, execute_eq_ok]
  constructor
  · rintro ⟨-, _, htable, hcolumns, hrecords, hid, hsignature, rfl⟩
    obtain rfl := Except.ok.inj htable
    exact ⟨⟨hcolumns, hrecords, hid, hsignature⟩, rfl⟩
  · rintro ⟨⟨hcolumns, hrecords, hid, hsignature⟩, rfl⟩
    exact ⟨rfl, t, rfl, hcolumns, hrecords, hid, hsignature, rfl⟩

theorem mem_signatureColumns {column : Text} :
    column ∈ signatureColumns t ↔ column ∈ t.columns ∧ column ≠ defaultIdColumn.1 := by
  rw [signatureColumns, resolveSignatureColumns, (List.perm_insertionSort _ _).mem_iff,
    List.mem_filter, decide_eq_true_eq]

theorem mem_candidateColumnsForMark {columns : List Text} {column : Text} :
    column ∈ candidateColumnsForMark columns ↔ column ∈ columns ∨ column ∈ markerColumns := by
  rw [candidateColumnsForMark, List.mem_append, List.mem_filter, decide_eq_true_eq]
  tauto

end Steps

section Tables

variable {t : Table}

theorem nil_notMem_marked : [] ∉ candidateColumnsForMark t.columns := by
  rw [mem_candidateColumnsForMark, not_or]
  exact ⟨nil_notMem_columns t, by decide⟩

theorem columns_marked : (marked t).columns = candidateColumnsForMark t.columns :=
  columns_write nil_notMem_marked

theorem defaultIdColumn_notMem : defaultIdColumn.1 ∉ markerColumns := by decide

variable (ht : Accepted t)

include ht in
theorem records_marked :
    (marked t).records = (buildMarkOutput t.records (groupsOf t)).map fun row =>
    rowOf (candidateColumnsForMark t.columns) fun column => cell column row := by
  refine records_write (fun hnil => ht.columns ?_) nil_notMem_marked
  exact (List.append_eq_nil_iff.mp hnil).1

include ht in
theorem records_removed :
    (removed t).records = (buildRemoveOutput t.records (groupsOf t)).map fun row =>
    rowOf t.columns fun column => cell column row :=
  records_write ht.columns (nil_notMem_columns t)

include ht in
theorem accepted_marked : Accepted (marked t) where
  columns h := by
    rw [columns_marked] at h
    exact ht.columns (List.append_eq_nil_iff.mp h).1
  records h := by
    rw [records_marked ht, List.map_eq_nil_iff, ← List.length_eq_zero_iff, length_buildMarkOutput,
      List.length_eq_zero_iff] at h
    exact ht.records h
  idColumn := by
    rw [columns_marked]
    exact mem_candidateColumnsForMark.mpr (.inl ht.idColumn)
  signature h := by
    have hmem : isDuplicateKeptColumn ∈ signatureColumns (marked t) := by
      rw [mem_signatureColumns, columns_marked]
      exact ⟨mem_candidateColumnsForMark.mpr (.inr (by decide)), by decide⟩
    rw [h] at hmem
    cases hmem

/-- A row of the marked table, beside its row in the source. -/
structure MarkedRow (t : Table) (row markedRow : Row) : Prop where
  cells : ∀ column ∈ t.columns, column ∉ markerColumns → cell column markedRow = cell column row
  grouped : 2 ≤ (membersOf t.records defaultIdColumn (signatureColumns t)
      (rowSignature (signatureColumns t) row)).length →
    (cell isDuplicateKeptColumn markedRow = "1".toList ↔
      Least defaultIdColumn (signatureColumns t) t.records row) ∧
      (cell isDuplicateKeptColumn markedRow = "1".toList ∨
        cell isDuplicateKeptColumn markedRow = "0".toList)
  alone : ¬ 2 ≤ (membersOf t.records defaultIdColumn (signatureColumns t)
      (rowSignature (signatureColumns t) row)).length → cell isDuplicateKeptColumn markedRow = []

include ht in
theorem markedRow_of_row (h : Identified defaultIdColumn t.records) {i : Nat} {row : Row}
    (hrow : t.records[i]? = some row) :
    ∃ markedRow, (marked t).records[i]? = some markedRow ∧ MarkedRow t row markedRow := by
  obtain ⟨out, hout, hcells, hgrouped, halone⟩ := buildMarkOutput_spec h hrow
  have hkept : cell isDuplicateKeptColumn
      (rowOf (candidateColumnsForMark t.columns) fun column => cell column out) =
        cell isDuplicateKeptColumn out :=
    cell_rowOf (mem_candidateColumnsForMark.mpr (.inr (by decide)))
  refine ⟨rowOf (candidateColumnsForMark t.columns) fun column => cell column out, ?_, ?_, ?_, ?_⟩
  · rw [records_marked ht, List.getElem?_map, groupsOf, hout, Option.map_some]
  · intro column hcolumn hmarker
    rw [cell_rowOf (mem_candidateColumnsForMark.mpr (.inl hcolumn)), hcells column hmarker]
  · rw [hkept]
    exact hgrouped
  · rw [hkept]
    exact halone

include ht in
theorem row_of_markedRow (h : Identified defaultIdColumn t.records) {i : Nat} {markedRow : Row}
    (hmarked : (marked t).records[i]? = some markedRow) :
    ∃ row, t.records[i]? = some row ∧ MarkedRow t row markedRow := by
  obtain ⟨hlt, -⟩ := List.getElem?_eq_some_iff.mp hmarked
  rw [records_marked ht, List.length_map, length_buildMarkOutput] at hlt
  have hrow : t.records[i]? = some t.records[i] := List.getElem?_eq_getElem hlt
  obtain ⟨markedRow', hmarked', hspec⟩ := markedRow_of_row ht h hrow
  obtain rfl := Option.some.inj (hmarked.symm.trans hmarked')
  exact ⟨_, hrow, hspec⟩

end Tables

end DataForge.Plugins.Tabular.DuplicateChain
