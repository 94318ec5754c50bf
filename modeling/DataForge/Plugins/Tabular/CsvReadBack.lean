import DataForge.Plugins.Tabular.CsvFiles

namespace DataForge.Plugins.Tabular.CsvReadBack

open DataForge.Foundation
open DataForge.Foundation.Strings
open DataForge.Foundation.Outcome
open DataForge.Foundation.Dictionary
open DataForge.Foundation.Tables
open DataForge.Foundation.Csv (Release Safe)
open DataForge.Domain.Common
open DataForge.Plugins.Tabular.Sources
open DataForge.Plugins.Tabular.SyntheticCommon
open DataForge.Plugins.Tabular.CsvFiles

variable {release : Release} {columns : List Text} {rows : List Row} {writer : CsvWriter}
  {reader : CsvReader}

theorem table_eq :
    writer.table columns rows = .write (writer.columns columns) (writer.rows columns rows) := by
  cases writer with
  | synthetic syntheticRows =>
    have hcells : ∀ row : Row, ((candidateDatasetColumns columns).map fun column =>
        cell column (rowOf (candidateDatasetColumns columns) fun column => cell column row)) =
          (candidateDatasetColumns columns).map fun column => cell column row :=
      fun row => List.map_congr_left fun column hcolumn => cell_rowOf hcolumn
    simp only [CsvWriter.table, writeCandidateCsv, CsvWriter.columns, CsvWriter.rows, Table.write,
      List.map_append, List.map_map, Function.comp_def, hcells]
  | imputation => rfl
  | duplicates => rfl

/-- Every name of a column and every cell of the file can be held by a field. -/
def AllHold (release : Release) (columns : List Text) (rows : List Row) : Prop :=
  (∀ column ∈ columns, Holds release column) ∧
    ∀ row ∈ rows, ∀ column ∈ columns, Holds release (cell column row)

theorem cell_congr {index : Nat} {row row' : Row} {column : Text}
    (h : cell column row = cell column row') :
    reader.cell index row column = reader.cell index row' column := by
  cases reader with
  | source targetColumn =>
    rw [CsvReader.cell, CsvReader.cell]
    split
    · next hid =>
      rw [hid] at h
      simp only [effectiveId, h]
    · exact h
  | imputation => exact h
  | duplicates => exact h

theorem getElem?_shown {rows : List Row} {i : Nat} {found : Row}
    (h : (rows.zipIdx.map fun item => reader.shown item.2 item.1)[i]? = some found) :
    ∃ row, rows[i]? = some row ∧ found = reader.shown i row := by
  rw [List.getElem?_map, List.getElem?_zipIdx] at h
  cases hrow : rows[i]? with
  | none => simp [hrow] at h
  | some row =>
    rw [hrow] at h
    exact ⟨row, rfl, by simpa using h.symm⟩

theorem get?_shown {index : Nat} {f : Text → Text} {column : Text} (h : column ∈ columns) :
    get? column (reader.shown index (rowOf columns f)) =
      some (reader.cell index (rowOf columns f) column) := by
  have hmem : column ∈ (reader.shown index (rowOf columns f)).map Prod.fst := by
    have hrow : column ∈ (rowOf columns f).map Prod.fst := mem_keys_rowOf.mpr h
    cases reader with
    | source targetColumn =>
      rw [CsvReader.shown, withObjectId]
      split
      · exact mem_keys_set.mpr (.inr hrow)
      · exact hrow
    | imputation => exact hrow
    | duplicates => exact hrow
  rw [← cell_shown, cell]
  cases hget : get? column (reader.shown index (rowOf columns f)) with
  | none => exact absurd hmem (get?_eq_none.mp hget)
  | some v => rfl

theorem safe_column {t : Table} {line : List Text} {index : Nat} {column v : Text}
    (hheader : ∀ name ∈ t.header, Safe release name)
    (h : get? column (reader.shown index (rowOf t.columns (t.value line))) = some v) :
    Safe release column := by
  by_cases hcolumn : column ∈ t.columns
  · exact hheader column (List.mem_of_mem_filter hcolumn)
  · have hnone : get? column (rowOf t.columns (t.value line)) = none := by
      rw [get?_rowOf, if_neg hcolumn]
    cases reader with
    | source targetColumn =>
      by_cases hid : column = objectIdColumn
      · rw [hid]
        exact fun hreturn => absurd hreturn (by decide)
      · rw [CsvReader.shown, withObjectId] at h
        split at h
        · rw [get?_set_ne (Ne.symm hid), hnone] at h
          cases h
        · rw [hnone] at h
          cases h
    | imputation => cases hnone.symm.trans h
    | duplicates => cases hnone.symm.trans h

/-- What comes back unchanged had its carriage returns between quotes. -/
theorem safe_of_readsBack (hrows : writer.rows columns rows ≠ [])
    (h : ReadsBack release writer reader columns rows) :
    (∀ column ∈ writer.columns columns, Safe release column) ∧
      ∀ row ∈ writer.rows columns rows, ∀ column ∈ writer.columns columns,
        Safe release (cell column row) := by
  obtain ⟨got, hread, hlength, hcells⟩ := h
  obtain ⟨t, hdecode, hgot⟩ := bind_eq_ok.mp hread
  obtain ⟨-, -, rfl⟩ := rows_eq_ok.mp hgot
  obtain ⟨hheader, hlines⟩ := List.forall_mem_cons.mp (safe_of_decode hdecode)
  -- a row that comes back is made of a line that was read
  have hrow : ∀ i row, (writer.rows columns rows)[i]? = some row → ∃ line ∈ t.lines,
      ∀ column ∈ writer.columns columns,
        get? column (reader.shown i (rowOf t.columns (t.value line))) =
          some (reader.cell i row column) := by
    intro i row hi
    have hbound : i < (t.records.zipIdx.map fun item => reader.shown item.2 item.1).length := by
      rw [hlength]
      exact (List.getElem?_eq_some_iff.mp hi).1
    obtain ⟨row', hrow', hfound⟩ := getElem?_shown (List.getElem?_eq_getElem hbound)
    obtain ⟨line, hline, rfl⟩ := List.mem_map.mp (List.mem_of_getElem? hrow')
    refine ⟨line, List.mem_of_mem_filter hline, fun column hcolumn => ?_⟩
    rw [← hfound]
    exact hcells i row _ hi (List.getElem?_eq_getElem hbound) column hcolumn
  constructor
  · intro column hcolumn
    obtain ⟨row, rest, hfirst⟩ := List.exists_cons_of_ne_nil hrows
    obtain ⟨line, -, hget⟩ := hrow 0 row (by rw [hfirst, List.getElem?_cons_zero])
    exact safe_column hheader (hget column hcolumn)
  · intro row hmem column hcolumn
    obtain ⟨i, hi⟩ := List.mem_iff_getElem?.mp hmem
    obtain ⟨line, hline, hget⟩ := hrow i row hi
    have hcell : cell column (reader.shown i (rowOf t.columns (t.value line))) =
        reader.cell i row column := by
      rw [cell, hget column hcolumn, Option.getD_some]
    rw [cell_shown] at hcell
    have hsafe :
        Safe release (reader.cell i row column) ↔ Safe release (cell column row) := safe_cell
    rw [← hsafe, ← hcell, safe_cell]
    by_cases hread : column ∈ t.columns
    · rw [cell_rowOf hread]
      exact safe_value (hlines line hline) column
    · rw [cell_rowOf_of_notMem hread]
      exact Csv.safe_nil

theorem readsBack_of_holds (hnames : [] ∉ writer.columns columns)
    (hrows : writer.rows columns rows ≠ []) (htakes : reader.Takes (writer.columns columns))
    (h : AllHold release (writer.columns columns) (writer.rows columns rows)) :
    ReadsBack release writer reader columns rows := by
  have hne : writer.columns columns ≠ [] := by
    cases reader with
    | source targetColumn => exact List.ne_nil_of_mem htakes
    | imputation => exact htakes
    | duplicates => exact htakes
  refine ⟨(writer.rows columns rows).zipIdx.map fun item => reader.shown item.2
    (rowOf (writer.columns columns) fun column => cell column item.1), ?_, ?_, ?_⟩
  · rw [CsvReader.read, CsvWriter.bytes, table_eq, decode_encode (forall_write.mpr h), ok_bind,
      rows_eq_ok, columns_write hnames, records_write hne hnames]
    refine ⟨htakes, ?_, ?_⟩
    · simpa using hrows
    · rw [List.zipIdx_map, List.map_map]
      rfl
  · rw [List.length_map, List.length_zipIdx]
  · intro i row found hi hfound column hcolumn
    rw [List.getElem?_map, List.getElem?_zipIdx, hi] at hfound
    obtain rfl := Option.some.inj hfound
    have hcell : cell column (rowOf (writer.columns columns) fun column => cell column row) =
        cell column row := cell_rowOf hcolumn
    rw [get?_shown hcolumn]
    dsimp only
    rw [Nat.zero_add, cell_congr hcell]

theorem rows_ne_nil (hrows : rows ≠ []) : writer.rows columns rows ≠ [] := by
  cases writer with
  | synthetic syntheticRows =>
    exact List.append_ne_nil_of_left_ne_nil (fun h => hrows (List.map_eq_nil_iff.mp h)) _
  | imputation => exact hrows
  | duplicates => exact hrows

theorem nil_notMem_columns (hnames : [] ∉ columns) : [] ∉ writer.columns columns := by
  cases writer with
  | synthetic syntheticRows => exact nil_notMem_candidateDatasetColumns hnames
  | imputation => exact hnames
  | duplicates => exact hnames

theorem holds_of_readsBack (hnames : [] ∉ columns) (hrows : rows ≠ [])
    (h : ReadsBack release writer reader columns rows) : reader.Takes (writer.columns columns) ∧
      AllHold release (writer.columns columns) (writer.rows columns rows) := by
  have hsafe := forall_write.mpr (safe_of_readsBack (rows_ne_nil hrows) h)
  obtain ⟨got, hread, -, -⟩ := h
  obtain ⟨t, hdecode, hgot⟩ := bind_eq_ok.mp hread
  rw [CsvWriter.bytes, table_eq] at hdecode
  have hholds := holds_of_decode hsafe hdecode
  rw [decode_encode hholds] at hdecode
  obtain rfl := Except.ok.inj hdecode
  rw [rows_eq_ok, columns_write (nil_notMem_columns hnames)] at hgot
  exact ⟨hgot.1, forall_write.mp hholds⟩

/-- What one executor wrote the next one reads unchanged exactly where it has the column it
asks for, no name and no cell is too long for a field, and the release of the CSV module
quotes those with a carriage return. -/
theorem readsBack_iff (hnames : [] ∉ columns) (hrows : rows ≠ []) :
    ReadsBack release writer reader columns rows ↔ reader.Takes (writer.columns columns) ∧
      AllHold release (writer.columns columns) (writer.rows columns rows) :=
  ⟨holds_of_readsBack hnames hrows, fun h =>
    readsBack_of_holds (nil_notMem_columns hnames) (rows_ne_nil hrows) h.1 h.2⟩

/-- The releases of the supported interpreters: the older ones quote a carriage return only
where lines end with one. -/
def olderRelease : Release := ⟨false, 131072⟩

def newerRelease : Release := ⟨true, 131072⟩

theorem readsBack_sample : [] ∉ [['a']] ∧ [[(['a'], ['x', ',', '"', '\n'])]] ≠ ([] : List Row) ∧
    (ReadsBack olderRelease .imputation .duplicates [['a']] [[(['a'], ['x', ',', '"', '\n'])]] ↔
      [['a']] ≠ [] ∧ AllHold olderRelease [['a']] [[(['a'], ['x', ',', '"', '\n'])]]) :=
  ⟨by decide, by decide, readsBack_iff (by decide) (by decide)⟩

theorem not_readsBack_of_cell {text : Text} (h : ¬ Holds release text) :
    ¬ ReadsBack release .imputation .imputation [['a']] [[(['a'], text)]] := by
  intro hback
  obtain ⟨-, -, hcells⟩ := holds_of_readsBack (by decide) (List.cons_ne_nil _ _) hback
  exact h (hcells _ (List.mem_singleton.mpr rfl) ['a'] (List.mem_singleton.mpr rfl))

/-- A cell of one character more than a field takes comes back from no release, and one with
a carriage return not from the older ones. -/
theorem long_cell_refused :
    (¬ ReadsBack olderRelease .imputation .imputation [['a']]
      [[(['a'], List.replicate 131073 'x')]]) ∧
      (¬ ReadsBack newerRelease .imputation .imputation [['a']]
        [[(['a'], List.replicate 131073 'x')]]) ∧
      ¬ ReadsBack olderRelease .imputation .imputation [['a']] [[(['a'], ['x', '\r', 'y'])]] := by
  have hlong : ∀ quotesReturns, ¬ Holds ⟨quotesReturns, 131072⟩ (List.replicate 131073 'x') := by
    rintro quotesReturns ⟨hlength, -⟩
    rw [List.length_replicate] at hlength
    exact absurd hlength (Nat.not_le.mpr (Nat.lt_succ_self 131072))
  have hreturn : ¬ Holds olderRelease ['x', '\r', 'y'] := by
    rintro ⟨-, hsafe⟩
    exact absurd (hsafe (by decide)) (by decide)
  exact ⟨not_readsBack_of_cell (hlong false), not_readsBack_of_cell (hlong true),
    not_readsBack_of_cell hreturn⟩

end DataForge.Plugins.Tabular.CsvReadBack
