import DataForge.Plugins.Tabular.CsvReadBack
import DataForge.Plugins.Tabular.ProfileDuplicates
import DataForge.Plugins.Tabular.RemoveExactness
import DataForge.Foundation.Lists

namespace DataForge.Plugins.Tabular.DuplicateCounts

open DataForge.Foundation.Lists
open DataForge.Foundation.Strings
open DataForge.Foundation.Outcome
open DataForge.Foundation.Sha256
open DataForge.Foundation.Dictionary
open DataForge.Foundation.Canonical
open DataForge.Foundation.Grouping
open DataForge.Foundation.Tables
open DataForge.Foundation.Csv (Release)
open DataForge.Domain.Common
open DataForge.Plugins.Tabular.Sources
open DataForge.Plugins.Tabular.Duplicates
open DataForge.Plugins.Tabular.DuplicateChain (defaultIdColumn execute_eq_ok)
open DataForge.Plugins.Tabular.MarkThenRemove (rowSignature_congr twins)
open DataForge.Plugins.Tabular.ProfileDuplicates
open DataForge.Plugins.Tabular.CsvFiles
open DataForge.Plugins.Tabular.CsvReadBack (newerRelease)
open DataForge.Plugins.Tabular.RemoveExactness (CollisionFree sameCells_iff)

section Readers

/-- A row of `csv.DictReader` under the names of the header: a cell that the line lacks is `None`.
Surplus cells stand under a key that is no name, where nobody looks. -/
def dictReaderRow (header line : List Text) : Dict Text (Option Text) :=
  update (update [] ((header.zip line).map fun item => (item.1, some item.2)))
    ((header.drop line.length).map fun name => (name, none))

/-- A row as the profile streams it. -/
def streamedRow (t : Table) (line : List Text) : Row :=
  (dictReaderRow t.header line).map fun item => (item.1, item.2.getD [])

def streamedRows (t : Table) : List Row := (t.lines.filter (· ≠ [])).map (streamedRow t)

/-- A row as the duplicate action copies it. -/
def copiedRow (t : Table) (line : List Text) : Row :=
  rowOf t.columns fun column => ((get? column (dictReaderRow t.header line)).getD none).getD []

def copiedRows (t : Table) : List Row := (t.lines.filter (· ≠ [])).map (copiedRow t)

/-- The part of `build_tabular_profile_report` that looks for duplicates. -/
def buildProfileDuplicates (release : Release) (data : Bytes) : Result DuplicateDiagnostics := do
  let t ← decode release data
  guardOk (t.columns ≠ []) (.plain "ValueError" "tabular profile requires at least one column")
  pure (inferDuplicates (streamedRows t) t.columns defaultIdColumn.1)

variable {t : Table} {line : List Text}

theorem streamedRow_eq (t : Table) (line : List Text) :
    streamedRow t line = update [] (t.header.mapIdx fun i name => (name, line.getD i [])) := by
  have hvalues := @map_update Text _ _ _ fun value : Option Text => value.getD []
  rw [streamedRow, dictReaderRow, hvalues, hvalues, List.map_map, List.map_map, List.map_nil,
    ← zip_append_drop, update_append]
  simp [Function.comp_def]

/-- The copy is the row of the table. -/
theorem copiedRow_eq (t : Table) (line : List Text) :
    copiedRow t line = rowOf t.columns (t.value line) := by
  refine rowOf_congr fun column _ => ?_
  rw [Table.value, ← streamedRow_eq, streamedRow, cell,
    get?_map_values fun value : Option Text => value.getD []]
  cases get? column (dictReaderRow t.header line) with
  | none => rfl
  | some found => rfl

theorem copiedRows_eq (t : Table) : copiedRows t = t.records := by
  rw [copiedRows, Table.records]
  exact List.map_congr_left fun line _ => copiedRow_eq t line

theorem cell_streamedRow {column : Text} (h : column ∈ t.columns) :
    cell column (streamedRow t line) = cell column (copiedRow t line) := by
  rw [copiedRow_eq, cell_rowOf h, Table.value, streamedRow_eq]

end Readers

section Counts

variable {rows : List Row} {columns : List Text} {idColumn : NonEmptyStr}

/-- The sizes of the groups that the profile repeats. -/
theorem lengths_repeatedGroups (groups : Dict (List Text) (List Text)) :
    (repeatedGroups groups).map List.length =
      (groups.map fun entry => entry.2.length).filter fun n => 2 ≤ n := by
  rw [repeatedGroups, List.filter_map, List.filter_map, List.map_map]
  rfl

theorem lengths_duplicateGroups :
    ((duplicateGroups rows idColumn columns).map fun group => group.2.length).Perm
      (((groupBySignature rows idColumn columns).map fun entry => entry.2.length).filter fun n =>
        2 ≤ n) := by
  have hperm := ((sortedItems_perm (groupBySignature rows idColumn columns)).map
    fun entry => entry.2.length).filter fun n => decide (2 ≤ n)
  rw [duplicateGroups]
  rwa [List.filter_map] at hperm

/-- The rows with their positions, grouped by their cells. -/
def groupsByCells (rows : List Row) (columns : List Text) : Dict (List Text) (List (Row × Nat)) :=
  groupItems (rows.zipIdx.map fun item => (cellsAt columns item.1, item))

theorem signatureToObjectIds_eq (h : columns ≠ []) :
    signatureToObjectIds rows columns (some idColumn.1) =
    (groupsByCells rows columns).map fun entry =>
      (entry.1, entry.2.map fun item => cell idColumn.1 item.1) := by
  have hitems : (rows.map fun row => (cellsAt columns row, cell idColumn.1 row)) =
      (rows.zipIdx.map fun item => (cellsAt columns item.1, item)).map
        fun item => (id item.1, cell idColumn.1 item.2.1) := by
    rw [List.map_map]
    conv_lhs => rw [← List.zipIdx_map_fst 0 rows, List.map_map]
    rfl
  rw [signatureToObjectIds, if_neg h]
  show groupItems (rows.map fun row => (cellsAt columns row, cell idColumn.1 row)) = _
  rw [hitems, groupsByCells]
  exact groupItems_map id (fun item : Row × Nat => cell idColumn.1 item.1) fun _ _ _ _ heq => heq

/-- What the signature makes of the cells of a row. -/
noncomputable def signatureOf (columns : List Text) : List Text → Text :=
  Function.extend (cellsAt columns) (rowSignature columns) fun _ => []

theorem signatureOf_cellsAt (row : Row) :
    signatureOf columns (cellsAt columns row) = rowSignature columns row := by
  have hfactors : (rowSignature columns).FactorsThrough (cellsAt columns) := fun row row' hcells =>
    rowSignature_congr (rowBytes_congr (List.map_inj_left.mp hcells))
  rw [signatureOf]
  exact hfactors.extend_apply _ row

theorem groupBySignature_eq (hsha : CollisionFree columns rows) :
    groupBySignature rows idColumn columns =
    (groupsByCells rows columns).map fun entry =>
      (signatureOf columns entry.1, entry.2.map (memberOf idColumn)) := by
  have hitems :
      (rows.zipIdx.map fun item => (rowSignature columns item.1, memberOf idColumn item)) =
      (rows.zipIdx.map fun item => (cellsAt columns item.1, item)).map
        fun item => (signatureOf columns item.1, memberOf idColumn item.2) := by
    rw [List.map_map]
    exact List.map_congr_left fun item _ => by rw [Function.comp_apply, signatureOf_cellsAt]
  have hkeys : ∀ key ∈ (rows.zipIdx.map fun item => (cellsAt columns item.1, item)).map Prod.fst,
      ∃ row ∈ rows, key = cellsAt columns row := by
    intro key hkey
    rw [List.map_map] at hkey
    obtain ⟨item, hitem, rfl⟩ := List.mem_map.mp hkey
    exact ⟨item.1, List.fst_mem_of_mem_zipIdx hitem, rfl⟩
  rw [groupBySignature, hitems, groupsByCells]
  apply groupItems_map
  intro key hkey key' hkey' heq
  obtain ⟨row, hrow, rfl⟩ := hkeys key hkey
  obtain ⟨row', hrow', rfl⟩ := hkeys key' hkey'
  rw [signatureOf_cellsAt, signatureOf_cellsAt] at heq
  exact List.map_inj_left.mpr ((sameCells_iff hsha hrow hrow').mpr heq)

variable (idColumn)

/-- Both groupings have groups of the same sizes. -/
theorem lengths_perm (h : columns ≠ []) (hsha : CollisionFree columns rows) :
    ((repeatedGroups (signatureToObjectIds rows columns (some idColumn.1))).map List.length).Perm
      ((duplicateGroups rows idColumn columns).map fun group => group.2.length) := by
  refine List.Perm.trans ?_ lengths_duplicateGroups.symm
  rw [lengths_repeatedGroups, signatureToObjectIds_eq h, groupBySignature_eq hsha, List.map_map,
    List.map_map]
  simp [Function.comp_def]

theorem counts_eq (h : columns ≠ []) (hsha : CollisionFree columns rows) :
    (buildDuplicateDiagnostics (signatureToObjectIds rows columns (some idColumn.1)) columns
        (some idColumn.1)).duplicatePairCount = pairCount (duplicateGroups rows idColumn columns) ∧
      (buildDuplicateDiagnostics (signatureToObjectIds rows columns (some idColumn.1)) columns
        (some idColumn.1)).duplicateGroupCount =
          (duplicateGroups rows idColumn columns).length := by
  have hperm := lengths_perm idColumn h hsha
  constructor
  · have hsum := (hperm.map fun n => n - 1).sum_eq
    rw [List.map_map, List.map_map] at hsum
    exact hsum
  · have hlength := hperm.length_eq
    rw [List.length_map, List.length_map] at hlength
    exact hlength

end Counts

section Agreement

variable {release : Release} {data : Bytes} {t : Table}

theorem signatureToObjectIds_congr {columns : List Text} {idColumn : Text} {xs : List (List Text)}
    {row row' : List Text → Row} (hcolumns : ∀ line ∈ xs, ∀ column ∈ columns,
      cell column (row line) = cell column (row' line))
    (hid : ∀ line ∈ xs, cell idColumn (row line) = cell idColumn (row' line)) :
    signatureToObjectIds (xs.map row) columns (some idColumn) =
      signatureToObjectIds (xs.map row') columns (some idColumn) := by
  have hitems : (xs.map row).map (fun row => (cellsAt columns row, cell idColumn row)) =
      (xs.map row').map fun row => (cellsAt columns row, cell idColumn row) := by
    rw [List.map_map, List.map_map]
    refine List.map_congr_left fun line hline => ?_
    have hcells : cellsAt columns (row line) = cellsAt columns (row' line) :=
      List.map_congr_left (hcolumns line hline)
    rw [Function.comp_apply, Function.comp_apply, hcells, hid line hline]
  rw [signatureToObjectIds, signatureToObjectIds]
  split
  · rfl
  · exact congrArg groupItems hitems

/-- The profile sees the rows that the action copies. -/
theorem inferDuplicates_streamedRows (hid : defaultIdColumn.1 ∈ t.columns) :
    inferDuplicates (streamedRows t) t.columns defaultIdColumn.1 =
      inferDuplicates t.records t.columns defaultIdColumn.1 := by
  rw [← copiedRows_eq, inferDuplicates, inferDuplicates, if_pos hid]
  rw [streamedRows, copiedRows, signatureToObjectIds_congr]
  · intro line _ column hcolumn
    exact cell_streamedRow (mem_signatureColumns.mp hcolumn).1
  · exact fun line _ => cell_streamedRow hid

theorem signatureColumns_eq (columns : List Text) :
    signatureColumns columns (some defaultIdColumn.1) =
      resolveSignatureColumns columns none defaultIdColumn := by
  rw [signatureColumns, resolveSignatureColumns]
  congr 2
  funext column
  simp

/-- Whatever the lines of a file look like: what the profile counts in it is what the duplicate action finds
before it marks or removes anything, and with a line of data the action gets there. -/
theorem duplicate_counts_agree (hdecode : decode release data = .ok t)
    (hid : defaultIdColumn.1 ∈ t.columns)
    (hother : ∃ column ∈ t.columns, column ≠ defaultIdColumn.1)
    (hsha : CollisionFree (resolveSignatureColumns t.columns none defaultIdColumn) t.records)
    (mode : DuplicateActionMode) :
    ∃ profile, buildProfileDuplicates release data = .ok profile ∧
      (∀ sourceHash result,
        executeTabularDuplicatesAction ⟨mode.value, sourceHash, defaultIdColumn, none⟩
          ⟨data, decode release data⟩ = .ok result →
        profile.duplicatePairCount = result.report.beforeDuplicatePairCount ∧
          profile.duplicateGroupCount = result.report.beforeDuplicateGroupCount) ∧
      (t.records ≠ [] → ∃ result, executeTabularDuplicatesAction
        ⟨mode.value, sha256Digest data, defaultIdColumn, none⟩ ⟨data, decode release data⟩ =
          .ok result) := by
  have hcolumns : t.columns ≠ [] := List.ne_nil_of_mem hid
  have hsignature : resolveSignatureColumns t.columns none defaultIdColumn ≠ [] := by
    obtain ⟨column, hcolumn, hne⟩ := hother
    rw [← signatureColumns_eq]
    exact List.ne_nil_of_mem (mem_signatureColumns.mpr ⟨hcolumn, hne⟩)
  refine ⟨inferDuplicates (streamedRows t) t.columns defaultIdColumn.1, ?_,
    fun sourceHash result hresult => ?_, fun hrecords => ?_⟩
  · rw [buildProfileDuplicates, hdecode, ok_bind, check_bind_eq_ok]
    exact ⟨guardOk_eq_ok.mpr hcolumns, rfl⟩
  · obtain ⟨-, found, hfound, -, -, -, -, rfl⟩ := execute_eq_ok.mp hresult
    obtain rfl := Except.ok.inj (hdecode.symm.trans hfound)
    have hcounts := counts_eq defaultIdColumn hsignature hsha
    rw [inferDuplicates_streamedRows hid, inferDuplicates, if_pos hid, signatureColumns_eq]
    cases mode with
    | mark => exact hcounts
    | removeCandidate => exact hcounts
  · exact ⟨_, execute_eq_ok.mpr ⟨rfl, t, hdecode, hcolumns, hrecords, hid, hsignature, rfl⟩⟩

theorem collisionFree_twins :
    CollisionFree (resolveSignatureColumns twins.columns none defaultIdColumn) twins.records := by
  have hamounts : ∀ row ∈ twins.records, cell "amount".toList row = "1".toList := by decide +kernel
  have hcolumns : resolveSignatureColumns twins.columns none defaultIdColumn =
      ["amount".toList] := rfl
  intro row hrow row' hrow' _
  rw [hcolumns]
  refine rowBytes_congr fun column hcolumn => ?_
  rw [List.mem_singleton.mp hcolumn, hamounts row hrow, hamounts row' hrow']

theorem decode_twins : decode newerRelease (encode newerRelease twins) = .ok twins := by
  apply decode_encode
  have hshort : ∀ line ∈ twins.header :: twins.lines, ∀ field ∈ line, field.length ≤
      131072 := by decide
  have hsafe : ∀ line ∈ twins.header :: twins.lines, ∀ field ∈ line, '\r' ∉ field := by decide
  exact fun line hline field hfield =>
    ⟨hshort line hline field hfield, fun hreturn => absurd hreturn (hsafe line hline field hfield)⟩

theorem duplicate_counts_agree_twins :
    ∃ profile, buildProfileDuplicates newerRelease (encode newerRelease twins) = .ok profile ∧
      (∀ sourceHash result, executeTabularDuplicatesAction
          ⟨DuplicateActionMode.removeCandidate.value, sourceHash, defaultIdColumn, none⟩
          ⟨encode newerRelease twins, decode newerRelease (encode newerRelease twins)⟩ =
            .ok result →
        profile.duplicatePairCount = result.report.beforeDuplicatePairCount ∧
          profile.duplicateGroupCount = result.report.beforeDuplicateGroupCount) ∧
      (twins.records ≠ [] → ∃ result, executeTabularDuplicatesAction
        ⟨DuplicateActionMode.removeCandidate.value, sha256Digest (encode newerRelease twins),
          defaultIdColumn, none⟩
        ⟨encode newerRelease twins, decode newerRelease (encode newerRelease twins)⟩ =
          .ok result) :=
  duplicate_counts_agree decode_twins (by decide) ⟨"amount".toList, by decide⟩ collisionFree_twins
    .removeCandidate

end Agreement

end DataForge.Plugins.Tabular.DuplicateCounts
