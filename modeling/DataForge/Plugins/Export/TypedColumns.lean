import DataForge.Foundation.Failures
import DataForge.Plugins.Export.TabularWriter

namespace DataForge.Plugins.Export.TypedColumns

open DataForge.Foundation.Strings
open DataForge.Foundation.Outcome
open DataForge.Foundation.Failures
open DataForge.Foundation.Dictionary
open DataForge.Foundation.Features
open DataForge.Foundation.Scores
open DataForge.Foundation.Tables
open DataForge.Domain.Common
open DataForge.Domain.Splits
open DataForge.Plugins.Export.TabularWriter

section Coercion

/-- Every cell that is not empty can be read. -/
def AllRead {α : Type} (read : Text → Option α) (values : List Text) : Prop :=
  ∀ value ∈ values, value ≠ [] → read value ≠ none

instance {α : Type} (read : Text → Option α) (values : List Text) [DecidableEq α] :
    Decidable (AllRead read values) :=
  inferInstanceAs (Decidable (∀ value ∈ values, value ≠ [] → read value ≠ none))

/-- Reading all cells gives each cell's own reading, where there is one for each. -/
theorem readAll_map_clean {α : Type} (read : Text → Option α) (values : List Text) :
    (AllRead read values ∧
      readAll read (values.map clean) = some (values.map fun value => (clean value).bind read)) ∨
    (¬ AllRead read values ∧ readAll read (values.map clean) = none) := by
  induction values with
  | nil => exact .inl ⟨fun value h => (by cases h), rfl⟩
  | cons value values ih =>
    have hcons :
        AllRead read (value :: values) ↔ (value ≠ [] → read value ≠ none) ∧ AllRead read values :=
      List.forall_mem_cons
    rw [hcons]
    by_cases hempty : value = []
    · subst value
      rcases ih with ⟨hall, hread⟩ | ⟨hnot, hread⟩
      · exact .inl ⟨⟨fun h => absurd rfl h, hall⟩, by simp [clean, readAll, hread]⟩
      · exact .inr ⟨fun h => hnot h.2, by simp [clean, readAll, hread]⟩
    · cases hvalue : read value with
      | none => exact .inr ⟨fun h => h.1 hempty rfl, by simp [clean, readAll, hempty, hvalue]⟩
      | some v =>
        rcases ih with ⟨hall, hread⟩ | ⟨hnot, hread⟩
        · refine .inl ⟨⟨fun _ => by simp, hall⟩, ?_⟩
          simp [clean, readAll, hempty, hvalue, hread]
        · exact .inr ⟨fun h => hnot h.2, by simp [clean, readAll, hempty, hvalue, hread]⟩

variable {F : Type} [MetricLike F]

/-- The four ways in which a column's type is chosen. -/
theorem coerce_cases (values : List Text) :
    ((∀ value ∈ values, value = []) ∧
        coerceColumnValues (F := F) values = .string (values.map clean)) ∨
    ((∃ value ∈ values, value ≠ []) ∧
      (AllRead readInt values ∧
          coerceColumnValues (F := F) values =
          .int64 (values.map fun value => (clean value).bind readInt) ∨
        ¬ AllRead readInt values ∧ AllRead (MetricLike.parse (F := F)) values ∧
          coerceColumnValues (F := F) values =
            .float64 (values.map fun value => (clean value).bind MetricLike.parse) ∨
        ¬ AllRead readInt values ∧ ¬ AllRead (MetricLike.parse (F := F)) values ∧
          coerceColumnValues (F := F) values = .string (values.map clean))) := by
  have hempty : (values.map clean).all Option.isNone = true ↔ ∀ value ∈ values, value = [] := by
    rw [List.all_map, List.all_eq_true]
    refine forall₂_congr fun value _ => ?_
    by_cases h : value = [] <;> simp [clean, h]
  by_cases hall : ∀ value ∈ values, value = []
  · refine .inl ⟨hall, ?_⟩
    rw [coerceColumnValues]
    exact if_pos (hempty.mpr hall)
  · refine .inr ⟨by simpa using hall, ?_⟩
    rw [coerceColumnValues, if_neg (mt hempty.mp hall)]
    rcases readAll_map_clean readInt values with ⟨hints, hread⟩ | ⟨hints, hread⟩
    · exact .inl ⟨hints, by rw [hread]⟩
    · rcases readAll_map_clean (MetricLike.parse (F := F))
        values with ⟨hfloats, hparse⟩ | ⟨hfloats, hparse⟩
      · exact .inr (.inl ⟨hints, hfloats, by rw [hread, hparse]⟩)
      · exact .inr (.inr ⟨hints, hfloats, by rw [hread, hparse]⟩)

theorem isNone_bind_clean {α : Type} {read : Text → Option α} {values : List Text}
    (h : AllRead read values) :
    (values.map fun value => (clean value).bind read).map Option.isNone =
      values.map fun value => decide (value = []) := by
  rw [List.map_map]
  refine List.map_congr_left fun value hvalue => ?_
  by_cases hempty : value = []
  · simp [clean, hempty]
  · have hread := h value hvalue hempty
    cases hv : read value with
    | none => exact absurd hv hread
    | some v => simp [clean, hempty, hv]

/-- The nulls are the empty cells, whatever type is chosen. -/
theorem nulls_coerce (values : List Text) :
    (coerceColumnValues (F := F) values).nulls = values.map fun value => decide (value = []) := by
  have hclean : (values.map clean).map Option.isNone =
      values.map fun value => decide (value = []) := by
    rw [List.map_map]
    refine List.map_congr_left fun value _ => ?_
    by_cases hempty : value = [] <;> simp [clean, hempty]
  rcases coerce_cases (F := F) values with ⟨-, h⟩ | ⟨-, ⟨hints, h⟩ | ⟨-, hfloats, h⟩ | ⟨-, -, h⟩⟩
  · rw [h]
    exact hclean
  · rw [h]
    exact isNone_bind_clean hints
  · rw [h]
    exact isNone_bind_clean hfloats
  · rw [h]
    exact hclean

end Coercion

section Overflow

/-- All cells that are not empty are integers, and one of them is beyond the machine's. -/
def Overflows (values : List Text) : Prop :=
  AllRead readInt values ∧ ∃ value ∈ values, value ≠ [] ∧ ∃ n, readInt value = some n ∧ ¬ InInt64 n

variable {F : Type} [MetricLike F] (arrow : Arrow F)

theorem array_coerce (values : List Text) :
    (∃ column, arrow.array (coerceColumnValues values) = .ok column) ↔ ¬ Overflows values := by
  rcases coerce_cases (F := F) values with
    ⟨hempty, h⟩ | ⟨-, ⟨hints, h⟩ | ⟨hints, -, h⟩ | ⟨hints, -, h⟩⟩
  · rw [h]
    refine ⟨fun _ hover => ?_, fun _ => arrow.array_string _⟩
    obtain ⟨-, value, hvalue, hne, -⟩ := hover
    exact hne (hempty value hvalue)
  · rw [h, arrow.array_int64]
    constructor
    · rintro hin ⟨-, value, hvalue, hne, n, hn, hout⟩
      exact hout (hin n (List.mem_map.mpr ⟨value, hvalue, by simp [clean, hne, hn]⟩))
    · intro hno n hn
      obtain ⟨value, hvalue, hread⟩ := List.mem_map.mp hn
      by_contra hout
      by_cases hne : value = []
      · simp [clean, hne] at hread
      · exact hno ⟨hints, value, hvalue, hne, n, by simpa [clean, hne] using hread, hout⟩
  · rw [h]
    exact ⟨fun _ hover => hints hover.1, fun _ => arrow.array_float64 _⟩
  · rw [h]
    exact ⟨fun _ hover => hints hover.1, fun _ => arrow.array_string _⟩

/-- What the type of a column promises: an integer type for integers in its range, an
array that can be built, and nulls for the empty cells alone. -/
structure TypedSafely (values : List Text) : Prop where
  int64 : (coerceColumnValues (F := F) values).dtype = .int64 →
    ∀ value ∈ values, value ≠ [] → ∃ n, readInt value = some n ∧ InInt64 n
  built : ∃ column, arrow.array (coerceColumnValues values) = .ok column
  nulls : ∀ column, arrow.array (coerceColumnValues values) = .ok column →
    arrow.nulls column = values.map fun value => decide (value = [])

theorem allRead_of_dtype {values : List Text}
    (h : (coerceColumnValues (F := F) values).dtype = .int64) : AllRead readInt values := by
  rcases coerce_cases (F := F) values with ⟨-, he⟩ | ⟨-, ⟨hints, -⟩ | ⟨-, -, he⟩ | ⟨-, -, he⟩⟩
  · rw [he] at h
    cases h
  · exact hints
  · rw [he] at h
    cases h
  · rw [he] at h
    cases h

theorem typedSafely_iff (values : List Text) : TypedSafely arrow values ↔ ¬ Overflows values := by
  rw [← array_coerce arrow]
  refine ⟨fun h => h.built,
    fun hbuilt => ⟨fun htype value hvalue hne => ?_, hbuilt, fun column h => ?_⟩⟩
  · have hints := allRead_of_dtype htype
    obtain ⟨n, hn⟩ := Option.ne_none_iff_exists'.mp (hints value hvalue hne)
    refine ⟨n, hn, ?_⟩
    by_contra hout
    exact (array_coerce arrow values).mp hbuilt ⟨hints, value, hvalue, hne, n, hn, hout⟩
  · rw [arrow.nulls_array h, nulls_coerce]

end Overflow

section Writes

variable {F : Type} [MetricLike F] {arrow : Arrow F} {S : Type} {save : ExportFile arrow → Result S}

/-- A column of the rows overflows. -/
def SomeOverflows (rows : List Row) (columns : List Text) : Prop :=
  ∃ column ∈ columns, Overflows (rows.map (cell column))

variable (arrow) in
theorem exists_rowsToArrow {rows : List Row} {columns : List Text} :
    (∃ table, rowsToArrow arrow rows columns = .ok table) ↔ ¬ SomeOverflows rows columns := by
  have harrays : (∃ arrays, columns.mapM (columnArray arrow rows) = .ok arrays) ↔
      ∀ column ∈ columns, ¬ Overflows (rows.map (cell column)) := by
    rw [exists_mapM_iff]
    refine forall₂_congr fun column _ => ?_
    rw [← array_coerce arrow]
    constructor
    · rintro ⟨pair, h⟩
      obtain ⟨array, harray, -⟩ := bind_eq_ok.mp h
      exact ⟨array, harray⟩
    · rintro ⟨array, harray⟩
      exact ⟨_, bind_eq_ok.mpr ⟨array, harray, rfl⟩⟩
  rw [SomeOverflows]
  push Not
  rw [← harrays]
  constructor
  · rintro ⟨table, h⟩
    obtain ⟨arrays, harrays, -⟩ := bind_eq_ok.mp h
    exact ⟨arrays, harrays⟩
  · rintro ⟨arrays, harrays⟩
    exact ⟨_, bind_eq_ok.mpr ⟨arrays, harrays, rfl⟩⟩

section Saved

variable (hsave : ∀ file, ∃ saved, save file = .ok saved)
include hsave

theorem exists_persistParquet {rows : List Row} {columns : List Text} (split : Option DataSplit) :
    (∃ file, persistParquet arrow save rows columns split = .ok file) ↔
      ¬ SomeOverflows rows columns := by
  rw [← exists_rowsToArrow arrow]
  constructor
  · rintro ⟨file, h⟩
    obtain ⟨table, htable, -⟩ := bind_eq_ok.mp h
    exact ⟨table, htable⟩
  · rintro ⟨table, htable⟩
    obtain ⟨saved, hsaved⟩ := hsave ⟨.parquet table, split, rows.length, columns.length⟩
    exact ⟨_, bind_eq_ok.mpr ⟨table, htable, bind_eq_ok.mpr ⟨saved, hsaved, rfl⟩⟩⟩

omit [MetricLike F] in
theorem exists_persistCsvIf (writeCsv : Bool) (rows : List Row) (columns : List Text)
    (split : Option DataSplit) :
    ∃ csv, persistCsvIf arrow save writeCsv rows columns split = .ok csv := by
  cases writeCsv with
  | false => exact ⟨none, rfl⟩
  | true =>
    obtain ⟨saved, hsaved⟩ :=
      hsave ⟨.csv (Table.write columns rows), split, rows.length, columns.length⟩
    refine ⟨some saved, ?_⟩
    rw [persistCsvIf, if_pos rfl, persistCsv, hsaved]
    rfl

theorem exists_persistSplit {request : TabularExportRequest} {columns : List Text}
    {group : DataSplit × List Row} :
    (∃ entry, persistSplit arrow save request columns group = .ok entry) ↔
      ¬ SomeOverflows group.2 columns := by
  rw [← exists_persistParquet hsave (some group.1)]
  constructor
  · rintro ⟨entry, h⟩
    obtain ⟨file, hfile, -⟩ := bind_eq_ok.mp h
    exact ⟨file, hfile⟩
  · rintro ⟨file, hfile⟩
    obtain ⟨csv, hcsv⟩ := exists_persistCsvIf hsave request.writeCsv group.2 columns (some group.1)
    exact ⟨_, bind_eq_ok.mpr ⟨file, hfile, bind_eq_ok.mpr ⟨csv, hcsv, rfl⟩⟩⟩

theorem exists_writePerSplitArtifacts {request : TabularExportRequest} {manifest : SplitManifest}
    {rows : List Row} {columns : List Text} :
    (∃ entries, writePerSplitArtifacts arrow save request manifest rows columns = .ok entries) ↔
      ∀ group ∈ rowsBySplit request manifest rows, ¬ SomeOverflows group.2 columns := by
  rw [writePerSplitArtifacts, exists_mapM_iff]
  refine forall_congr' fun group => ?_
  rw [List.mem_mergeSort, exists_persistSplit hsave]

end Saved

/-- The rows of each file that is written: those of the whole export, and those of each split. -/
def exportedRows (request : TabularExportRequest) (t : Table) : List (List Row) :=
  let filtered := filteredRows request (t.lines.map (exportRow t.header))
  filtered :: match request.splitManifest with
    | some manifest =>
      if request.writePerSplit then (rowsBySplit request manifest filtered).map Prod.snd else []
    | none => []

theorem writeTabularExport_eq_ok {request : TabularExportRequest} {t : Table}
    (hcolumn : request.objectIdColumn.1 ∈ t.header) {artifacts : TabularExportArtifacts arrow S} :
    writeTabularExport arrow save request t = .ok artifacts ↔ ∃ parquet csv perSplit,
      persistParquet arrow save (filteredRows request (t.lines.map (exportRow t.header)))
        t.header none =
        .ok parquet ∧
      persistCsvIf arrow save request.writeCsv
        (filteredRows request (t.lines.map (exportRow t.header)))
        t.header none = .ok csv ∧
      perSplitArtifacts arrow save request (filteredRows request (t.lines.map (exportRow t.header)))
        t.header = .ok perSplit ∧
      artifacts = ⟨parquet, csv, perSplit, t.header,
        (filteredRows request (t.lines.map (exportRow t.header))).length,
        (t.lines.map (exportRow t.header)).length -
          (filteredRows request (t.lines.map (exportRow t.header))).length⟩ := by
  have hheader : t.header ≠ [] := List.ne_nil_of_mem hcolumn
  have hread : readCandidateRows t = .ok (t.lines.map (exportRow t.header), t.header) :=
    check_bind_eq_ok.mpr ⟨guardOk_eq_ok.mpr hheader, rfl⟩
  rw [writeTabularExport, hread, ok_bind]
  dsimp only
  rw [check_bind_eq_ok, guardOk_eq_ok]
  constructor
  · rintro ⟨-, h⟩
    obtain ⟨parquet, hparquet, h⟩ := bind_eq_ok.mp h
    obtain ⟨csv, hcsv, h⟩ := bind_eq_ok.mp h
    obtain ⟨perSplit, hsplits, h⟩ := bind_eq_ok.mp h
    exact ⟨parquet, csv, perSplit, hparquet, hcsv, hsplits, (Except.ok.inj h).symm⟩
  · rintro ⟨parquet, csv, perSplit, hparquet, hcsv, hsplits, rfl⟩
    exact ⟨hcolumn, bind_eq_ok.mpr ⟨parquet, hparquet, bind_eq_ok.mpr ⟨csv, hcsv,
      bind_eq_ok.mpr ⟨perSplit, hsplits, rfl⟩⟩⟩⟩

theorem exists_writeTabularExport (hsave : ∀ file, ∃ saved, save file = .ok saved)
    {request : TabularExportRequest} {t : Table} (hcolumn : request.objectIdColumn.1 ∈ t.header) :
    (∃ artifacts, writeTabularExport arrow save request t = .ok artifacts) ↔
      ∀ rows ∈ exportedRows request t, ¬ SomeOverflows rows t.header := by
  have hsplits : (∃ perSplit, perSplitArtifacts arrow save request
      (filteredRows request (t.lines.map (exportRow t.header))) t.header = .ok perSplit) ↔
      ∀ rows ∈ (exportedRows request t).tail, ¬ SomeOverflows rows t.header := by
    rw [perSplitArtifacts, exportedRows, List.tail_cons]
    cases request.splitManifest with
    | none => exact ⟨fun _ rows hrows => absurd hrows List.not_mem_nil, fun _ => ⟨[], rfl⟩⟩
    | some manifest =>
      cases request.writePerSplit with
      | false => exact ⟨fun _ rows hrows => absurd hrows List.not_mem_nil, fun _ => ⟨[], rfl⟩⟩
      | true =>
        dsimp only
        rw [if_pos rfl, if_pos rfl, exists_writePerSplitArtifacts hsave, List.forall_mem_map]
  have hcons : exportedRows request t =
      filteredRows request (t.lines.map (exportRow t.header)) ::
        (exportedRows request t).tail := rfl
  rw [hcons, List.forall_mem_cons, ← hsplits, ← exists_persistParquet hsave none]
  constructor
  · rintro ⟨artifacts, h⟩
    obtain ⟨parquet, csv, perSplit, hparquet, -, hperSplit, -⟩ :=
      (writeTabularExport_eq_ok hcolumn).mp h
    exact ⟨⟨parquet, hparquet⟩, perSplit, hperSplit⟩
  · rintro ⟨⟨parquet, hparquet⟩, perSplit, hperSplit⟩
    obtain ⟨csv, hcsv⟩ := exists_persistCsvIf hsave request.writeCsv
      (filteredRows request (t.lines.map (exportRow t.header))) t.header none
    exact ⟨_, (writeTabularExport_eq_ok hcolumn).mpr
      ⟨parquet, csv, perSplit, hparquet, hcsv, hperSplit, rfl⟩⟩

/-- Columns are typed safely, and the export is written, exactly where no column consists of
integers of which one is beyond the machine's. -/
theorem typedExport_iff (hsave : ∀ file, ∃ saved, save file = .ok saved)
    {request : TabularExportRequest} {t : Table} (hcolumn : request.objectIdColumn.1 ∈ t.header) :
    (∀ values, TypedSafely arrow values ↔ ¬ Overflows values) ∧
      ((∃ artifacts, writeTabularExport arrow save request t = .ok artifacts) ↔
        ∀ rows ∈ exportedRows request t, ¬ SomeOverflows rows t.header) :=
  ⟨typedSafely_iff arrow, exists_writeTabularExport hsave hcolumn⟩

/-- An account number of twenty digits under the number of a row. -/
def accountTable : Table where
  header := ["object_id".toList, "account".toList]
  lines := [["o1".toList, "12345678901234567890".toList], ["o2".toList, [] ]]

def plainSave (_ : ExportFile (plainArrow ℚ)) : Result Unit := .ok ()

def plainRequest : TabularExportRequest where
  splitManifest := none
  blockedObjectIds := []

theorem typedExport_account :
    ¬ ∃ artifacts, writeTabularExport (plainArrow ℚ) plainSave plainRequest accountTable =
      .ok artifacts := by
  have hsave (file : ExportFile (plainArrow ℚ)) : ∃ saved, plainSave file = .ok saved := ⟨(), rfl⟩
  have hcolumn : plainRequest.objectIdColumn.1 ∈ accountTable.header := by decide
  intro h
  refine (typedExport_iff hsave hcolumn).2.mp h _ List.mem_cons_self
    ⟨"account".toList, by decide, ?_,
    "12345678901234567890".toList, ?_⟩
  · decide +kernel
  · exact ⟨by decide +kernel, by decide, 12345678901234567890, by decide +kernel, by decide⟩

/-- The type of the account numbers is the machine's integer type, and no array holds them. -/
theorem account_overflows :
    (coerceColumnValues (F := ℚ) ["12345678901234567890".toList, [] ]).dtype = .int64 ∧
      ¬ TypedSafely (plainArrow ℚ) ["12345678901234567890".toList, [] ] := by
  constructor
  · decide +kernel
  · intro h
    obtain ⟨n, hn, hin⟩ :=
      h.int64 (by decide +kernel) "12345678901234567890".toList (by simp) (by decide)
    have hread :
        readInt "12345678901234567890".toList = some 12345678901234567890 := by decide +kernel
    obtain rfl := Option.some.inj (hread.symm.trans hn)
    exact absurd hin (by decide)

end Writes

end DataForge.Plugins.Export.TypedColumns
