import DataForge.Plugins.Export.TypedColumns
import DataForge.Plugins.Tabular.SplitCreation
import DataForge.Foundation.Lists

namespace DataForge.Plugins.Export.SplitFiles

open DataForge.Foundation.Lists
open DataForge.Foundation.Strings
open DataForge.Foundation.Outcome
open DataForge.Foundation.Failures
open DataForge.Foundation.Dictionary
open DataForge.Foundation.Grouping
open DataForge.Foundation.Features
open DataForge.Foundation.Json
open DataForge.Foundation.Numbers
open DataForge.Foundation.Scores
open DataForge.Foundation.Tables
open DataForge.Domain.Common
open DataForge.Domain.Splits
open DataForge.Plugins.Export.TabularWriter
open DataForge.Plugins.Export.TypedColumns
open DataForge.Plugins.Tabular.Sources
open DataForge.Plugins.Tabular.Splits
open DataForge.Plugins.Tabular.SplitCreation
open DataForge.Plugins.Tabular.SplitFidelity (keepOrder halfAndQuarters)

section Kinds

variable (F : Type) [MetricLike F]

/-- A part of a column is typed like the whole: of integers it has at least one cell, of
numbers one that is no integer, and of texts none or one that is no integer and one that is
no number. -/
def KindAgrees (full part : List Text) : Prop :=
  (∃ value ∈ full, value ≠ []) →
    (AllRead readInt full → ∃ value ∈ part, value ≠ []) ∧
    (¬ AllRead readInt full → AllRead (MetricLike.parse (F := F)) full → ¬ AllRead readInt part) ∧
    (¬ AllRead readInt full → ¬ AllRead (MetricLike.parse (F := F)) full →
      (∀ value ∈ part, value = []) ∨ ¬ AllRead readInt part ∧
      ¬ AllRead (MetricLike.parse (F := F)) part)

variable {F}

theorem allRead_mono {α : Type} {read : Text → Option α} {full part : List Text}
    (h : AllRead read full) (hsub : part ⊆ full) : AllRead read part :=
  fun value hvalue => h value (hsub hvalue)

theorem allRead_of_empty {α : Type} {read : Text → Option α} {values : List Text}
    (h : ∀ value ∈ values, value = []) : AllRead read values :=
  fun value hvalue hne => absurd (h value hvalue) hne

theorem dtype_string_iff {values : List Text} :
    (coerceColumnValues (F := F) values).dtype = .string ↔ (∀ value ∈ values, value = []) ∨
      ¬ AllRead readInt values ∧ ¬ AllRead (MetricLike.parse (F := F)) values := by
  rcases coerce_cases (F := F) values with
    ⟨hempty, h⟩ | ⟨hsome, ⟨hints, h⟩ | ⟨hints, hfloats, h⟩ | ⟨hints, hfloats, h⟩⟩
  · exact ⟨fun _ => .inl hempty, fun _ => by rw [h]; rfl⟩
  all_goals
    have hnot : ¬ ∀ value ∈ values, value = [] := by simpa using hsome
    rw [h]
    simp [Coerced.dtype, hnot, hints]
  · exact hfloats
  · exact hfloats

theorem dtype_int64_iff {values : List Text} :
    (coerceColumnValues (F := F) values).dtype = .int64 ↔
      (∃ value ∈ values, value ≠ []) ∧ AllRead readInt values := by
  rcases coerce_cases (F := F) values with
    ⟨hempty, h⟩ | ⟨hsome, ⟨hints, h⟩ | ⟨hints, hfloats, h⟩ | ⟨hints, hfloats, h⟩⟩
  · rw [h]
    refine ⟨fun hd => (by cases hd),
      fun ⟨⟨value, hvalue, hne⟩, _⟩ => absurd (hempty value hvalue) hne⟩
  · exact ⟨fun _ => ⟨hsome, hints⟩, fun _ => by rw [h]; rfl⟩
  · rw [h]
    exact ⟨fun hd => (by cases hd), fun hd => absurd hd.2 hints⟩
  · rw [h]
    exact ⟨fun hd => (by cases hd), fun hd => absurd hd.2 hints⟩

theorem dtype_float64_iff {values : List Text} :
    (coerceColumnValues (F := F) values).dtype = .float64 ↔
      ¬ AllRead readInt values ∧ AllRead (MetricLike.parse (F := F)) values := by
  rcases coerce_cases (F := F) values with
    ⟨hempty, h⟩ | ⟨hsome, ⟨hints, h⟩ | ⟨hints, hfloats, h⟩ | ⟨hints, hfloats, h⟩⟩
  · rw [h]
    exact ⟨fun hd => (by cases hd), fun hd => absurd (allRead_of_empty hempty) hd.1⟩
  · rw [h]
    exact ⟨fun hd => (by cases hd), fun hd => absurd hints hd.1⟩
  · exact ⟨fun _ => ⟨hints, hfloats⟩, fun _ => by rw [h]; rfl⟩
  · rw [h]
    exact ⟨fun hd => (by cases hd), fun hd => absurd hd.2 hfloats⟩

theorem dtype_eq_iff {full part : List Text} (hsub : part ⊆ full) :
    (coerceColumnValues (F := F) part).dtype = (coerceColumnValues (F := F) full).dtype ↔
      KindAgrees F full part := by
  by_cases hfull : ∃ value ∈ full, value ≠ []
  · by_cases hints : AllRead readInt full
    · rw [dtype_int64_iff.mpr ⟨hfull, hints⟩, dtype_int64_iff]
      simp [KindAgrees, hfull, hints, allRead_mono hints hsub]
    · by_cases hfloats : AllRead (MetricLike.parse (F := F)) full
      · rw [dtype_float64_iff.mpr ⟨hints, hfloats⟩, dtype_float64_iff]
        simp [KindAgrees, hfull, hints, hfloats, allRead_mono hfloats hsub]
      · rw [dtype_string_iff.mpr (.inr ⟨hints, hfloats⟩), dtype_string_iff]
        simp [KindAgrees, hfull, hints, hfloats]
  · have hempty : ∀ value ∈ full, value = [] := by simpa using hfull
    rw [dtype_string_iff.mpr (.inl hempty), dtype_string_iff]
    simp only [KindAgrees, hfull, false_imp_iff, iff_true]
    exact .inl fun value hvalue => hempty value (hsub hvalue)

/-- A part that is typed like the whole overflows only where the whole does. -/
theorem overflows_of_part {full part : List Text} (hsub : part ⊆ full)
    (hkind : KindAgrees F full part) (h : Overflows part) : Overflows full := by
  obtain ⟨hints, value, hvalue, hne, hout⟩ := h
  have hpart := dtype_int64_iff (F := F).mpr ⟨⟨value, hvalue, hne⟩, hints⟩
  rw [(dtype_eq_iff hsub).mpr hkind] at hpart
  exact ⟨(dtype_int64_iff.mp hpart).2, value, hsub hvalue, hne, hout⟩

end Kinds

section Reading

/-- Where a name stands once in the header, a line that is cut off reads as one with empty
cells. -/
theorem cell_zip {column : Text} {header line : List Text} (h : header.count column = 1) {d : Row}
    (hd : get? column d = none) : cell column (update d (header.zip line)) =
      cell column (update d (header.mapIdx fun i name => (name, line.getD i []))) := by
  induction header generalizing line d with
  | nil => cases h
  | cons name header ih =>
    rw [List.mapIdx_cons, update_cons]
    by_cases hname : name = column
    · subst name
      have hnone : column ∉ header := by
        rw [← List.count_eq_zero]
        simpa using h
      have hrest : ∀ (values : Nat → Text) (e : Row),
          get? column (update e (header.mapIdx fun i name => (name, values i))) =
            get? column e := by
        intro values e
        apply get?_update_of_notMem
        rwa [keys_mapIdx]
      rw [cell, cell, hrest, get?_set_self]
      cases line with
      | nil => simp [hd]
      | cons value line =>
        have hzip : column ∉ (header.zip line).map Prod.fst := by
          intro hmem
          obtain ⟨item, hitem, heq⟩ := List.mem_map.mp hmem
          exact hnone (heq ▸ (List.of_mem_zip hitem).1)
        rw [List.zip_cons_cons, update_cons, get?_update_of_notMem hzip, get?_set_self]
        rfl
    · have hcount : header.count column = 1 := by rwa [List.count_cons_of_ne hname] at h
      cases line with
      | nil =>
        have hset : get? column (set name ([] : Text) d) = none := by rw [get?_set_ne hname, hd]
        have hnil := @ih [] hcount _ hset
        rw [List.zip_nil_right, update_nil, cell, hset] at hnil
        rw [List.zip_nil_right, update_nil, cell, hd]
        simpa using hnil
      | cons value line =>
        have hset : get? column (set name value d) = none := by rw [get?_set_ne hname, hd]
        rw [List.zip_cons_cons, update_cons]
        simpa using @ih line hcount _ hset

end Reading

section Entries

variable {F : Type} [MetricLike F] {arrow : Arrow F} {S : Type} {save : ExportFile arrow → Result S}

/-- The rows that have a split, under it. -/
def splitItems (request : TabularExportRequest) (manifest : SplitManifest) (rows : List Row) :
    List (DataSplit × Row) :=
  rows.filterMap fun row => (splitOfRow request manifest row).map fun split => (split, row)

/-- A file was written from these rows and holds their table. -/
def HoldsTable (columns : List Text) (file : ParquetFile arrow S) : Prop :=
  rowsToArrow arrow file.rows columns = .ok file.table

/-- What the files of the splits are, by the rows under each split. -/
structure EntriesOf (columns : List Text) (items : List (DataSplit × Row))
    (entries : List (TabularExportPerSplitArtifact arrow S)) : Prop where
  distinct : (entries.map TabularExportPerSplitArtifact.split).Nodup
  present : ∀ split, split ∈ entries.map TabularExportPerSplitArtifact.split ↔
    split ∈ items.map Prod.fst
  rows : ∀ entry ∈ entries, entry.parquetArtifact.rows =
    (items.filter fun item => item.1 = entry.split).map Prod.snd
  counts : ∀ entry ∈ entries, entry.rowCount = entry.parquetArtifact.rows.length
  total : (entries.map TabularExportPerSplitArtifact.rowCount).sum = items.length
  tables : ∀ entry ∈ entries, HoldsTable columns entry.parquetArtifact

theorem persistParquet_eq_ok {rows : List Row} {columns : List Text} {split : Option DataSplit}
    {file : ParquetFile arrow S} (h : persistParquet arrow save rows columns split = .ok file) :
    file.rows = rows ∧ HoldsTable columns file := by
  obtain ⟨table, htable, h⟩ := bind_eq_ok.mp h
  obtain ⟨saved, -, h⟩ := bind_eq_ok.mp h
  obtain rfl := Except.ok.inj h
  exact ⟨rfl, htable⟩

theorem persistSplit_eq_ok {request : TabularExportRequest} {columns : List Text}
    {group : DataSplit × List Row} {entry : TabularExportPerSplitArtifact arrow S}
    (h : persistSplit arrow save request columns group = .ok entry) :
    (entry.split, entry.parquetArtifact.rows) = group ∧ entry.rowCount = group.2.length ∧
      HoldsTable columns entry.parquetArtifact := by
  obtain ⟨file, hfile, h⟩ := bind_eq_ok.mp h
  obtain ⟨csv, -, h⟩ := bind_eq_ok.mp h
  obtain rfl := Except.ok.inj h
  obtain ⟨hrows, htable⟩ := persistParquet_eq_ok hfile
  exact ⟨Prod.ext rfl hrows, rfl, htable⟩

theorem entriesOf_write {request : TabularExportRequest} {manifest : SplitManifest}
    {rows : List Row} {columns : List Text} {entries : List (TabularExportPerSplitArtifact arrow S)}
    (h : writePerSplitArtifacts arrow save request manifest rows columns = .ok entries) :
    EntriesOf columns (splitItems request manifest rows) entries := by
  rw [writePerSplitArtifacts] at h
  have hgroups : entries.map (fun entry => (entry.split, entry.parquetArtifact.rows)) =
      (rowsBySplit request manifest rows).mergeSort fun a b => decide (a.1.value ≤ b.1.value) := by
    simpa using map_of_mapM (fun group entry he => (persistSplit_eq_ok he).1) h
  have hcounts : entries.map TabularExportPerSplitArtifact.rowCount =
      ((rowsBySplit request manifest rows).mergeSort fun a b => decide (a.1.value ≤ b.1.value)).map
        fun group => group.2.length :=
    map_of_mapM (fun group entry he => (persistSplit_eq_ok he).2.1) h
  have hperm := List.mergeSort_perm (rowsBySplit request manifest rows) fun a b =>
    decide (a.1.value ≤ b.1.value)
  have hsplits : entries.map TabularExportPerSplitArtifact.split =
      ((rowsBySplit request manifest rows).mergeSort fun a b => decide (a.1.value ≤ b.1.value)).map
        Prod.fst := by
    rw [← hgroups, List.map_map]
    rfl
  have hgroup : ∀ entry ∈ entries, (entry.split, entry.parquetArtifact.rows) ∈
      rowsBySplit request manifest rows := by
    intro entry hentry
    rw [← hperm.mem_iff, ← hgroups]
    exact List.mem_map_of_mem hentry
  refine ⟨?_, fun split => ?_, fun entry hentry => ?_, fun entry hentry => ?_, ?_,
    fun entry hentry => ?_⟩
  · rw [hsplits]
    exact ((hperm.map Prod.fst).nodup_iff).mpr (nodup_keys_groupItems _)
  · rw [hsplits, (hperm.map Prod.fst).mem_iff]
    exact mem_keys_groupItems
  · exact (mem_groupItems_iff.mp (hgroup entry hentry)).2
  · obtain ⟨group, -, he⟩ := exists_of_mem_mapM h hentry
    obtain ⟨rfl, hcount, -⟩ := persistSplit_eq_ok he
    exact hcount
  · rw [hcounts, (hperm.map _).sum_eq]
    have hflat := (flatMap_groupItems (splitItems request manifest rows)).length_eq
    rw [List.length_flatMap, List.length_map] at hflat
    exact hflat
  · obtain ⟨group, -, he⟩ := exists_of_mem_mapM h hentry
    exact (persistSplit_eq_ok he).2.2

/-- The type of a column in a table is the one that its cells have. -/
theorem dtype_of_holds {columns : List Text} {file : ParquetFile arrow S}
    (h : HoldsTable columns file)
    {column : Text} (hcolumn : column ∈ columns) : (get? column file.table).map arrow.dtype =
      some (coerceColumnValues (F := F) (file.rows.map (cell column))).dtype := by
  obtain ⟨arrays, harrays, htable⟩ := bind_eq_ok.mp h
  have hkeys : arrays.map Prod.fst = columns := by
    refine (map_of_mapM (q := id) (fun name pair hpair => ?_) harrays).trans (List.map_id _)
    obtain ⟨array, -, hpair⟩ := bind_eq_ok.mp hpair
    rw [← Except.ok.inj hpair]
    rfl
  obtain ⟨array, harray, hget⟩ := exists_get?_update (hkeys.symm ▸ hcolumn) []
  obtain ⟨name, -, hname⟩ := exists_of_mem_mapM harrays harray
  obtain ⟨built, hbuilt, hpair⟩ := bind_eq_ok.mp hname
  obtain ⟨rfl, rfl⟩ := Prod.mk.inj (Except.ok.inj hpair)
  rw [← Except.ok.inj htable, hget, Option.map_some, arrow.dtype_array hbuilt]

end Entries

section Partition

/-- The export of a table with the manifest of its split. -/
def exportRequest (manifest : SplitManifest) (blocked : List NonEmptyStr) (writeCsv : Bool) :
    TabularExportRequest where
  splitManifest := some manifest
  blockedObjectIds := blocked
  writeCsv := writeCsv

variable (t : Table) (manifest : SplitManifest) (blocked : List NonEmptyStr)

/-- The lines that the split was made from, each with its own assignment. -/
def ownLines : List (List Text × SplitAssignment) :=
  (t.lines.filter fun line => line ≠ []).zip manifest.assignments

def lineRow (item : List Text × SplitAssignment) : Row := exportRow t.header item.1

def unblocked : List (List Text × SplitAssignment) :=
  (ownLines t manifest).filter fun item => item.2.objectId ∉ blocked

/-- The rows that are not blocked and whose own assignment names the split. -/
def rowsOf (split : DataSplit) : List Row :=
  ((unblocked t manifest blocked).filter fun item => item.2.split = split).map (lineRow t)

/-- The files of the splits share the rows that are not blocked, each in the file of its own
split, and type every column as the full file does. -/
structure Partitions {F S : Type} {arrow : Arrow F} (artifacts : TabularExportArtifacts arrow S) :
    Prop where
  full : artifacts.parquetArtifact.rows = (unblocked t manifest blocked).map (lineRow t)
  distinct : (artifacts.perSplit.map TabularExportPerSplitArtifact.split).Nodup
  present : ∀ split, split ∈ artifacts.perSplit.map TabularExportPerSplitArtifact.split ↔
    rowsOf t manifest blocked split ≠ []
  rows : ∀ entry ∈ artifacts.perSplit, entry.parquetArtifact.rows =
    rowsOf t manifest blocked entry.split
  counts : ∀ entry ∈ artifacts.perSplit, entry.rowCount = entry.parquetArtifact.rows.length
  total : (artifacts.perSplit.map TabularExportPerSplitArtifact.rowCount).sum =
    artifacts.includedRowCount
  types : ∀ entry ∈ artifacts.perSplit, ∀ column ∈ t.header,
    (get? column entry.parquetArtifact.table).map arrow.dtype =
      (get? column artifacts.parquetArtifact.table).map arrow.dtype

/-- The id of a line as the export reads it. -/
def rowId (line : List Text) : Text := cell objectIdColumn (exportRow t.header line)

/-- The id that the export reads stands for the row's own assignment. -/
def ReadAlike : Prop := ∀ item ∈ ownLines t manifest,
  (rowId t item.1 ∈ blocked.map Subtype.val ↔ item.2.objectId ∈ blocked) ∧
    (rowId t item.1 ∉ blocked.map Subtype.val →
      get? (rowId t item.1) (assignmentMap manifest) = some item.2.split)

/-- Every line has an id, which is read like the split read it, the integers of a column are
the machine's, and the cells of each split type a column as all cells do. -/
structure Exportable (F : Type) [MetricLike F] : Prop where
  ids : ∀ line ∈ t.lines, rowId t line ≠ []
  readAlike : t.header.count objectIdColumn = 1 ∨ ReadAlike t manifest blocked
  inRange : ∀ column ∈ t.header,
    ¬ Overflows (((unblocked t manifest blocked).map (lineRow t)).map (cell column))
  kinds : ∀ split, rowsOf t manifest blocked split ≠ [] → ∀ column ∈ t.header,
    KindAgrees F (((unblocked t manifest blocked).map (lineRow t)).map (cell column))
      ((rowsOf t manifest blocked split).map (cell column))

variable {t manifest blocked}

theorem eq_of_mem_zip {α β γ : Type} {f : α → γ} {g : β → γ} {xs : List α} {ys : List β}
    (h : xs.map f = ys.map g) {item : α × β} (hitem : item ∈ xs.zip ys) : f item.1 = g item.2 := by
  induction xs generalizing ys with
  | nil => cases hitem
  | cons x xs ih =>
    match ys, h with
    | y :: ys, h =>
      obtain ⟨hxy, h⟩ := List.cons.inj h
      rcases List.mem_cons.mp hitem with rfl | hitem
      · exact hxy
      · exact ih h hitem

theorem filter_lines (hids : ∀ line ∈ t.lines, rowId t line ≠ []) :
    t.lines.filter (fun line => line ≠ []) = t.lines := by
  apply List.filter_eq_self.mpr
  intro line hline
  have hne : line ≠ [] := by
    rintro rfl
    exact hids [] hline (by simp [rowId, exportRow, cell])
  simpa using hne

section Manifest

variable {G : Type} [FloatLike G] {shuffle : Int → Shuffle} {request : SplitRequest G}
  {config : Dict Text Value}

/-- The assignments carry the ids of the records, in their order. -/
theorem ids_of_split (h : executeTabularSplitAction shuffle request config t = .ok manifest) :
    manifest.assignments.map SplitAssignment.objectId =
      t.records.zipIdx.map fun item => effectiveId item.2 item.1 := by
  obtain ⟨-, h⟩ := check_bind_eq_ok.mp h
  obtain ⟨-, -, h⟩ := bind_eq_ok.mp h
  obtain ⟨groupKey, -, h⟩ := bind_eq_ok.mp h
  obtain ⟨-, -, splitOf, hassign⟩ := createSplit_spec h
  have hids := congrArg (List.map Prod.fst) hassign
  simpa [List.map_map, Function.comp_def, placed] using hids

theorem lines_ne_nil_of_split
    (h : executeTabularSplitAction shuffle request config t = .ok manifest) : t.lines ≠ [] := by
  obtain ⟨-, h⟩ := check_bind_eq_ok.mp h
  obtain ⟨-, -, h⟩ := bind_eq_ok.mp h
  obtain ⟨groupKey, -, h⟩ := bind_eq_ok.mp h
  obtain ⟨⟨-, -, hrecords⟩, -⟩ := createSplit_spec h
  rintro hnil
  exact hrecords (by simp [Table.records, hnil])

theorem length_assignments (h : executeTabularSplitAction shuffle request config t = .ok manifest) :
    manifest.assignments.length = (t.lines.filter fun line => line ≠ []).length := by
  have hlength := congrArg List.length (ids_of_split h)
  simpa [Table.records] using hlength

theorem cell_record (honce : t.header.count objectIdColumn = 1) (line : List Text) :
    cell objectIdColumn (rowOf t.columns (t.value line)) = rowId t line := by
  have hmem : objectIdColumn ∈ t.header := List.count_pos_iff.mp (by omega)
  have hcolumn : objectIdColumn ∈ t.columns := List.mem_filter.mpr ⟨hmem, by decide⟩
  rw [cell_rowOf hcolumn, Table.value, rowId, exportRow, cell_zip honce (get?_nil _)]

/-- Where the id column stands once, the ids of the lines are those of the assignments. -/
theorem ids_of_lines (h : executeTabularSplitAction shuffle request config t = .ok manifest)
    (honce : t.header.count objectIdColumn = 1) (hids : ∀ line ∈ t.lines, rowId t line ≠ []) :
    t.lines.map (rowId t) = manifest.assignments.map fun assignment => assignment.objectId.1 := by
  have hassign := congrArg (List.map Subtype.val) (ids_of_split h)
  rw [List.map_map, List.map_map, Table.records, filter_lines hids] at hassign
  refine Eq.symm (hassign.trans ?_)
  apply List.ext_getElem
  · simp
  · intro i _ hi
    have hi : i < t.lines.length := by simpa using hi
    have hid : (effectiveId i (rowOf t.columns (t.value t.lines[i]))).1 = rowId t t.lines[i] := by
      have hcell := cell_record honce t.lines[i]
      rw [effectiveId, dif_pos (hcell ▸ hids _ (List.getElem_mem hi))]
      exact hcell
    simpa using hid

/-- The ids that rows have are distinct. -/
def DistinctIds (t : Table) : Prop :=
  ((t.records.map (cell objectIdColumn)).filter fun id => id ≠ []).Nodup

theorem readAlike_of_once (h : executeTabularSplitAction shuffle request config t = .ok manifest)
    (hdistinct : DistinctIds t) (honce : t.header.count objectIdColumn = 1)
    (hids : ∀ line ∈ t.lines, rowId t line ≠ []) : ReadAlike t manifest blocked := by
  have hlines := ids_of_lines h honce hids
  have hcells : t.records.map (cell objectIdColumn) = t.lines.map (rowId t) := by
    rw [Table.records, filter_lines hids, List.map_map]
    exact List.map_congr_left fun line _ => cell_record honce line
  have hnodup : (manifest.assignments.map fun assignment => assignment.objectId.1).Nodup := by
    rw [DistinctIds, hcells, List.filter_eq_self.mpr, hlines] at hdistinct
    · exact hdistinct
    · intro id hid
      obtain ⟨line, hline, rfl⟩ := List.mem_map.mp hid
      simpa using hids line hline
  intro item hitem
  rw [ownLines, filter_lines hids] at hitem
  have hid : rowId t item.1 = item.2.objectId.1 := eq_of_mem_zip hlines hitem
  rw [hid]
  constructor
  · constructor
    · intro hmem
      obtain ⟨id, hid, heq⟩ := List.mem_map.mp hmem
      exact Subtype.ext heq ▸ hid
    · exact fun hmem => List.mem_map_of_mem hmem
  · intro _
    have hkeys : ((manifest.assignments.map fun assignment =>
        (assignment.objectId.1, assignment.split)).map Prod.fst).Nodup := by
      rw [List.map_map]
      exact hnodup
    rw [assignmentMap, update_eq_append hkeys, List.nil_append]
    exact get?_of_mem hkeys (List.mem_map_of_mem (f := fun assignment : SplitAssignment =>
      (assignment.objectId.1, assignment.split)) (List.of_mem_zip hitem).2)

theorem lines_eq_map_fst (h : executeTabularSplitAction shuffle request config t = .ok manifest)
    (hids : ∀ line ∈ t.lines, rowId t line ≠ []) :
    (ownLines t manifest).map Prod.fst = t.lines := by
  have hlength := length_assignments h
  rw [filter_lines hids] at hlength
  rw [ownLines, filter_lines hids, List.map_fst_zip hlength.ge]

end Manifest

section Rows

variable {writeCsv : Bool}

/-- Where the ids are read alike, the export keeps the rows that are not blocked. -/
theorem filteredRows_eq (hlines : (ownLines t manifest).map Prod.fst = t.lines)
    (halike : ReadAlike t manifest blocked) :
    filteredRows (exportRequest manifest blocked writeCsv) (t.lines.map (exportRow t.header)) =
      (unblocked t manifest blocked).map (lineRow t) := by
  rw [← hlines, List.map_map, filteredRows, List.filter_map, unblocked]
  congr 1
  apply List.filter_congr
  intro item hitem
  exact decide_eq_decide.mpr (not_congr (halike item hitem).1)

/-- … and finds the split of each of them in its own assignment. -/
theorem splitItems_eq (hlines : (ownLines t manifest).map Prod.fst = t.lines)
    (hids : ∀ line ∈ t.lines, rowId t line ≠ []) (halike : ReadAlike t manifest blocked) :
    splitItems (exportRequest manifest blocked writeCsv) manifest
        ((unblocked t manifest blocked).map (lineRow t)) =
      (unblocked t manifest blocked).map fun item => (item.2.split, lineRow t item) := by
  rw [splitItems, List.filterMap_map, ← List.filterMap_eq_map]
  apply List.filterMap_congr
  intro item hitem
  obtain ⟨hitem, hfree⟩ := List.mem_filter.mp hitem
  have hline : item.1 ∈ t.lines := hlines ▸ List.mem_map_of_mem hitem
  have hid : rowId t item.1 ∉ blocked.map Subtype.val := fun hmem =>
    of_decide_eq_true hfree ((halike item hitem).1.mp hmem)
  have hsplit : splitOfRow (exportRequest manifest blocked writeCsv) manifest (lineRow t item) =
      some item.2.split := by
    rw [splitOfRow]
    exact (if_neg (not_or.mpr ⟨hids _ hline, hid⟩)).trans ((halike item hitem).2 hid)
  simp [hsplit]

end Rows

section Main

variable {F : Type} [MetricLike F] {arrow : Arrow F} {S : Type} {save : ExportFile arrow → Result S}
  {G : Type} [FloatLike G] {shuffle : Int → Shuffle} {request : SplitRequest G}
  {config : Dict Text Value} {writeCsv : Bool} {artifacts : TabularExportArtifacts arrow S}

theorem mem_header_of_rowId {line : List Text} (h : rowId t line ≠ []) :
    objectIdColumn ∈ t.header := by
  by_contra hne
  apply h
  have hnone : get? objectIdColumn (exportRow t.header line) = none := by
    rw [get?_eq_none, exportRow, mem_keys_update]
    rintro (hmem | hmem)
    · cases hmem
    · obtain ⟨item, hitem, heq⟩ := List.mem_map.mp hmem
      exact hne (heq ▸ (List.of_mem_zip hitem).1)
  rw [rowId, cell, hnone]
  rfl

theorem mem_rowsOf {item : List Text × SplitAssignment} (h : item ∈ unblocked t manifest blocked) :
    lineRow t item ∈ rowsOf t manifest blocked item.2.split :=
  List.mem_map_of_mem (List.mem_filter.mpr ⟨h, by simp⟩)

theorem rowsOf_eq (split : DataSplit) :
    (((unblocked t manifest blocked).map fun item => (item.2.split, lineRow t item)).filter
      fun item =>
      item.1 = split).map Prod.snd = rowsOf t manifest blocked split := by
  rw [List.filter_map, List.map_map]
  rfl

theorem rowsOf_ne_nil {split : DataSplit} : rowsOf t manifest blocked split ≠ [] ↔
    split ∈ ((unblocked t manifest blocked).map fun item => (item.2.split, lineRow t item)).map
      Prod.fst := by
  rw [List.map_map, List.mem_map]
  constructor
  · intro h
    obtain ⟨row, hrow⟩ := List.exists_mem_of_ne_nil _ h
    obtain ⟨item, hitem, -⟩ := List.mem_map.mp hrow
    obtain ⟨hitem, hsplit⟩ := List.mem_filter.mp hitem
    exact ⟨item, hitem, of_decide_eq_true hsplit⟩
  · rintro ⟨item, hitem, rfl⟩
    exact List.ne_nil_of_mem (mem_rowsOf hitem)

theorem cells_rowsOf_subset (split : DataSplit) (column : Text) :
    (rowsOf t manifest blocked split).map (cell column) ⊆
      ((unblocked t manifest blocked).map (lineRow t)).map (cell column) :=
  List.map_subset _ (List.map_subset _ (List.filter_subset_self _))

theorem exportedRows_eq :
    exportedRows (exportRequest manifest blocked writeCsv) t =
      filteredRows (exportRequest manifest blocked writeCsv) (t.lines.map (exportRow t.header)) ::
        (groupItems (splitItems (exportRequest manifest blocked writeCsv) manifest
          (filteredRows (exportRequest manifest blocked writeCsv)
            (t.lines.map (exportRow t.header))))).map
            Prod.snd := rfl

theorem partitions_of_exportable
    (h : executeTabularSplitAction shuffle request config t = .ok manifest)
    (hdistinct : DistinctIds t) (hsave : ∀ file, ∃ saved, save file = .ok saved)
    (hexport : Exportable t manifest blocked F) :
    ∃ artifacts, writeTabularExport arrow save (exportRequest manifest blocked writeCsv) t =
      .ok artifacts ∧
      Partitions t manifest blocked artifacts := by
  obtain ⟨hids, hread, hrange, hkinds⟩ := hexport
  have halike : ReadAlike t manifest blocked :=
    hread.elim (fun honce => readAlike_of_once h hdistinct honce hids) id
  have hlines := lines_eq_map_fst h hids
  have hfiltered := @filteredRows_eq t manifest blocked writeCsv hlines halike
  have hitems := @splitItems_eq t manifest blocked writeCsv hlines hids halike
  have hcolumn : objectIdColumn ∈ t.header := by
    obtain ⟨line, hline⟩ := List.exists_mem_of_ne_nil _ (lines_ne_nil_of_split h)
    exact mem_header_of_rowId (hids line hline)
  have hfits : ∀ rows ∈ exportedRows (exportRequest manifest blocked writeCsv) t,
      ¬ SomeOverflows rows t.header := by
    rw [exportedRows_eq, hfiltered, hitems, List.forall_mem_cons]
    refine ⟨fun ⟨column, hmem, hover⟩ => hrange column hmem hover, ?_⟩
    intro rows hrows
    obtain ⟨group, hgroup, rfl⟩ := List.mem_map.mp hrows
    obtain ⟨hsplit, hgroup⟩ := mem_groupItems_iff.mp hgroup
    rw [rowsOf_eq] at hgroup
    rintro ⟨column, hmem, hover⟩
    rw [hgroup] at hover
    exact hrange column hmem (overflows_of_part (cells_rowsOf_subset group.1 column)
      (hkinds group.1 (rowsOf_ne_nil.mpr hsplit) column hmem) hover)
  obtain ⟨artifacts, hwrite⟩ := (exists_writeTabularExport hsave hcolumn).mpr hfits
  refine ⟨artifacts, hwrite, ?_⟩
  obtain ⟨parquet, csv, perSplit, hparquet, -, hperSplit, rfl⟩ :=
    (writeTabularExport_eq_ok hcolumn).mp hwrite
  obtain ⟨hfull, htable⟩ := persistParquet_eq_ok hparquet
  have hentries := entriesOf_write hperSplit
  rw [hfiltered] at hfull hentries
  rw [hitems] at hentries
  have hrows : ∀ entry ∈ perSplit, entry.parquetArtifact.rows =
      rowsOf t manifest blocked entry.split :=
    fun entry hentry => (hentries.rows entry hentry).trans (rowsOf_eq entry.split)
  refine ⟨hfull, hentries.distinct,
    fun split => (hentries.present split).trans rowsOf_ne_nil.symm, hrows, hentries.counts, ?_,
    fun entry hentry column hmem => ?_⟩
  · dsimp only
    rw [hentries.total, hfiltered, List.length_map, List.length_map]
  · have hpresent := (hentries.present entry.split).mp (List.mem_map_of_mem hentry)
    rw [dtype_of_holds (hentries.tables entry hentry) hmem, dtype_of_holds htable hmem, hfull,
      hrows entry hentry]
    exact congrArg some ((dtype_eq_iff (cells_rowsOf_subset entry.split column)).mpr
      (hkinds entry.split (rowsOf_ne_nil.mpr hpresent) column hmem))

theorem column_of_write {exported : TabularExportRequest}
    (h : writeTabularExport arrow save exported t = .ok artifacts) :
    exported.objectIdColumn.1 ∈ t.header := by
  obtain ⟨⟨rows, columns⟩, hread, h⟩ := bind_eq_ok.mp h
  obtain ⟨-, hread⟩ := check_bind_eq_ok.mp hread
  obtain ⟨-, rfl⟩ := Prod.mk.inj (Except.ok.inj hread)
  exact guardOk_eq_ok.mp (check_bind_eq_ok.mp h).1

theorem mem_splitItems {exported : TabularExportRequest} {rows : List Row} {split : DataSplit}
    {row : Row} (h : (split, row) ∈ splitItems exported manifest rows) :
    splitOfRow exported manifest row = some split := by
  obtain ⟨other, -, hother⟩ := List.mem_filterMap.mp h
  obtain ⟨found, hfound, heq⟩ := Option.map_eq_some_iff.mp hother
  obtain ⟨rfl, rfl⟩ := Prod.mk.inj heq
  exact hfound

/-- A row with a split has an id that is not blocked, and the manifest's split for it. -/
theorem splitOfRow_eq_some {line : List Text} {split : DataSplit}
    (h : splitOfRow (exportRequest manifest blocked writeCsv) manifest (exportRow t.header line) =
      some split) :
    rowId t line ≠ [] ∧ get? (rowId t line) (assignmentMap manifest) = some split := by
  rw [splitOfRow] at h
  by_cases hid : rowId t line = [] ∨ rowId t line ∈ blocked.map Subtype.val
  · cases (if_pos hid).symm.trans h
  · exact ⟨fun hnil => hid (.inl hnil), (if_neg hid).symm.trans h⟩

theorem exportable_of_partitions
    (h : executeTabularSplitAction shuffle request config t = .ok manifest)
    (hsave : ∀ file, ∃ saved, save file = .ok saved)
    (hwrite : writeTabularExport arrow save (exportRequest manifest blocked writeCsv) t =
      .ok artifacts)
    (hpartition : Partitions t manifest blocked artifacts) : Exportable t manifest blocked F := by
  have hcolumn : objectIdColumn ∈ t.header := column_of_write hwrite
  have hfits := (exists_writeTabularExport hsave hcolumn).mp ⟨artifacts, hwrite⟩
  obtain ⟨hfull, hdistinct, hpresent, hrows, hcounts, htotal, htypes⟩ := hpartition
  obtain ⟨parquet, csv, perSplit, hparquet, -, hperSplit, rfl⟩ :=
    (writeTabularExport_eq_ok hcolumn).mp hwrite
  obtain ⟨hwritten, htable⟩ := persistParquet_eq_ok hparquet
  have hentries := entriesOf_write hperSplit
  dsimp only at hfull htotal hpresent hrows htypes
  rw [hwritten] at hfull
  -- as many rows have a split as are exported, so all of them have one
  have hsome : ∀ row ∈ filteredRows (exportRequest manifest blocked writeCsv)
      (t.lines.map (exportRow t.header)),
      ∃ split, splitOfRow (exportRequest manifest blocked writeCsv) manifest row = some split := by
    have hlength := hentries.total.symm.trans htotal
    rw [splitItems, List.filterMap_length_eq_length] at hlength
    intro row hrow
    have hdefined := hlength row hrow
    rw [Option.isSome_map] at hdefined
    exact Option.isSome_iff_exists.mp hdefined
  have hids : ∀ line ∈ t.lines, rowId t line ≠ [] := by
    intro line hline
    by_cases hblocked : rowId t line ∈ blocked.map Subtype.val
    · obtain ⟨id, -, hid⟩ := List.mem_map.mp hblocked
      exact hid ▸ id.2
    · obtain ⟨split, hsplit⟩ := hsome (exportRow t.header line)
        (List.mem_filter.mpr ⟨List.mem_map_of_mem hline, decide_eq_true hblocked⟩)
      exact (splitOfRow_eq_some hsplit).1
  have hlines := lines_eq_map_fst h hids
  -- the rows that are exported are those that are not blocked, and no others
  have hfree : ∀ item ∈ ownLines t manifest,
      (item.2.objectId ∉ blocked ↔ rowId t item.1 ∉ blocked.map Subtype.val) := by
    have himp : ∀ item ∈ ownLines t manifest, decide (item.2.objectId ∉ blocked) = true →
        decide (rowId t item.1 ∉ blocked.map Subtype.val) = true := by
      intro item hitem hnot
      have hmem : lineRow t item ∈ (unblocked t manifest blocked).map (lineRow t) :=
        List.mem_map_of_mem (List.mem_filter.mpr ⟨hitem, hnot⟩)
      rw [← hfull] at hmem
      exact (List.mem_filter.mp hmem).2
    have hcount := congrArg List.length hfull
    rw [← hlines, List.map_map, filteredRows, List.filter_map, List.length_map, List.length_map,
      unblocked, ← List.countP_eq_length_filter, ← List.countP_eq_length_filter] at hcount
    have hback := (countP_eq_countP_iff himp).mp hcount
    intro item hitem
    exact ⟨fun hnot => of_decide_eq_true (himp item hitem (decide_eq_true hnot)),
      fun hnot => of_decide_eq_true (hback item hitem (decide_eq_true hnot))⟩
  have halike : ReadAlike t manifest blocked := by
    intro item hitem
    refine ⟨not_iff_not.mp (hfree item hitem).symm, fun hnot => ?_⟩
    have hunblocked : item ∈ unblocked t manifest blocked :=
      List.mem_filter.mpr ⟨hitem, decide_eq_true ((hfree item hitem).mpr hnot)⟩
    have hrow := mem_rowsOf hunblocked
    obtain ⟨entry, hentry, hsplit⟩ :=
      List.mem_map.mp ((hpresent item.2.split).mpr (List.ne_nil_of_mem hrow))
    rw [← hsplit, ← hrows entry hentry, hentries.rows entry hentry] at hrow
    obtain ⟨found, hfound, heq⟩ := List.mem_map.mp hrow
    obtain ⟨hfound, hentrySplit⟩ := List.mem_filter.mp hfound
    have hsplitOf : splitOfRow _ manifest found.2 = some found.1 := mem_splitItems hfound
    rw [heq, of_decide_eq_true hentrySplit, hsplit] at hsplitOf
    exact (splitOfRow_eq_some hsplitOf).2
  refine ⟨hids, .inr halike, fun column hmem hover => ?_, fun split hsplit column hmem => ?_⟩
  · rw [← hfull] at hover
    exact hfits _ List.mem_cons_self ⟨column, hmem, hover⟩
  · obtain ⟨entry, hentry, rfl⟩ := List.mem_map.mp ((hpresent split).mpr hsplit)
    have htype := htypes entry hentry column hmem
    rw [dtype_of_holds (hentries.tables entry hentry) hmem, dtype_of_holds htable hmem,
      hwritten, hfull, hrows entry hentry] at htype
    exact (dtype_eq_iff (cells_rowsOf_subset entry.split column)).mp (Option.some.inj htype)

/-- The export with the split's own manifest puts the rows that are not blocked into the
files of their splits, under one schema, exactly where the table is exportable. -/
theorem splitFiles_partition_iff
    (h : executeTabularSplitAction shuffle request config t = .ok manifest)
    (hdistinct : DistinctIds t) (hsave : ∀ file, ∃ saved, save file = .ok saved) :
    (∃ artifacts, writeTabularExport arrow save (exportRequest manifest blocked writeCsv) t =
      .ok artifacts ∧
      Partitions t manifest blocked artifacts) ↔ Exportable t manifest blocked F :=
  ⟨fun ⟨_, hwrite, hpartition⟩ => exportable_of_partitions h hsave hwrite hpartition,
    partitions_of_exportable h hdistinct hsave⟩

end Main

section Samples

def sampleSplit : SplitRequest ℚ := ⟨"split_manifest".toList, literal "label", 42, halfAndQuarters⟩

def sampleTable (lines : List (List Text)) : Table := ⟨["object_id".toList, "label".toList], lines⟩

/-- Rows of texts alone are typed alike in every part. -/
theorem kindAgrees_of_texts {full part : List Text} (hpart : part ≠ [])
    (htexts : ∀ value ∈ part, value ≠ [] ∧ readInt value = none ∧
      (MetricLike.parse value : Option ℚ) = none)
    (hfull : ∀ value ∈ full, value ≠ [] ∧ readInt value = none ∧
      (MetricLike.parse value : Option ℚ) = none) :
    KindAgrees ℚ full part := by
  obtain ⟨value, hvalue⟩ := List.exists_mem_of_ne_nil part hpart
  obtain ⟨hne, hint, hfloat⟩ := htexts value hvalue
  rintro ⟨other, hother, hne'⟩
  obtain ⟨-, hint', hfloat'⟩ := hfull other hother
  exact ⟨fun hall => absurd hint' (hall other hother hne'),
    fun _ hall => absurd hfloat' (hall other hother hne'),
    fun _ _ =>
      .inr ⟨fun hall => hall value hvalue hne hint, fun hall => hall value hvalue hne hfloat⟩⟩

def textTable : Table :=
  sampleTable [["a".toList, "no".toList], ["b".toList, "yes".toList], ["c".toList, "no".toList]]

theorem textTable_cells {line : List Text} (hline : line ∈ textTable.lines) {column : Text}
    (hcolumn : column ∈ textTable.header) : cell column (exportRow textTable.header line) ≠ [] ∧
      readInt (cell column (exportRow textTable.header line)) = none ∧
      (MetricLike.parse (cell column (exportRow textTable.header line)) : Option ℚ) = none := by
  have hall : ∀ line ∈ textTable.lines, ∀ column ∈ textTable.header,
      cell column (exportRow textTable.header line) ≠ [] ∧
        readInt (cell column (exportRow textTable.header line)) = none ∧
        (MetricLike.parse (cell column (exportRow textTable.header line)) : Option ℚ) = none := by
    decide +kernel
  exact hall line hline column hcolumn

theorem textTable_split :
    ∃ manifest, executeTabularSplitAction (fun _ => keepOrder) sampleSplit [] textTable =
      .ok manifest :=
  exists_ok (by decide +kernel)

theorem exportable_textTable (manifest : SplitManifest) (blocked : List NonEmptyStr) :
    Exportable textTable manifest blocked ℚ := by
  have htexts : ∀ column ∈ textTable.header,
      ∀ value ∈ ((unblocked textTable manifest blocked).map (lineRow textTable)).map (cell column),
        value ≠ [] ∧ readInt value = none ∧ (MetricLike.parse value : Option ℚ) = none := by
    intro column hcolumn value hvalue
    obtain ⟨row, hrow, rfl⟩ := List.mem_map.mp hvalue
    obtain ⟨item, hitem, rfl⟩ := List.mem_map.mp hrow
    exact textTable_cells
      (List.mem_filter.mp (List.of_mem_zip (List.mem_filter.mp hitem).1).1).1 hcolumn
  refine ⟨by decide +kernel, .inl (by decide), fun column hcolumn hover => ?_,
    fun split hsplit column hcolumn => ?_⟩
  · obtain ⟨-, value, hvalue, -, n, hn, -⟩ := hover
    cases (htexts column hcolumn value hvalue).2.1.symm.trans hn
  · refine kindAgrees_of_texts (by simpa using hsplit) (fun value hvalue => ?_)
      (htexts column hcolumn)
    exact htexts column hcolumn value (cells_rowsOf_subset split column hvalue)

theorem splitFiles_partition_texts :
    ∃ manifest, executeTabularSplitAction (fun _ => keepOrder) sampleSplit []
    textTable = .ok manifest ∧ ∃ artifacts, writeTabularExport (plainArrow ℚ) plainSave
      (exportRequest manifest [literal "b"] true) textTable = .ok artifacts ∧
        Partitions textTable manifest [literal "b"] artifacts := by
  obtain ⟨manifest, h⟩ := textTable_split
  have hsave (file : ExportFile (plainArrow ℚ)) : ∃ saved, plainSave file = .ok saved := ⟨(), rfl⟩
  have hdistinct : DistinctIds textTable := by
    rw [DistinctIds]
    decide +kernel
  exact ⟨manifest, h,
    (splitFiles_partition_iff h hdistinct hsave).mpr (exportable_textTable manifest _)⟩

def idlessTable : Table :=
  sampleTable [["a".toList, "no".toList], [[], "yes".toList], ["c".toList, "no".toList]]

/-- A row without an id is in the full file and in no file of a split. -/
theorem idless_row_lost :
    ∃ manifest, executeTabularSplitAction (fun _ => keepOrder) sampleSplit [] idlessTable =
      .ok manifest ∧ DistinctIds idlessTable ∧
      ¬ ∃ artifacts, writeTabularExport (plainArrow ℚ) plainSave
      (exportRequest manifest [] true) idlessTable = .ok artifacts ∧
        Partitions idlessTable manifest [] artifacts := by
  obtain ⟨manifest, h⟩ :
      ∃ manifest, executeTabularSplitAction (fun _ => keepOrder) sampleSplit [] idlessTable =
      .ok manifest := exists_ok (by decide +kernel)
  have hsave (file : ExportFile (plainArrow ℚ)) : ∃ saved, plainSave file = .ok saved := ⟨(), rfl⟩
  have hdistinct : DistinctIds idlessTable := by
    rw [DistinctIds]
    decide +kernel
  refine ⟨manifest, h, hdistinct, fun ⟨artifacts, hwrite, hpartition⟩ => ?_⟩
  have hid :=
    (exportable_of_partitions h hsave hwrite hpartition).ids [[], "yes".toList] (by decide)
  exact hid (by decide +kernel)

end Samples

end Partition

end DataForge.Plugins.Export.SplitFiles
