import DataForge.Ingestion.ArchiveReader
import DataForge.Plugins.Tabular.DuplicateGroups
import DataForge.Foundation.Lists

namespace DataForge.Plugins.Tabular.ProfileDuplicates

open DataForge.Foundation.Lists
open DataForge.Foundation.Strings
open DataForge.Foundation.Outcome
open DataForge.Foundation.Dictionary
open DataForge.Foundation.Canonical
open DataForge.Foundation.Grouping
open DataForge.Foundation.Tables
open DataForge.Domain.Common
open DataForge.Ingestion.ArchiveReader
open DataForge.Plugins.Tabular.DuplicateGroups

def duplicateAffectedIdLimit : Nat := 100

structure DuplicateDiagnostics where
  duplicatePairCount : Nat
  duplicateGroupCount : Nat
  affectedObjectIds : List Text
  signatureColumns : List Text
  idColumn : Option Text

def resolveTransactionsDescriptor (contents : ArchiveContents) : Result ArchiveFileDescriptor :=
  match contents.descriptorsByKind .transactions with
  | [] => .error
    (.plain "ValueError" "tabular profile requires a transactions.csv entry in the archive")
  | [d] => .ok d
  | _ => .error (.plain "ValueError" "tabular profile expects exactly one transactions.csv entry")

theorem resolveTransactionsDescriptor_eq_ok {contents : ArchiveContents} {d : ArchiveFileDescriptor}
    (h : resolveTransactionsDescriptor contents = .ok d) :
    contents.descriptorsByKind .transactions = [d] := by
  rw [resolveTransactionsDescriptor] at h
  split at h
  · cases h
  · next hd =>
    obtain rfl := Except.ok.inj h
    exact hd
  · cases h

section Diagnostics

def signatureColumns (columns : List Text) (idColumn : Option Text) : List Text :=
  (columns.filter fun column => some column ≠ idColumn).insertionSort (· ≤ ·)

def cellsAt (columns : List Text) (row : Row) : List Text :=
  columns.map fun column => cell column row

/-- The ids of the rows by the rows' other cells; without other columns there are no
signatures. -/
def signatureToObjectIds (rows : List Row) (columns : List Text) (idColumn : Option Text) :
    Dict (List Text) (List Text) :=
  if columns = [] then []
  else groupItems (rows.map fun row =>
    (cellsAt columns row, (idColumn.map fun column => cell column row).getD []))

def repeatedGroups (groups : Dict (List Text) (List Text)) : List (List Text) :=
  (groups.map Prod.snd).filter fun ids => 2 ≤ ids.length

def affectedIds (groups : Dict (List Text) (List Text)) : List Text :=
  sortedSet ((repeatedGroups groups).flatten.filter (· ≠ []))

def buildDuplicateDiagnostics (groups : Dict (List Text) (List Text)) (columns : List Text)
    (idColumn : Option Text) : DuplicateDiagnostics where
  duplicatePairCount := ((repeatedGroups groups).map fun ids => ids.length - 1).sum
  duplicateGroupCount := (repeatedGroups groups).length
  affectedObjectIds := (affectedIds groups).take duplicateAffectedIdLimit
  signatureColumns := columns
  idColumn := idColumn

/-- The part of `infer_tabular_profile` that looks for duplicates. -/
def inferDuplicates (rows : List Row) (columns : List Text) (requestedId : Text) :
    DuplicateDiagnostics :=
  let idColumn := if requestedId ∈ columns then some requestedId else none
  buildDuplicateDiagnostics (signatureToObjectIds rows (signatureColumns columns idColumn) idColumn)
    (signatureColumns columns idColumn) idColumn

end Diagnostics

section Repeats

/-- Another row has the same cells in all columns but that of the ids. -/
def Repeated (idColumn : Text) (columns : List Text) (rows : List Row) (row : Row) : Prop :=
  ∃ other ∈ rows, cell idColumn other ≠ cell idColumn row ∧
    ∀ column ∈ columns, column ≠ idColumn → cell column other = cell column row

instance (idColumn : Text) (columns : List Text) (rows : List Row) (row : Row) :
    Decidable (Repeated idColumn columns rows row) :=
  inferInstanceAs (Decidable (∃ other ∈ rows, _ ∧ ∀ column ∈ columns, _ → _))

variable {rows : List Row} {columns : List Text} {idColumn : NonEmptyStr}

theorem mem_signatureColumns {column : Text} :
    column ∈ signatureColumns columns (some idColumn.1) ↔ column ∈ columns ∧ column ≠
      idColumn.1 := by
  rw [signatureColumns, (List.perm_insertionSort _ _).mem_iff, List.mem_filter]
  simp

theorem cellsAt_eq_iff {row other : Row} :
    cellsAt (signatureColumns columns (some idColumn.1)) other =
        cellsAt (signatureColumns columns (some idColumn.1)) row ↔
      ∀ column ∈ columns, column ≠ idColumn.1 → cell column other = cell column row := by
  rw [cellsAt, cellsAt, List.map_inj_left]
  simp only [mem_signatureColumns, and_imp]

/-- The ids of the rows with the cells of a row. -/
def idsLike (rows : List Row) (idColumn : Text) (columns : List Text) (row : Row) : List Text :=
  (rows.filter fun other => cellsAt columns other = cellsAt columns row).map (cell idColumn)

theorem mem_repeatedGroups {ids : List Text} (h : columns ≠ []) :
    ids ∈ repeatedGroups (signatureToObjectIds rows columns (some idColumn.1)) ↔
      ∃ row ∈ rows, ids = idsLike rows idColumn.1 columns row ∧ 2 ≤ ids.length := by
  have hgroup : ∀ key, (((rows.map fun row => (cellsAt columns row, cell idColumn.1 row)).filter
      fun item => item.1 = key).map Prod.snd) =
        (rows.filter fun row => cellsAt columns row = key).map (cell idColumn.1) := by
    intro key
    rw [List.filter_map, List.map_map]
    rfl
  rw [repeatedGroups, signatureToObjectIds, if_neg h, List.mem_filter, decide_eq_true_eq]
  simp only [Option.map_some, Option.getD_some]
  constructor
  · rintro ⟨hids, htwo⟩
    obtain ⟨⟨key, ids⟩, hentry, rfl⟩ := List.mem_map.mp hids
    obtain ⟨hkey, rfl⟩ := mem_groupItems_iff.mp hentry
    rw [List.map_map] at hkey
    obtain ⟨row, hrow, rfl⟩ := List.mem_map.mp hkey
    exact ⟨row, hrow, hgroup _, htwo⟩
  · rintro ⟨row, hrow, rfl, htwo⟩
    refine ⟨List.mem_map.mpr ⟨(cellsAt columns row, _), mem_groupItems_iff.mpr ⟨?_, rfl⟩,
      hgroup _⟩, htwo⟩
    rw [List.map_map]
    exact List.mem_map_of_mem hrow

theorem two_le_length_idsLike (h : Identified idColumn rows) {row : Row} (hrow : row ∈ rows) :
    2 ≤ (idsLike rows idColumn.1 (signatureColumns columns (some idColumn.1)) row).length ↔
      Repeated idColumn.1 columns rows row := by
  have hnodup : (idsLike rows idColumn.1 (signatureColumns columns (some idColumn.1)) row).Nodup :=
    h.nodup.sublist (List.filter_sublist.map _)
  have hmem : cell idColumn.1 row ∈
      idsLike rows idColumn.1 (signatureColumns columns (some idColumn.1)) row :=
    List.mem_map_of_mem (List.mem_filter.mpr ⟨hrow, decide_eq_true rfl⟩)
  rw [two_le_length_of_mem hnodup hmem, Repeated]
  constructor
  · rintro ⟨id, hid, hne⟩
    obtain ⟨other, hother, rfl⟩ := List.mem_map.mp hid
    obtain ⟨hother, hcells⟩ := List.mem_filter.mp hother
    exact ⟨other, hother, hne, cellsAt_eq_iff.mp (of_decide_eq_true hcells)⟩
  · rintro ⟨other, hother, hne, hcells⟩
    exact ⟨_, List.mem_map_of_mem (List.mem_filter.mpr
      ⟨hother, decide_eq_true (cellsAt_eq_iff.mpr hcells)⟩), hne⟩

/-- The affected ids are those of the repeated rows, where there is a column to compare. -/
theorem mem_affectedIds (h : Identified idColumn rows) {id : Text} :
    id ∈ affectedIds (signatureToObjectIds rows (signatureColumns columns (some idColumn.1))
        (some idColumn.1)) ↔
      signatureColumns columns (some idColumn.1) ≠ [] ∧
        ∃ row ∈ rows, cell idColumn.1 row = id ∧ Repeated idColumn.1 columns rows row := by
  rw [affectedIds, mem_sortedSet, List.mem_filter, List.mem_flatten, decide_eq_true_eq]
  by_cases hnone : signatureColumns columns (some idColumn.1) = []
  · simp [hnone, repeatedGroups, signatureToObjectIds]
  rw [and_iff_right hnone]
  simp only [mem_repeatedGroups hnone]
  constructor
  · rintro ⟨⟨ids, ⟨row, hrow, rfl, htwo⟩, hid⟩, -⟩
    obtain ⟨other, hother, rfl⟩ := List.mem_map.mp hid
    obtain ⟨hother, hcells⟩ := List.mem_filter.mp hother
    have hsame : idsLike rows idColumn.1 (signatureColumns columns (some idColumn.1)) row =
        idsLike rows idColumn.1 (signatureColumns columns (some idColumn.1)) other := by
      rw [idsLike, idsLike, of_decide_eq_true hcells]
    exact ⟨other, hother, rfl, (two_le_length_idsLike h hother).mp (hsame ▸ htwo)⟩
  · rintro ⟨row, hrow, rfl, hrepeated⟩
    exact ⟨⟨_, ⟨row, hrow, rfl, (two_le_length_idsLike h hrow).mpr hrepeated⟩,
      List.mem_map_of_mem (List.mem_filter.mpr ⟨hrow, decide_eq_true rfl⟩)⟩, h.nonempty row hrow⟩

/-- There are as many affected ids as repeated rows. -/
theorem length_affectedIds (h : Identified idColumn rows)
    (hcolumns : signatureColumns columns (some idColumn.1) ≠ []) :
    (affectedIds (signatureToObjectIds rows (signatureColumns columns (some idColumn.1))
        (some idColumn.1))).length =
      rows.countP fun row => Repeated idColumn.1 columns rows row := by
  have hperm : (affectedIds (signatureToObjectIds rows (signatureColumns columns (some idColumn.1))
      (some idColumn.1))).Perm ((rows.filter fun row => Repeated idColumn.1 columns rows row).map
        (cell idColumn.1)) := by
    refine (List.perm_ext_iff_of_nodup (nodup_sortedSet _)
      (h.nodup.sublist (List.filter_sublist.map _))).mpr fun id => ?_
    refine (mem_affectedIds h).trans ?_
    rw [List.mem_map, and_iff_right hcolumns]
    refine exists_congr fun row => ?_
    rw [List.mem_filter, decide_eq_true_eq]
    tauto
  rw [hperm.length_eq, List.length_map, List.countP_eq_length_filter]

end Repeats

end DataForge.Plugins.Tabular.ProfileDuplicates
