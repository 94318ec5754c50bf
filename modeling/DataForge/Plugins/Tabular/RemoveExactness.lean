import DataForge.Plugins.Tabular.MarkRemoveAgreement
import DataForge.Plugins.Tabular.MarkThenRemove

namespace DataForge.Plugins.Tabular.RemoveExactness

open DataForge.Foundation.Strings
open DataForge.Foundation.Outcome
open DataForge.Foundation.Sha256
open DataForge.Foundation.Tables
open DataForge.Domain.Common
open DataForge.Plugins.Tabular.Sources
open DataForge.Plugins.Tabular.Duplicates
open DataForge.Plugins.Tabular.DuplicateGroups
open DataForge.Plugins.Tabular.DuplicateChain
open DataForge.Plugins.Tabular.MarkRemoveAgreement
open DataForge.Plugins.Tabular.MarkThenRemove

variable {rows : List Row} {idColumn : NonEmptyStr} {columns : List Text}

section Kept

/-- The rows that removal keeps, with their positions. -/
def keptItems (rows : List Row) (idColumn : NonEmptyStr) (columns : List Text) : List (Row × Nat) :=
  rows.zipIdx.filter fun item => item.2 ∉ dropIndices (duplicateGroups rows idColumn columns)

def keptRows (rows : List Row) (idColumn : NonEmptyStr) (columns : List Text) : List Row :=
  (keptItems rows idColumn columns).map Prod.fst

theorem eq_of_position {item other : Row × Nat} (hitem : item ∈ rows.zipIdx)
    (hother : other ∈ rows.zipIdx) (h : item.2 = other.2) : item = other := by
  have hrow := List.mk_mem_zipIdx_iff_getElem?.mp hitem
  have hrow' := List.mk_mem_zipIdx_iff_getElem?.mp hother
  rw [h] at hrow
  exact Prod.ext (Option.some.inj (hrow.symm.trans hrow')) h

theorem mem_dropIndices_of_item {item : Row × Nat} (hitem : item ∈ rows.zipIdx) :
    item.2 ∈ dropIndices (duplicateGroups rows idColumn columns) ↔
      memberOf idColumn item ∈ setApart rows idColumn columns samePosition := by
  rw [mem_dropIndices_iff]
  constructor
  · rintro ⟨member, hmember, hposition⟩
    obtain ⟨other, hother, rfl, -⟩ := mem_setApart.mp hmember
    rwa [eq_of_position hitem hother hposition.symm]
  · intro h
    exact ⟨_, h, rfl⟩

/-- A row is kept when it is the canonical one of its group. -/
theorem mem_keptItems {item : Row × Nat} (hitem : item ∈ rows.zipIdx) :
    item ∈ keptItems rows idColumn columns ↔
      canonicalMember (membersOf rows idColumn columns (rowSignature columns item.1)) =
        some (memberOf idColumn item) := by
  obtain ⟨least, hleast, hkey, hcanonical, -⟩ := @exists_canonical rows idColumn columns item hitem
  have hapart := (memberOf_mem_setApart hitem hleast hkey hcanonical).1
  rw [keptItems, List.mem_filter, decide_eq_true_eq, mem_dropIndices_of_item hitem, hapart, not_not,
    hcanonical]
  constructor
  · rintro ⟨-, hposition⟩
    rw [eq_of_position hitem hleast hposition]
  · intro h
    exact ⟨hitem, (congrArg Prod.fst (Option.some.inj h)).symm⟩

theorem exists_kept {item : Row × Nat} (hitem : item ∈ rows.zipIdx) :
    ∃ least ∈ keptItems rows idColumn columns,
      rowSignature columns least.1 = rowSignature columns item.1 := by
  obtain ⟨least, hleast, hkey, hcanonical, -⟩ := @exists_canonical rows idColumn columns item hitem
  refine ⟨least, (mem_keptItems hleast).mpr ?_, hkey⟩
  rw [hkey, hcanonical]

theorem kept_unique {item other : Row × Nat} (hitem : item ∈ keptItems rows idColumn columns)
    (hother : other ∈ keptItems rows idColumn columns)
    (hkey : rowSignature columns item.1 = rowSignature columns other.1) : item = other := by
  have hitem' := List.mem_of_mem_filter hitem
  have hother' := List.mem_of_mem_filter hother
  have hcanonical := (mem_keptItems hitem').mp hitem
  rw [hkey, (mem_keptItems hother').mp hother] at hcanonical
  exact eq_of_position hitem' hother' (congrArg Prod.fst (Option.some.inj hcanonical)).symm

theorem kept_least {least item : Row × Nat} (hleast : least ∈ keptItems rows idColumn columns)
    (hitem : item ∈ rows.zipIdx)
    (hkey : rowSignature columns least.1 = rowSignature columns item.1) :
    memberLe (memberOf idColumn least) (memberOf idColumn item) := by
  have hmember : memberOf idColumn item ∈
      membersOf rows idColumn columns (rowSignature columns least.1) :=
    mem_membersOf.mpr ⟨item.1, List.mk_mem_zipIdx_iff_getElem?.mp hitem, hkey.symm, rfl⟩
  obtain ⟨canonical, -, hcanonical, hle⟩ := canonicalMember_spec (List.ne_nil_of_mem hmember)
  rw [(mem_keptItems (List.mem_of_mem_filter hleast)).mp hleast] at hcanonical
  obtain rfl := Option.some.inj hcanonical
  exact hle _ hmember

theorem nodup_keptItems : (keptItems rows idColumn columns).Nodup := by
  have hnodup : (rows.zipIdx.map Prod.snd).Nodup := by
    rw [List.zipIdx_map_snd]
    exact List.nodup_range'
  exact hnodup.of_map.filter _

end Kept

section Counts

/-- The positions of a list without repetition are met once each. -/
theorem length_filter_positions {positions : List Nat} (hnodup : positions.Nodup)
    (hlt : ∀ i ∈ positions, i < rows.length) :
    (rows.zipIdx.filter fun item => item.2 ∈ positions).length = positions.length := by
  have hperm :
      ((rows.zipIdx.filter fun item => item.2 ∈ positions).map Prod.snd).Perm positions := by
    have hsub : ((rows.zipIdx.filter fun item => item.2 ∈ positions).map Prod.snd).Sublist
        (rows.zipIdx.map Prod.snd) := List.filter_sublist.map _
    rw [List.zipIdx_map_snd] at hsub
    rw [List.perm_ext_iff_of_nodup (hsub.nodup List.nodup_range') hnodup]
    intro i
    simp only [List.mem_map, List.mem_filter, decide_eq_true_eq]
    constructor
    · rintro ⟨item, ⟨-, hi⟩, rfl⟩
      exact hi
    · intro hi
      have hbound := hlt i hi
      have hitem := List.mk_mem_zipIdx_iff_getElem?.mpr (List.getElem?_eq_getElem hbound)
      exact ⟨(rows[i], i), ⟨hitem, hi⟩, rfl⟩
  rw [← List.length_map Prod.snd, hperm.length_eq]

theorem dropIndices_eq : dropIndices (duplicateGroups rows idColumn columns) =
    (setApart rows idColumn columns samePosition).map Prod.fst := by
  rw [dropIndices, setApart, List.map_flatMap]

/-- Every row is kept or set apart. -/
theorem length_setApart_add_kept : (setApart rows idColumn columns samePosition).length +
    (keptItems rows idColumn columns).length = rows.length := by
  have hlt : ∀ i ∈ dropIndices (duplicateGroups rows idColumn columns), i < rows.length := by
    intro i hi
    obtain ⟨row, hrow, -⟩ := mem_dropIndices.mp hi
    exact (List.getElem?_eq_some_iff.mp hrow).1
  have hdropped := length_filter_positions (dropIndices_eq ▸ nodup_setApart samePosition) hlt
  have hsplit := List.length_eq_length_filter_add (l := rows.zipIdx)
    fun item => decide (item.2 ∈ dropIndices (duplicateGroups rows idColumn columns))
  rw [hdropped, List.length_zipIdx, dropIndices_eq, List.length_map] at hsplit
  rw [hsplit, keptItems, dropIndices_eq]
  simp only [decide_not]

end Counts

section Again

/-- Where no signature repeats there is nothing to group. -/
theorem duplicateGroups_eq_nil (h : (rows.map (rowSignature columns)).Nodup) :
    duplicateGroups rows idColumn columns = [] := by
  apply List.eq_nil_iff_forall_not_mem.mpr
  intro group hgroup
  obtain ⟨hmembers, htwo⟩ := mem_duplicateGroups.mp hgroup
  rw [hmembers] at htwo
  obtain ⟨i, j, row, row', hne, hrow, hrow', hkey, hkey'⟩ := two_le_length_membersOf.mp htwo
  have hi : (rows.map (rowSignature columns))[i]? = some group.1 := by
    rw [List.getElem?_map, hrow, Option.map_some, hkey]
  have hj : (rows.map (rowSignature columns))[j]? = some group.1 := by
    rw [List.getElem?_map, hrow', Option.map_some, hkey']
  apply hne
  exact (List.getElem?_inj (List.getElem?_eq_some_iff.mp hi).1 h).mp (hi.trans hj.symm)

theorem nodup_signatures_kept :
    ((keptRows rows idColumn columns).map (rowSignature columns)).Nodup := by
  rw [keptRows, List.map_map]
  exact nodup_keptItems.map_on fun item hitem other hother hkey => kept_unique hitem hother hkey

/-- Removal leaves rows without duplicates as they are. -/
theorem removeResult_of_nodup {header : List Text} (h : (rows.map (rowSignature columns)).Nodup) :
    (removeResult rows header idColumn columns).report.removedCount = 0 ∧
      (removeResult rows header idColumn columns).report.beforeDuplicatePairCount = 0 ∧
      (removeResult rows header idColumn columns).candidate = Table.write header rows := by
  have hnone := @duplicateGroups_eq_nil rows idColumn columns h
  refine ⟨?_, ?_, ?_⟩
  · simp [removeResult, hnone]
  · simp [removeResult, hnone, pairCount]
  · show Table.write header (buildRemoveOutput rows _) = _
    rw [hnone, buildRemoveOutput]
    simp [dropIndices]

theorem rowSignature_rowOf {header : List Text} (h : ∀ column ∈ columns, column ∈ header)
    (row : Row) :
    rowSignature columns (rowOf header fun column => cell column row) = rowSignature columns row :=
  rowSignature_congr (rowBytes_congr fun column hcolumn => cell_rowOf (h column hcolumn))

theorem resolveSignatureColumns_subset {listed : Option (List NonEmptyStr)} {column : Text}
    (h : column ∈ resolveSignatureColumns columns listed idColumn) : column ∈ columns := by
  cases listed with
  | none =>
    rw [resolveSignatureColumns, (List.perm_insertionSort _ _).mem_iff, List.mem_filter] at h
    exact h.1
  | some listed =>
    rw [resolveSignatureColumns, List.mem_eraseDups, List.mem_filter, decide_eq_true_eq] at h
    exact h.2.1

end Again

section Exact

def SameCells (columns : List Text) (row row' : Row) : Prop :=
  ∀ column ∈ columns, cell column row = cell column row'

/-- The row contents have digests of their own. -/
def CollisionFree (columns : List Text) (rows : List Row) : Prop :=
  ∀ row ∈ rows, ∀ row' ∈ rows, sha256 (rowBytes columns row) = sha256 (rowBytes columns row') →
    rowBytes columns row = rowBytes columns row'

theorem sameCells_iff (hsha : CollisionFree columns rows) {row row' : Row} (hrow : row ∈ rows)
    (hrow' : row' ∈ rows) :
    SameCells columns row row' ↔ rowSignature columns row = rowSignature columns row' := by
  constructor
  · exact fun h => rowSignature_congr (rowBytes_congr h)
  · intro h column hcolumn
    exact cell_of_rowBytes_eq (hsha row hrow row' hrow' (sha256_of_rowSignature h)) hcolumn

/-- The rows that removal has to keep: a subsequence of the source with the least row of
every class of equal cells, and no other. -/
structure KeepsLeast (rows : List Row) (idColumn : NonEmptyStr) (columns : List Text)
    (kept : List (Row × Nat)) : Prop where
  subsequence : kept.Sublist rows.zipIdx
  one : ∀ item ∈ rows.zipIdx, ∃! least, least ∈ kept ∧ SameCells columns least.1 item.1
  least : ∀ least ∈ kept, ∀ item ∈ rows.zipIdx, SameCells columns least.1 item.1 →
    memberLe (memberOf idColumn least) (memberOf idColumn item)

theorem keepsLeast (hsha : CollisionFree columns rows) :
    KeepsLeast rows idColumn columns (keptItems rows idColumn columns) where
  subsequence := List.filter_sublist
  one := by
    intro item hitem
    obtain ⟨least, hleast, hkey⟩ := @exists_kept rows idColumn columns item hitem
    have hmem : ∀ item ∈ keptItems rows idColumn columns, item.1 ∈ rows := fun item hitem =>
      List.fst_mem_of_mem_zipIdx (List.mem_of_mem_filter hitem)
    have hrow := List.fst_mem_of_mem_zipIdx hitem
    refine ⟨least, ⟨hleast, (sameCells_iff hsha (hmem least hleast) hrow).mpr hkey⟩, ?_⟩
    rintro other ⟨hother, hsame⟩
    have hkey' := (sameCells_iff hsha (hmem other hother) hrow).mp hsame
    exact kept_unique hother hleast (hkey'.trans hkey.symm)
  least := by
    intro least hleast item hitem hsame
    have hrow := List.fst_mem_of_mem_zipIdx (List.mem_of_mem_filter hleast)
    exact kept_least hleast hitem
      ((sameCells_iff hsha hrow (List.fst_mem_of_mem_zipIdx hitem)).mp hsame)

/-- What a removal reports of the rows that it keeps. -/
structure Counts (rows kept : List Row) (header : List Text)
    (result : ExecuteTabularDuplicatesResult) : Prop where
  candidate : result.candidate = Table.write header kept
  after : result.report.afterRowCount = kept.length
  removed : result.report.removedCount + kept.length = rows.length
  pairs : result.report.beforeDuplicatePairCount + kept.length = rows.length

theorem counts_removeResult (header : List Text) :
    Counts rows (keptRows rows idColumn columns) header
      (removeResult rows header idColumn columns) where
  candidate := rfl
  after := rfl
  removed := by
    rw [keptRows, List.length_map]
    exact length_setApart_add_kept
  pairs := by
    rw [keptRows, List.length_map]
    show pairCount _ + _ = _
    rw [← length_setApart_samePosition]
    exact length_setApart_add_kept

/-- A second removal: it removes nothing, as the first one announced. -/
structure RemovesNothing (first again : ExecuteTabularDuplicatesResult) : Prop where
  removed : again.report.removedCount = 0
  pairs : again.report.beforeDuplicatePairCount = first.report.afterDuplicatePairCount
  candidate : again.candidate = first.candidate

theorem removeResult_again (header : List Text) :
    RemovesNothing (removeResult rows header idColumn columns)
      (removeResult (keptRows rows idColumn columns) header idColumn columns) := by
  obtain ⟨hremoved, hpairs, hcandidate⟩ :=
    @removeResult_of_nodup _ idColumn columns header (@nodup_signatures_kept rows idColumn columns)
  exact ⟨hremoved, hpairs, hcandidate⟩

end Exact

section Executor

/-- A removal of the executor: its request and the rows of its source. -/
structure Removal (idColumn : NonEmptyStr) (listed : Option (List NonEmptyStr))
    (columns : List Text) (t : Table) (result : ExecuteTabularDuplicatesResult) : Prop where
  columns : columns = resolveSignatureColumns t.columns listed idColumn
  executed : ∃ sourceHash data, executeTabularDuplicatesAction
    ⟨DuplicateActionMode.removeCandidate.value, sourceHash, idColumn, listed⟩ ⟨data, .ok t⟩ =
      .ok result

variable {listed : Option (List NonEmptyStr)} {t : Table} {result : ExecuteTabularDuplicatesResult}

theorem Removal.spec (h : Removal idColumn listed columns t result) :
    result = removeResult t.records t.columns idColumn columns ∧ t.columns ≠ [] ∧ t.records ≠ [] ∧
      idColumn.1 ∈ t.columns ∧ columns ≠ [] := by
  obtain ⟨rfl, sourceHash, data, hdone⟩ := h
  obtain ⟨-, source, hsource, hcolumns, hrecords, hid, hsignature, rfl⟩ := execute_eq_ok.mp hdone
  obtain rfl := Except.ok.inj hsource
  exact ⟨rfl, hcolumns, hrecords, hid, hsignature⟩

theorem Removal.candidate (h : Removal idColumn listed columns t result) :
    result.candidate.columns = t.columns ∧
      result.candidate.records =
        (keptRows t.records idColumn columns).map fun row => rowOf t.columns fun column =>
          cell column row := by
  obtain ⟨rfl, hcolumns, -⟩ := h.spec
  exact ⟨columns_write (nil_notMem_columns t), records_write hcolumns (nil_notMem_columns t)⟩

theorem keptRows_ne_nil (h : rows ≠ []) : keptRows rows idColumn columns ≠ [] := by
  obtain ⟨row, hrow⟩ := List.exists_mem_of_ne_nil _ h
  obtain ⟨i, hi⟩ := List.mem_iff_getElem?.mp hrow
  obtain ⟨least, hleast, -⟩ :=
    @exists_kept rows idColumn columns _ (List.mk_mem_zipIdx_iff_getElem?.mpr hi)
  exact List.ne_nil_of_mem (List.mem_map_of_mem hleast)

/-- The rows read back have the signatures of the rows that were kept. -/
theorem Removal.signatures (h : Removal idColumn listed columns t result) :
    result.candidate.records.map (rowSignature columns) =
      (keptRows t.records idColumn columns).map (rowSignature columns) := by
  rw [h.candidate.2, List.map_map]
  apply List.map_congr_left
  intro row _
  apply rowSignature_rowOf
  rw [h.columns]
  exact fun _ => resolveSignatureColumns_subset

/-- The executor accepts its own candidate and removes nothing from it. -/
theorem Removal.again (h : Removal idColumn listed columns t result) :
    ∃ again, Removal idColumn listed columns result.candidate again ∧
      RemovesNothing result again := by
  obtain ⟨hresult, hcolumns, hrecords, hid, hsignature⟩ := h.spec
  obtain ⟨hheader, hread⟩ := h.candidate
  have hnodup : (result.candidate.records.map (rowSignature columns)).Nodup := by
    rw [h.signatures]
    exact nodup_signatures_kept
  have hresolved : columns = resolveSignatureColumns result.candidate.columns listed idColumn := by
    rw [hheader]
    exact h.columns
  obtain ⟨hremoved, hpairs, hcandidate⟩ :=
    @removeResult_of_nodup _ idColumn columns t.columns hnodup
  refine ⟨removeResult result.candidate.records t.columns idColumn columns,
    ⟨hresolved, sha256Digest .empty, .empty, ?_⟩, hremoved, ?_, ?_⟩
  · refine execute_eq_ok.mpr ⟨rfl, _, rfl, ?_⟩
    rw [← hresolved, hheader]
    refine ⟨hcolumns, ?_, hid, hsignature, rfl⟩
    rw [hread]
    exact fun hnil => keptRows_ne_nil hrecords (List.map_eq_nil_iff.mp hnil)
  · rw [hpairs, hresult]
    rfl
  · rw [hcandidate, hread, write_rowOf, hresult]
    rfl

/-- Removal keeps the least row of every class of equal cells and no other, counts what it
drops, and finds nothing in its own output. -/
theorem remove_exact_idempotent (hsha : CollisionFree columns rows) :
    ∃ kept, KeepsLeast rows idColumn columns kept ∧
      (∀ header,
        Counts rows (kept.map Prod.fst) header (removeResult rows header idColumn columns) ∧
        RemovesNothing (removeResult rows header idColumn columns)
          (removeResult (kept.map Prod.fst) header idColumn columns)) ∧
      ∀ listed t result, t.records = rows → Removal idColumn listed columns t result →
        Counts rows (kept.map Prod.fst) t.columns result ∧
          ∃ again, Removal idColumn listed columns result.candidate again ∧
            RemovesNothing result again := by
  refine ⟨keptItems rows idColumn columns, keepsLeast hsha, ?_, ?_⟩
  · exact fun header => ⟨counts_removeResult header, removeResult_again header⟩
  · rintro listed t result rfl h
    refine ⟨?_, h.again⟩
    rw [h.spec.1]
    exact counts_removeResult t.columns

end Executor

section Example

/-- Two rows of one amount, the first without an id. -/
def repeatedAmount : List Row :=
  [[(objectIdColumn, []), ("amount".toList, "1".toList)],
    [(objectIdColumn, "a".toList), ("amount".toList, "1".toList)]]

theorem collisionFree_repeatedAmount : CollisionFree ["amount".toList] repeatedAmount := by
  have hamount : ∀ row ∈ repeatedAmount, cell "amount".toList row = "1".toList := by decide
  intro row hrow row' hrow' _
  apply rowBytes_congr
  intro column hcolumn
  rw [List.mem_singleton.mp hcolumn, hamount row hrow, hamount row' hrow']

theorem remove_exact_repeatedAmount :
    ∃ kept, KeepsLeast repeatedAmount defaultIdColumn ["amount".toList] kept ∧
      (∀ header, Counts repeatedAmount (kept.map Prod.fst) header
          (removeResult repeatedAmount header defaultIdColumn ["amount".toList]) ∧
        RemovesNothing (removeResult repeatedAmount header defaultIdColumn ["amount".toList])
          (removeResult (kept.map Prod.fst) header defaultIdColumn ["amount".toList])) ∧
      ∀ listed t result, t.records = repeatedAmount →
        Removal defaultIdColumn listed ["amount".toList] t result →
        Counts repeatedAmount (kept.map Prod.fst) t.columns result ∧
          ∃ again, Removal defaultIdColumn listed ["amount".toList] result.candidate again ∧
            RemovesNothing result again :=
  remove_exact_idempotent collisionFree_repeatedAmount

end Example

end DataForge.Plugins.Tabular.RemoveExactness
