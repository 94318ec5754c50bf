import DataForge.Plugins.Tabular.DuplicateChain

namespace DataForge.Plugins.Tabular.MarkThenRemove

open DataForge.Foundation.Strings
open DataForge.Foundation.Outcome
open DataForge.Foundation.Sha256
open DataForge.Foundation.Dictionary
open DataForge.Foundation.Tables
open DataForge.Domain.Common
open DataForge.Plugins.Tabular.Sources
open DataForge.Plugins.Tabular.Duplicates
open DataForge.Plugins.Tabular.DuplicateGroups
open DataForge.Plugins.Tabular.DuplicateChain

def ids (t : Table) : List Text := t.records.map (cell defaultIdColumn.1)

/-- No two rows have the same cells outside the id column, as far as their signatures tell. -/
def NoTwins (t : Table) : Prop :=
  ∀ (i j : Nat) (row row' : Row), t.records[i]? = some row → t.records[j]? = some row' →
    rowSignature (signatureColumns t) row = rowSignature (signatureColumns t) row' → i = j

/-- The hash tells the rows of this table apart. -/
def CollisionFree (t : Table) : Prop :=
  ∀ row ∈ t.records, ∀ row' ∈ t.records,
    sha256 (rowBytes (signatureColumns t) row) = sha256 (rowBytes (signatureColumns t) row') →
      rowBytes (signatureColumns t) row = rowBytes (signatureColumns t) row'

variable {t : Table}

section Least

theorem least_of_noTwins (h : NoTwins t) {row : Row} (hrow : row ∈ t.records) :
    Least defaultIdColumn (signatureColumns t) t.records row := by
  intro row' hrow' hkey
  obtain ⟨i, hi⟩ := List.mem_iff_getElem?.mp hrow
  obtain ⟨j, hj⟩ := List.mem_iff_getElem?.mp hrow'
  obtain rfl := h j i row' row hj hi hkey
  exact (congrArg _ (Option.some.inj (hi.symm.trans hj))).le

theorem groupsOf_of_noTwins (h : NoTwins t) : groupsOf t = [] := by
  apply List.eq_nil_iff_forall_not_mem.mpr
  intro group hgroup
  obtain ⟨hmembers, htwo⟩ := mem_duplicateGroups.mp hgroup
  rw [hmembers] at htwo
  obtain ⟨i, j, row, row', hne, hrow, hrow', hkey, hkey'⟩ := two_le_length_membersOf.mp htwo
  exact hne (h i j row row' hrow hrow' (hkey.trans hkey'.symm))

theorem exists_least (h : Identified defaultIdColumn t.records) {row : Row}
    (hrow : row ∈ t.records) :
    ∃ row' ∈ t.records, rowSignature (signatureColumns t) row' =
        rowSignature (signatureColumns t) row ∧
      Least defaultIdColumn (signatureColumns t) t.records row' := by
  obtain ⟨i, hi⟩ := List.mem_iff_getElem?.mp hrow
  obtain ⟨canonical, hcanonical, hmem, -, -⟩ := @canonical_of_row _ _ (signatureColumns t) h _ _ hi
  obtain ⟨row', hrow', hkey, -⟩ := mem_membersOf.mp hmem
  obtain ⟨canonical', hcanonical', -, hleast, -⟩ :=
    @canonical_of_row _ _ (signatureColumns t) h _ _ hrow'
  rw [hkey, hcanonical] at hcanonical'
  exact ⟨row', List.mem_of_getElem? hrow', hkey,
    hleast.mp (congrArg Prod.fst (Option.some.inj hcanonical')).symm⟩

/-- Of two rows with the same signature one is not the one to keep. -/
theorem exists_not_least (h : Identified defaultIdColumn t.records) (htwins : ¬ NoTwins t) :
    ∃ (i : Nat) (row : Row), t.records[i]? = some row ∧
      2 ≤ (membersOf t.records defaultIdColumn (signatureColumns t)
        (rowSignature (signatureColumns t) row)).length ∧
      ¬ Least defaultIdColumn (signatureColumns t) t.records row := by
  simp only [NoTwins] at htwins
  push Not at htwins
  obtain ⟨i, j, row, row', hi, hj, hkey, hne⟩ := htwins
  have htwo : 2 ≤ (membersOf t.records defaultIdColumn (signatureColumns t)
      (rowSignature (signatureColumns t) row)).length :=
    two_le_length_membersOf.mpr ⟨i, j, row, row', hne, hi, hj, rfl, hkey.symm⟩
  by_cases hleast : Least defaultIdColumn (signatureColumns t) t.records row
  · refine ⟨j, row', hj, hkey ▸ htwo, fun hleast' => hne ?_⟩
    exact h.position hi hj (le_antisymm (hleast row' (List.mem_of_getElem? hj) hkey.symm)
      (hleast' row (List.mem_of_getElem? hi) hkey))
  · exact ⟨i, row, hi, htwo, hleast⟩

end Least

section Marked

variable (ht : Accepted t) (hids : Identified defaultIdColumn t.records)
  (hmarkers : ∀ column ∈ markerColumns, column ∉ t.columns)

theorem cell_id_marked {row markedRow : Row} (ht : Accepted t) (h : MarkedRow t row markedRow) :
    cell defaultIdColumn.1 markedRow = cell defaultIdColumn.1 row :=
  h.cells _ ht.idColumn defaultIdColumn_notMem

include ht hids in
theorem ids_marked : ids (marked t) = ids t := by
  apply List.ext_getElem?
  intro i
  rw [ids, ids, List.getElem?_map, List.getElem?_map]
  cases hrow : t.records[i]? with
  | some row =>
    obtain ⟨markedRow, hmarked, h⟩ := markedRow_of_row ht hids hrow
    rw [hmarked, Option.map_some, Option.map_some, cell_id_marked ht h]
  | none =>
    cases hmarked : (marked t).records[i]? with
    | none => rfl
    | some markedRow =>
      obtain ⟨row, hrow', -⟩ := row_of_markedRow ht hids hmarked
      rw [hrow] at hrow'
      cases hrow'

include ht hids in
theorem identified_marked : Identified defaultIdColumn (marked t).records where
  nodup := by
    have hnodup : (ids t).Nodup := hids.nodup
    rwa [← ids_marked ht hids] at hnodup
  nonempty := by
    intro markedRow hmem
    obtain ⟨i, hmarked⟩ := List.mem_iff_getElem?.mp hmem
    obtain ⟨row, hrow, h⟩ := row_of_markedRow ht hids hmarked
    rw [cell_id_marked ht h]
    exact hids.nonempty row (List.mem_of_getElem? hrow)

theorem rowSignature_eq_sha256 (columns : List Text) (row : Row) :
    rowSignature columns row = sha256 (rowBytes columns row) := by
  unfold rowSignature sha256
  rw [signature]

theorem rowSignature_congr {columns : List Text} {row row' : Row}
    (h : rowBytes columns row = rowBytes columns row') :
    rowSignature columns row = rowSignature columns row' := by
  rw [rowSignature_eq_sha256, rowSignature_eq_sha256, h]

theorem sha256_of_rowSignature {columns : List Text} {row row' : Row}
    (h : rowSignature columns row = rowSignature columns row') :
    sha256 (rowBytes columns row) = sha256 (rowBytes columns row') := by
  rwa [rowSignature_eq_sha256, rowSignature_eq_sha256] at h

include hmarkers in
/-- Marked rows with the same bytes have sources of the same signature, and the same mark. -/
theorem of_rowBytes_marked {row row' markedRow markedRow' : Row} (h : MarkedRow t row markedRow)
    (h' : MarkedRow t row' markedRow')
    (hbytes : rowBytes (signatureColumns (marked t)) markedRow =
      rowBytes (signatureColumns (marked t)) markedRow') :
    rowSignature (signatureColumns t) row = rowSignature (signatureColumns t) row' ∧
      cell isDuplicateKeptColumn markedRow = cell isDuplicateKeptColumn markedRow' := by
  constructor
  · refine rowSignature_congr (rowBytes_congr fun column hcolumn => ?_)
    obtain ⟨hmem, hid⟩ := mem_signatureColumns.mp hcolumn
    have hmarker : column ∉ markerColumns := fun hmarker => hmarkers column hmarker hmem
    rw [← h.cells column hmem hmarker, ← h'.cells column hmem hmarker]
    apply cell_of_rowBytes_eq hbytes
    rw [mem_signatureColumns, columns_marked]
    exact ⟨mem_candidateColumnsForMark.mpr (.inl hmem), hid⟩
  · apply cell_of_rowBytes_eq hbytes
    rw [mem_signatureColumns, columns_marked]
    exact ⟨mem_candidateColumnsForMark.mpr (.inr (by decide)), by decide⟩

include ht hids in
theorem mem_ids_removed {id : Text} : id ∈ ids (removed t) ↔
    ∃ row ∈ t.records, Least defaultIdColumn (signatureColumns t) t.records row ∧
      cell defaultIdColumn.1 row = id := by
  rw [ids, records_removed ht, List.map_map, List.mem_map]
  constructor
  · rintro ⟨row, hrow, rfl⟩
    obtain ⟨hmem, hleast⟩ := (mem_buildRemoveOutput hids).mp hrow
    refine ⟨row, hmem, hleast, ?_⟩
    exact (cell_rowOf (f := fun column => cell column row) ht.idColumn).symm
  · rintro ⟨row, hmem, hleast, rfl⟩
    exact ⟨row, (mem_buildRemoveOutput hids).mpr ⟨hmem, hleast⟩, cell_rowOf ht.idColumn⟩

theorem cell_setMarkers_congr {column candidate groupId kept : Text} {row row' : Row}
    (h : column ∈ markerColumns) :
    cell column (setMarkers candidate groupId kept row) =
      cell column (setMarkers candidate groupId kept row') := by
  refine cell_set_congr fun hkept => cell_set_congr fun hgroup =>
    cell_set_congr fun hcandidate => ?_
  simp [markerColumns, Ne.symm hkept, Ne.symm hgroup, Ne.symm hcandidate] at h

/-- Where no row has a twin, marking only resets the marker columns. -/
theorem marked_eq_of_noTwins (ht : Accepted t) (h : NoTwins t) (h' : NoTwins (marked t)) :
    marked (marked t) = marked t := by
  have hcolumns : candidateColumnsForMark (marked t).columns =
      candidateColumnsForMark t.columns := by
    have hnone :
        (markerColumns.filter fun column => column ∉ candidateColumnsForMark t.columns) = [] := by
      apply List.filter_eq_nil_iff.mpr
      intro column hcolumn
      simpa using mem_candidateColumnsForMark.mpr (.inr hcolumn)
    rw [columns_marked, candidateColumnsForMark, hnone, List.append_nil]
  have hrecords := records_marked ht
  rw [groupsOf_of_noTwins h] at hrecords
  rw [marked, groupsOf_of_noTwins h', hcolumns, hrecords, marked, groupsOf_of_noTwins h]
  simp only [Table.write, buildMarkOutput, List.zipIdx_nil, List.foldl_nil, List.map_map,
    Table.mk.injEq, true_and]
  apply List.map_congr_left
  intro row _
  apply List.map_congr_left
  intro column hcolumn
  by_cases hmarker : column ∈ markerColumns
  · exact cell_setMarkers_congr hmarker
  · simp only [Function.comp_apply]
    rw [cell_setMarkers_ne hmarker, cell_rowOf hcolumn]

end Marked

section Result

variable (ht : Accepted t) (hids : Identified defaultIdColumn t.records)
  (hmarkers : ∀ column ∈ markerColumns, column ∉ t.columns)
  (hsha : CollisionFree (marked t))

include ht hids hmarkers hsha

theorem noTwins_marked (h : NoTwins t) : NoTwins (marked t) := by
  intro i j markedRow markedRow' hi hj hkey
  obtain ⟨row, hrow, hspec⟩ := row_of_markedRow ht hids hi
  obtain ⟨row', hrow', hspec'⟩ := row_of_markedRow ht hids hj
  have hbytes :=
    hsha _ (List.mem_of_getElem? hi) _ (List.mem_of_getElem? hj) (sha256_of_rowSignature hkey)
  exact h i j row row' hrow hrow' (of_rowBytes_marked hmarkers hspec hspec' hbytes).1

/-- Removal after marking keeps the ids that removal keeps exactly when there was
nothing to remove. -/
theorem ids_removed_marked :
    (∀ id, id ∈ ids (removed (marked t)) ↔ id ∈ ids (removed t)) ↔ NoTwins t := by
  have ht' : Accepted (marked t) := accepted_marked ht
  have hids' : Identified defaultIdColumn (marked t).records := identified_marked ht hids
  constructor
  · intro hsame
    by_contra htwins
    obtain ⟨i, row, hrow, htwo, hnot⟩ := exists_not_least hids htwins
    obtain ⟨markedRow, hmarked, hspec⟩ := markedRow_of_row ht hids hrow
    obtain ⟨hiff, hcases⟩ := hspec.grouped htwo
    have hzero : cell isDuplicateKeptColumn markedRow = "0".toList :=
      hcases.resolve_left fun hone => hnot (hiff.mp hone)
    -- the row that the second step keeps of this row's marked twins
    obtain ⟨keptRow, hkept, hkey, hleast⟩ := exists_least hids' (List.mem_of_getElem? hmarked)
    obtain ⟨j, hj⟩ := List.mem_iff_getElem?.mp hkept
    obtain ⟨source, hsource, hspec'⟩ := row_of_markedRow ht hids hj
    have hmark := (of_rowBytes_marked hmarkers hspec' hspec
      (hsha _ hkept _ (List.mem_of_getElem? hmarked) (sha256_of_rowSignature hkey))).2
    rw [hzero] at hmark
    have hnot' : ¬ Least defaultIdColumn (signatureColumns t) t.records source := by
      intro hsourceLeast
      have htwo' : 2 ≤ (membersOf t.records defaultIdColumn (signatureColumns t)
          (rowSignature (signatureColumns t) source)).length := by
        by_contra halone
        rw [hspec'.alone halone] at hmark
        cases hmark
      rw [(hspec'.grouped htwo').1.mpr hsourceLeast] at hmark
      exact absurd hmark (by decide)
    have hid := (hsame _).mp ((mem_ids_removed ht' hids').mpr ⟨keptRow, hkept, hleast, rfl⟩)
    obtain ⟨direct, hdirect, hdirectLeast, hdirectId⟩ := (mem_ids_removed ht hids).mp hid
    obtain ⟨k, hk⟩ := List.mem_iff_getElem?.mp hdirect
    rw [cell_id_marked ht hspec'] at hdirectId
    obtain rfl := hids.position hk hsource hdirectId
    exact hnot' (Option.some.inj (hk.symm.trans hsource) ▸ hdirectLeast)
  · intro h id
    have h' : NoTwins (marked t) := noTwins_marked ht hids hmarkers hsha h
    have hall : ∀ {t : Table}, NoTwins t → Accepted t → Identified defaultIdColumn t.records →
        (id ∈ ids (removed t) ↔ id ∈ ids t) := by
      intro t h ht hids
      rw [mem_ids_removed ht hids, ids, List.mem_map]
      exact exists_congr fun row => and_congr_right fun hrow =>
        and_iff_right (least_of_noTwins h hrow)
    rw [hall h' ht' hids', hall h ht hids, ids_marked ht hids]

theorem marked_marked : marked (marked t) = marked t ↔ NoTwins t := by
  have ht' : Accepted (marked t) := accepted_marked ht
  have hids' : Identified defaultIdColumn (marked t).records := identified_marked ht hids
  constructor
  · intro hsame
    by_contra htwins
    obtain ⟨i₀, twin, htwin, htwo, -⟩ := exists_not_least hids htwins
    obtain ⟨row, hmem, hkey, hleast⟩ := exists_least hids (List.mem_of_getElem? htwin)
    obtain ⟨i, hrow⟩ := List.mem_iff_getElem?.mp hmem
    obtain ⟨markedRow, hmarked, hspec⟩ := markedRow_of_row ht hids hrow
    have hone : cell isDuplicateKeptColumn markedRow = "1".toList :=
      (hspec.grouped (hkey ▸ htwo)).1.mpr hleast
    have halone : ¬ 2 ≤ (membersOf (marked t).records defaultIdColumn (signatureColumns (marked t))
        (rowSignature (signatureColumns (marked t)) markedRow)).length := by
      have honly : ∀ (j : Nat) (other : Row), (marked t).records[j]? = some other →
          rowSignature (signatureColumns (marked t)) other =
            rowSignature (signatureColumns (marked t)) markedRow → j = i := by
        intro j other hother hsignature
        obtain ⟨source, hsource, hspec'⟩ := row_of_markedRow ht hids hother
        obtain ⟨hkey', hmark⟩ := of_rowBytes_marked hmarkers hspec' hspec
          (hsha _ (List.mem_of_getElem? hother) _ (List.mem_of_getElem? hmarked)
            (sha256_of_rowSignature hsignature))
        have hleast' := (hspec'.grouped (hkey'.trans hkey ▸ htwo)).1.mp (hmark.trans hone)
        exact hids.position hsource hrow (le_antisymm (hleast' row hmem hkey'.symm)
          (hleast source (List.mem_of_getElem? hsource) hkey'))
      intro htwo'
      obtain ⟨a, b, rowA, rowB, hne, hA, hB, hkeyA, hkeyB⟩ := two_le_length_membersOf.mp htwo'
      exact hne ((honly a rowA hA hkeyA).trans (honly b rowB hB hkeyB).symm)
    obtain ⟨again, hagain, hspec'⟩ := markedRow_of_row ht' hids' hmarked
    rw [hsame, hmarked] at hagain
    obtain rfl := Option.some.inj hagain
    have hnone := hspec'.alone halone
    rw [hone] at hnone
    exact absurd hnone (by decide)
  · intro h
    exact marked_eq_of_noTwins ht h (noTwins_marked ht hids hmarkers hsha h)

end Result

section Example

def sameAmounts (ids : List Text) : Table where
  header := ["object_id".toList, "amount".toList]
  lines := ids.map fun id => [id, "1".toList]

theorem accepted_sameAmounts {ids : List Text} (h : ids ≠ []) : Accepted (sameAmounts ids) := by
  have hcolumns : (sameAmounts ids).columns = ["object_id".toList, "amount".toList] := rfl
  have hsignature : signatureColumns (sameAmounts ids) = ["amount".toList] := rfl
  refine ⟨?_, ?_, ?_, ?_⟩
  · rw [hcolumns]
    exact List.cons_ne_nil _ _
  · simpa [sameAmounts, Table.records] using List.exists_mem_of_ne_nil ids h
  · rw [hcolumns]
    exact List.mem_cons_self
  · rw [hsignature]
    exact List.cons_ne_nil _ _

def twins : Table := sameAmounts ["a".toList, "b".toList]

end Example

end DataForge.Plugins.Tabular.MarkThenRemove
