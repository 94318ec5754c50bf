import DataForge.Plugins.Tabular.SmoteIds

namespace DataForge.Plugins.Tabular.SmoteLeakage

open DataForge.Foundation.Strings
open DataForge.Foundation.Outcome
open DataForge.Foundation.Sha256
open DataForge.Foundation.Dictionary
open DataForge.Foundation.Features
open DataForge.Foundation.Scores
open DataForge.Foundation.Tables
open DataForge.Domain.Common
open DataForge.Domain.Leakage
open DataForge.Domain.Profile
open DataForge.Domain.Splits
open DataForge.Plugins.Tabular.Sources
open DataForge.Plugins.Tabular.LeakageChecks hiding verifyAssignmentsMatchRows buildReport
open DataForge.Plugins.Tabular.SyntheticCommon
open DataForge.Plugins.Tabular.SyntheticSmote
open DataForge.Plugins.Tabular.SmoteIds

variable {F : Type} [FeatureLike F]

section Checks

/-- The checks run, and neither finds rows of different splits that share their group or
their cells. -/
def PassesBoth (manifest : SplitManifest) (profile : Option (TabularProfileReport F))
    (t : Table) : Prop :=
  ∃ report, runSplitLeakageChecks manifest profile t = .ok report ∧
    ∀ check ∈ report.checks, check.checkType = .exactHash ∨ check.checkType = .groupKey →
      check.status ≠ .failed

structure Separated (manifest : SplitManifest) (t : Table) : Prop where
  signature : ¬ Crosses (fun row => some (rowSignature row)) (identifiedRows t.records)
    (indexAssignments manifest)
  group : ∀ key ∈ manifest.groupKey, ¬ Crosses (groupOf key) (identifiedRows t.records)
    (indexAssignments manifest)

theorem passesBoth_iff {manifest : SplitManifest} {profile : Option (TabularProfileReport F)}
    {t : Table} :
    PassesBoth manifest profile t ↔
      (manifest.assignments ≠ [] ∧
        (t.columns ≠ [] ∧ manifest.targetColumn.1 ∈ t.columns ∧ t.records ≠ []) ∧
        LeakageChecks.verifyAssignmentsMatchRows (indexAssignments manifest)
          (identifiedRows t.records) =
          .ok ()) ∧ Separated manifest t := by
  have hchecks : (∀ check ∈ runChecks manifest profile (identifiedRows t.records),
      check.checkType = .exactHash ∨ check.checkType = .groupKey → check.status ≠ .failed) ↔
        Separated manifest t := by
    simp only [runChecks, List.forall_mem_cons, List.not_mem_nil, false_imp_iff,
      implies_true, and_true, checkType_exactHashCheck, checkType_groupKeyCheck,
      checkType_targetLeakageCandidateCheck, true_or, or_true, forall_const, ne_eq,
      exactHashCheck_failed, groupKeyCheck_failed, reduceCtorEq, or_self]
    push Not
    exact ⟨fun h => ⟨h.1, h.2⟩, fun h => ⟨h.signature, h.group⟩⟩
  rw [PassesBoth, ← hchecks]
  simp only [runSplitLeakageChecks_eq_ok]
  constructor
  · rintro ⟨_, ⟨hassignments, hread, hverify, rfl⟩, hpass⟩
    exact ⟨⟨hassignments, hread, hverify⟩, hpass⟩
  · rintro ⟨⟨hassignments, hread, hverify⟩, hpass⟩
    exact ⟨_, ⟨hassignments, hread, hverify, rfl⟩, hpass⟩

end Checks

section Rows

variable {t : Table} (hid : objectIdColumn ∈ t.columns)

theorem exists_record {row : IdentifiedRow} (hrow : row ∈ identifiedRows t.records) :
    ∃ i, ∃ line : Text → Text, row.1 = withObjectId i (rowOf t.columns line) := by
  obtain ⟨item, hitem, rfl⟩ := List.mem_map.mp hrow
  obtain ⟨line, -, hline⟩ := List.mem_map.mp (List.fst_mem_of_mem_zipIdx hitem)
  refine ⟨item.2, t.value line, ?_⟩
  rw [identify, hline]

include hid

theorem cell_of_notMem {row : IdentifiedRow} (hrow : row ∈ identifiedRows t.records) {column : Text}
    (hcolumn : column ∉ t.columns) : cell column row.1 = [] := by
  obtain ⟨i, line, hline⟩ := exists_record hrow
  have hne : column ≠ objectIdColumn := fun h => hcolumn (h ▸ hid)
  rw [hline, cell_withObjectId_ne hne, cell_rowOf_of_notMem hcolumn]

/-- All rows of a table have the columns of the table. -/
theorem keys_of_mem {row : IdentifiedRow} (hrow : row ∈ identifiedRows t.records)
    (f : Text → Text) : row.1.map Prod.fst = (rowOf t.columns f).map Prod.fst := by
  obtain ⟨i, line, hline⟩ := exists_record hrow
  rw [hline, withObjectId]
  split
  · rw [keys_set, if_pos (mem_keys_rowOf.mpr hid)]
    exact keys_rowOf_congr _ _ _
  · exact keys_rowOf_congr _ _ _

/-- The columns that a signature covers. -/
def signedColumns (t : Table) : List Text :=
  ((rowOf t.columns fun _ => []).map Prod.fst).filter (· ≠ objectIdColumn)

theorem rowSignature_of_mem {row : IdentifiedRow} (hrow : row ∈ identifiedRows t.records) :
    rowSignature row = hexdigest (rowBytes (signedColumns t) row.1) := by
  rw [rowSignature, keys_of_mem hid hrow fun _ => [], signature, signedColumns]

theorem rowSignature_eq {row row' : IdentifiedRow} (hrow : row ∈ identifiedRows t.records)
    (hrow' : row' ∈ identifiedRows t.records)
    (h : ∀ column, column ≠ objectIdColumn → cell column row.1 = cell column row'.1) :
    rowSignature row = rowSignature row' := by
  rw [rowSignature_of_mem hid hrow, rowSignature_of_mem hid hrow']
  congr 1
  apply rowBytes_congr
  intro column hcolumn
  exact h column (of_decide_eq_true (List.mem_filter.mp hcolumn).2)

/-- The hash tells the rows of this table apart. -/
def CollisionFree (t : Table) : Prop :=
  ∀ row ∈ identifiedRows t.records, ∀ row' ∈ identifiedRows t.records,
    hexdigest (rowBytes (signedColumns t) row.1) = hexdigest (rowBytes (signedColumns t) row'.1) →
      rowBytes (signedColumns t) row.1 = rowBytes (signedColumns t) row'.1

theorem cell_of_rowSignature (hsha : CollisionFree t) {row row' : IdentifiedRow}
    (hrow : row ∈ identifiedRows t.records) (hrow' : row' ∈ identifiedRows t.records)
    (h : rowSignature row = rowSignature row') {column : Text} (hcolumn : column ≠ objectIdColumn) :
    cell column row.1 = cell column row'.1 := by
  rw [rowSignature_of_mem hid hrow, rowSignature_of_mem hid hrow'] at h
  by_cases hmem : column ∈ t.columns
  · apply cell_of_rowBytes_eq (hsha row hrow row' hrow' h)
    exact List.mem_filter.mpr ⟨mem_keys_rowOf.mpr hmem, decide_eq_true hcolumn⟩
  · rw [cell_of_notMem hid hrow hmem, cell_of_notMem hid hrow' hmem]

end Rows

section Candidate

variable {request : ExecuteSmoteAugmentationRequest F} {t : Table}
  {result : ExecuteSmoteAugmentationResult F} {syntheticRows : List Row}

/-- A real row of the candidate beside its source. -/
structure Kept (source row : IdentifiedRow) : Prop where
  cells : ∀ column, column ≠ isSyntheticColumn → column ≠ sourceSplitColumn →
    cell column row.1 = cell column source.1
  flag : cell isSyntheticColumn row.1 =
    if cell isSyntheticColumn source.1 = [] then "0".toList else cell isSyntheticColumn source.1
  sourceSplit : cell sourceSplitColumn row.1 = cell sourceSplitColumn source.1

theorem Kept.objectId {source row : IdentifiedRow} (h : Kept source row) :
    Sources.objectId row = Sources.objectId source :=
  Subtype.ext (h.cells objectIdColumn (by decide) (by decide))

variable (hid : objectIdColumn ∈ t.columns)

include hid in
theorem kept_of_shown {source row : IdentifiedRow} (hsource : source ∈ identifiedRows t.records)
    (hrow : row.1 = rowOf (candidateDatasetColumns t.columns) fun column =>
      cell column (materialized (candidateDatasetColumns t.columns) source.1)) :
        Kept source row := by
  refine ⟨fun column hflag hsplit => ?_, ?_, ?_⟩
  · rw [hrow]
    by_cases hmem : column ∈ candidateDatasetColumns t.columns
    · rw [cell_rowOf hmem, cell_materialized hmem hflag hsplit]
    · have hcolumn : column ∉ t.columns := fun hcolumn => hmem (mem_candidateDatasetColumns hcolumn)
      rw [cell_rowOf_of_notMem hmem, cell_of_notMem hid hsource hcolumn]
  · rw [hrow, cell_rowOf (marker_mem_candidateDatasetColumns (by decide)),
      cell_flag_materialized (marker_mem_candidateDatasetColumns (by decide))]
  · rw [hrow, cell_rowOf (marker_mem_candidateDatasetColumns (by decide)),
      cell_sourceSplit_materialized (marker_mem_candidateDatasetColumns (by decide))]

include hid in
theorem drawnFrom_of_shown {seedRow neighborRow row : IdentifiedRow} {shown : Row}
    {featureColumns : List Text} (hseed : seedRow ∈ identifiedRows t.records)
    (hrow : row.1 = rowOf (candidateDatasetColumns t.columns) fun column => cell column shown)
    (hdrawn : DrawnFrom F featureColumns seedRow neighborRow shown) :
    DrawnFrom F featureColumns seedRow neighborRow row.1 := by
  refine ⟨?_, ?_, fun column hfeature hcolumn hflag hsplit => ?_⟩
  · rw [hrow, cell_rowOf (marker_mem_candidateDatasetColumns (by decide)), hdrawn.flag]
  · rw [hrow, cell_rowOf (marker_mem_candidateDatasetColumns (by decide)), hdrawn.sourceSplit]
  · rw [hrow]
    by_cases hmem : column ∈ candidateDatasetColumns t.columns
    · rw [cell_rowOf hmem, hdrawn.cells column hfeature hcolumn hflag hsplit]
    · have hnone : column ∉ t.columns := fun hnone => hmem (mem_candidateDatasetColumns hnone)
      rw [cell_rowOf_of_notMem hmem, cell_of_notMem hid hseed hnone]

variable (h : Augments request t result syntheticRows)

include h

theorem columns_candidate : result.candidate.columns = candidateDatasetColumns t.columns := by
  rw [h.candidate, writeCandidateCsv]
  apply columns_write
  apply nil_notMem_candidateDatasetColumns
  intro hmem
  simpa using (List.mem_filter.mp hmem).2

theorem get?_augmented_of_notMem {id : Text} (hnew : id ∉ newIds request t) :
    get? id (indexAssignments result.augmentedSplitManifest) =
      get? id (indexAssignments request.splitManifest) := by
  obtain ⟨added, hassignments, hids, -⟩ := exists_added h.manifest
  rw [indexAssignments, hassignments, List.map_append, update_append, get?_update_of_notMem]
  · rfl
  · rw [List.map_map]
    rw [h.ids] at hids
    exact fun hmem => hnew (hids ▸ hmem)

theorem train_of_new {id : Text} (hnew : id ∈ newIds request t) {x : DataSplit × Option Text}
    (hx : get? id (indexAssignments result.augmentedSplitManifest) = some x) : x.1 = .train := by
  obtain ⟨added, hassignments, hids, htrain, -⟩ := exists_added h.manifest
  have hmem : id ∈ (added.map fun a => (a.objectId.1, (a.split, a.groupValue))).map Prod.fst := by
    rw [List.map_map]
    exact (hids.trans h.ids).symm ▸ hnew
  obtain ⟨y, hy, hget⟩ := exists_get?_update hmem
    (update []
      (request.splitManifest.assignments.map fun a => (a.objectId.1, (a.split, a.groupValue))))
  rw [indexAssignments, hassignments, List.map_append, update_append, hget] at hx
  obtain rfl := Option.some.inj hx
  obtain ⟨a, ha, haq⟩ := List.mem_map.mp hy
  obtain ⟨-, rfl⟩ := Prod.mk.inj haq
  exact htrain a ha

include hid

/-- A row of the candidate shows a row of the source or a synthetic one. -/
theorem exists_shown {row : IdentifiedRow} (hrow : row ∈ identifiedRows result.candidate.records) :
    ∃ shown, row.1 = rowOf (candidateDatasetColumns t.columns) (fun column => cell column shown) ∧
      ((∃ source ∈ identifiedRows t.records,
        shown = materialized (candidateDatasetColumns t.columns) source.1) ∨
        shown ∈ syntheticRows) := by
  obtain ⟨item, hitem, rfl⟩ := List.mem_map.mp hrow
  have hrecord := List.fst_mem_of_mem_zipIdx hitem
  have hsame : (identify item).1 = item.1 := if_neg (cell_candidate_ne_nil h hid hrecord)
  have hne : candidateDatasetColumns t.columns ≠ [] :=
    List.ne_nil_of_mem (mem_candidateDatasetColumns hid)
  have hnil : [] ∉ candidateDatasetColumns t.columns := by
    rw [← columns_candidate h]
    intro hmem
    simpa using (List.mem_filter.mp hmem).2
  rw [h.candidate, writeCandidateCsv, records_write hne hnil] at hrecord
  obtain ⟨shown, hshown, hrecord⟩ := List.mem_map.mp hrecord
  rcases List.mem_append.mp hshown with hreal | hsynthetic
  · obtain ⟨record, hmem, rfl⟩ := List.mem_map.mp hreal
    obtain ⟨source, hsource, rfl⟩ := List.mem_map.mp hmem
    exact ⟨_, hsame.trans hrecord.symm, .inl ⟨source, hsource, rfl⟩⟩
  · obtain ⟨synthetic, hmem, rfl⟩ := List.mem_map.mp hsynthetic
    refine ⟨synthetic, ?_, .inr hmem⟩
    rw [hsame, ← hrecord]
    exact rowOf_congr fun column hcolumn => cell_rowOf hcolumn

/-- An assigned row of the candidate is a row of the source under the same split, or a
synthetic one, which is in the training split like its seed. -/
theorem provenance (hnodup : (idsOf result.candidate).Nodup)
    (hdrawn : ∀ row ∈ syntheticRows,
      Drawn F (trainRare request (identifiedRows t.records)) (interpolatedColumns request t) row)
    {row : IdentifiedRow} (hrow : row ∈ identifiedRows result.candidate.records)
    {x : DataSplit × Option Text}
    (hx : get? (objectId row).1 (indexAssignments result.augmentedSplitManifest) = some x) :
    (∃ source ∈ identifiedRows t.records, Kept source row ∧
      get? (objectId source).1 (indexAssignments request.splitManifest) = some x) ∨
      x.1 = .train ∧ 0 < generatedCount request (identifiedRows t.records) ∧
        Drawn F (trainRare request (identifiedRows t.records)) (interpolatedColumns request t)
          row.1 := by
  rw [idsOf_candidate h hid, List.nodup_append'] at hnodup
  obtain ⟨shown, hshown, ⟨source, hsource, rfl⟩ | hsynthetic⟩ := exists_shown hid h hrow
  · have hkept : Kept source row := kept_of_shown hid hsource hshown
    have hmem : (objectId source).1 ∈ idsOf t := List.mem_map_of_mem hsource
    rw [hkept.objectId, get?_augmented_of_notMem h fun hnew => hnodup.2.2 hmem hnew] at hx
    exact .inl ⟨source, hsource, hkept, hx⟩
  · obtain ⟨i, j, seedRow, neighborRow, hne, hseed, hneighbor, hfrom⟩ := hdrawn shown hsynthetic
    have hcell : cell objectIdColumn row.1 = cell objectIdColumn shown := by
      rw [hshown, cell_rowOf (mem_candidateDatasetColumns hid)]
    have hnew : (objectId row).1 ∈ newIds request t := by
      rw [← h.ids]
      exact List.mem_map.mpr ⟨shown, hsynthetic, hcell.symm⟩
    have hsome : 0 < generatedCount request (identifiedRows t.records) := by
      obtain ⟨k, hk, -⟩ := List.mem_map.mp hnew
      exact Nat.zero_lt_of_lt (List.mem_range.mp hk)
    have hmem := List.mem_of_mem_filter (List.mem_of_getElem? hseed)
    exact .inr ⟨train_of_new h hnew hx, hsome, i, j, seedRow, neighborRow, hne, hseed, hneighbor,
      drawnFrom_of_shown hid hmem hshown hfrom⟩

/-- A request that disturbs no split of a table: its samples take their group from their
seeds, its marks do not make rows alike, and no row outside the training split bears the
marks of a synthetic one. -/
structure Undisturbed (request : ExecuteSmoteAugmentationRequest F) (t : Table) : Prop where
  idColumn : objectIdColumn ∈ t.columns
  group : ∀ key ∈ request.splitManifest.groupKey,
    key.1 ≠ isSyntheticColumn ∧ key.1 ≠ sourceSplitColumn ∧
      (key.1 ∈ interpolatedColumns request t →
        0 < generatedCount request (identifiedRows t.records) →
        ∀ row ∈ trainRare request (identifiedRows t.records),
          ∀ row' ∈ trainRare request (identifiedRows t.records), objectId row ≠ objectId row' →
            ¬ Interpolates F row row' key.1)
  flags : ∀ row ∈ identifiedRows t.records, ∀ row' ∈ identifiedRows t.records,
    cell isSyntheticColumn row.1 = [] → cell isSyntheticColumn row'.1 ≠ "0".toList
  originals : 0 < generatedCount request (identifiedRows t.records) →
    ∀ row ∈ identifiedRows t.records, cell isSyntheticColumn row.1 = "1".toList →
      cell sourceSplitColumn row.1 = DataSplit.train.value →
        ∀ x, get? (objectId row).1 (indexAssignments request.splitManifest) = some x → x.1 = .train

end Candidate

section Separation

variable {request : ExecuteSmoteAugmentationRequest F} {t : Table}
  {result : ExecuteSmoteAugmentationResult F} {syntheticRows : List Row} {source source' row row' :
    IdentifiedRow}

theorem Undisturbed.flag_eq (h : Undisturbed request t)
    (hsource : source ∈ identifiedRows t.records)
    (hsource' : source' ∈ identifiedRows t.records) (hkept : Kept source row)
    (hkept' : Kept source' row')
    (hsame : cell isSyntheticColumn row.1 = cell isSyntheticColumn row'.1) :
    cell isSyntheticColumn source.1 = cell isSyntheticColumn source'.1 := by
  rw [hkept.flag, hkept'.flag] at hsame
  split at hsame
  · next hnil =>
    split at hsame
    · next hnil' => rw [hnil, hnil']
    · exact absurd hsame.symm (h.flags source hsource source' hsource' hnil)
  · split at hsame
    · next hnil' => exact absurd hsame (h.flags source' hsource' source hsource hnil')
    · exact hsame

theorem Undisturbed.train_of_marked (h : Undisturbed request t)
    (hsome : 0 < generatedCount request (identifiedRows t.records))
    (hsource : source ∈ identifiedRows t.records) (hkept : Kept source row)
    {x : DataSplit × Option Text}
    (hx : get? (objectId source).1 (indexAssignments request.splitManifest) = some x)
    (hflag : cell isSyntheticColumn row.1 = "1".toList)
    (hsplit : cell sourceSplitColumn row.1 = DataSplit.train.value) : x.1 = .train := by
  rw [hkept.flag] at hflag
  rw [hkept.sourceSplit] at hsplit
  split at hflag
  · exact absurd hflag (by decide)
  · exact h.originals hsome source hsource hflag hsplit x hx

variable (h : Augments request t result syntheticRows) (hundisturbed : Undisturbed request t)
  (hnodup : (idsOf result.candidate).Nodup)
  (hdrawn : ∀ row ∈ syntheticRows,
    Drawn F (trainRare request (identifiedRows t.records)) (interpolatedColumns request t) row)

include h hundisturbed hnodup hdrawn

theorem signature_separated (hsha : CollisionFree result.candidate)
    (hsource : Separated request.splitManifest t) :
    ¬ Crosses (fun row => some (rowSignature row)) (identifiedRows result.candidate.records)
      (indexAssignments result.augmentedSplitManifest) := by
  rintro ⟨row, hrow, row', hrow', k, x, y, hk, hk', hx, hy, hxy⟩
  have hid : objectIdColumn ∈ t.columns := hundisturbed.idColumn
  have hsame : rowSignature row = rowSignature row' := Option.some.inj (hk.trans hk'.symm)
  have hcells : ∀ column, column ≠ objectIdColumn → cell column row.1 = cell column row'.1 :=
    fun column hcolumn =>
      cell_of_rowSignature (objectId_mem_candidate h hid) hsha hrow hrow' hsame hcolumn
  have hflags := hcells isSyntheticColumn (by decide)
  have hsplits := hcells sourceSplitColumn (by decide)
  rcases provenance hid h hnodup hdrawn hrow hx with
      ⟨source, hmem, hkept, hx⟩ | ⟨htrain, hsome, _, _, _, _, -, -, -, hfrom⟩ <;>
    rcases provenance hid h hnodup hdrawn hrow' hy with
      ⟨source', hmem', hkept', hy⟩ | ⟨htrain', hsome', _, _, _, _, -, -, -, hfrom'⟩
  · have hflag := hundisturbed.flag_eq hmem hmem' hkept hkept' hflags
    have hall :
        ∀ column, column ≠ objectIdColumn → cell column source.1 = cell column source'.1 := by
      intro column hcolumn
      by_cases hmark : column = isSyntheticColumn
      · rw [hmark, hflag]
      · by_cases hsplit : column = sourceSplitColumn
        · rw [hsplit, ← hkept.sourceSplit, ← hkept'.sourceSplit, hsplits]
        · rw [← hkept.cells column hmark hsplit, ← hkept'.cells column hmark hsplit,
            hcells column hcolumn]
    exact hsource.signature ⟨source, hmem, source', hmem', rowSignature source, x, y, rfl,
      congrArg some
      (rowSignature_eq hid hmem' hmem fun column hcolumn => (hall column hcolumn).symm),
      hx, hy, hxy⟩
  · apply hxy
    rw [htrain']
    exact hundisturbed.train_of_marked hsome' hmem hkept hx (hflags.trans hfrom'.flag)
      (hsplits.trans hfrom'.sourceSplit)
  · apply hxy
    rw [htrain]
    exact (hundisturbed.train_of_marked hsome hmem' hkept' hy (hflags.symm.trans hfrom.flag)
      (hsplits.symm.trans hfrom.sourceSplit)).symm
  · exact hxy (htrain.trans htrain'.symm)

/-- A row of the candidate has a row of the source in its group and in its split. -/
theorem exists_origin {key : NonEmptyStr} (hkey : key ∈ request.splitManifest.groupKey)
    (hne : key.1 ≠ objectIdColumn) (hrow : row ∈ identifiedRows result.candidate.records)
    {x : DataSplit × Option Text}
    (hx : get? (objectId row).1 (indexAssignments result.augmentedSplitManifest) = some x) :
    ∃ source ∈ identifiedRows t.records, groupOf key source = groupOf key row ∧
      ∃ y, get? (objectId source).1 (indexAssignments request.splitManifest) =
        some y ∧ y.1 = x.1 := by
  obtain ⟨hflag, hsplit, hcopied⟩ := hundisturbed.group key hkey
  rcases provenance hundisturbed.idColumn h hnodup hdrawn hrow hx with
    ⟨source, hmem, hkept, hx⟩ | ⟨htrain, hsome, i, j, seedRow, neighborRow, hij, hseed,
      hneighbor, hfrom⟩
  · refine ⟨source, hmem, ?_, x, hx, rfl⟩
    rw [groupOf, groupOf, hkept.cells key.1 hflag hsplit]
  · have hseedMem := List.mem_of_getElem? hseed
    have hids : objectId seedRow ≠ objectId neighborRow := by
      intro hsame
      have hrareIds : ((trainRare request (identifiedRows t.records)).map
          fun row => (objectId row).1).Nodup := by
        rw [idsOf_candidate h hundisturbed.idColumn] at hnodup
        exact (List.filter_sublist.map _).nodup (List.nodup_append.mp hnodup).1
      have hlt := (List.getElem?_eq_some_iff.mp hseed).1
      apply hij
      refine (List.getElem?_inj (by rwa [List.length_map]) hrareIds).mp ?_
      rw [List.getElem?_map, List.getElem?_map, hseed, hneighbor, Option.map_some,
        Option.map_some, hsame]
    obtain ⟨hmem, hrare⟩ := List.mem_filter.mp hseedMem
    rw [Bool.and_eq_true, inTrain, Option.any_eq_true] at hrare
    obtain ⟨⟨y, hy, hin⟩, -⟩ := hrare
    refine ⟨seedRow, hmem, ?_, y, hy, (of_decide_eq_true hin).trans htrain.symm⟩
    have hcell :=
      hfrom.cells key.1 (fun hfeature => hcopied hfeature hsome seedRow hseedMem neighborRow
      (List.mem_of_getElem? hneighbor) hids) hne hflag hsplit
    rw [groupOf, groupOf, hcell]

theorem group_separated (hsource : Separated request.splitManifest t) {key : NonEmptyStr}
    (hkey : key ∈ request.splitManifest.groupKey) :
    ¬ Crosses (groupOf key) (identifiedRows result.candidate.records)
      (indexAssignments result.augmentedSplitManifest) := by
  rintro ⟨row, hrow, row', hrow', k, x, y, hk, hk', hx, hy, hxy⟩
  by_cases hobject : key.1 = objectIdColumn
  · -- the group is the id itself, and the id decides the split
    have hgroup : ∀ row : IdentifiedRow, groupOf key row = some (objectId row).1 := by
      intro row
      rw [groupOf, hobject, if_neg row.2, objectId]
    rw [hgroup] at hk hk'
    rw [Option.some.inj hk] at hx
    rw [Option.some.inj hk', hx] at hy
    exact hxy (congrArg Prod.fst (Option.some.inj hy))
  · obtain ⟨source, hmem, hgroup, x', hx', hsplit⟩ :=
      exists_origin h hundisturbed hnodup hdrawn hkey hobject hrow hx
    obtain ⟨source', hmem', hgroup', y', hy', hsplit'⟩ :=
      exists_origin h hundisturbed hnodup hdrawn hkey hobject hrow' hy
    exact hsource.group key hkey ⟨source, hmem, source', hmem', k, x', y', hgroup.trans hk,
      hgroup'.trans hk', hx', hy', by rwa [hsplit, hsplit']⟩

theorem passesBoth_candidate {profile : Option (TabularProfileReport F)}
    (hsha : CollisionFree result.candidate) (hsource : PassesBoth request.splitManifest profile t) :
    PassesBoth result.augmentedSplitManifest profile result.candidate := by
  obtain ⟨⟨hassignments, ⟨hcolumns, htarget, hrecords⟩, hverify⟩, hseparated⟩ :=
    passesBoth_iff.mp hsource
  obtain ⟨added, hadded, -, -, hgroup, htargetColumn⟩ := exists_added h.manifest
  have hid : objectIdColumn ∈ t.columns := hundisturbed.idColumn
  have hids : idsOf result.candidate ≠ [] := by
    rw [idsOf_candidate h hid]
    refine List.append_ne_nil_of_left_ne_nil ?_ _
    simpa [idsOf, identifiedRows] using hrecords
  refine passesBoth_iff.mpr ⟨⟨?_, ⟨?_, ?_, ?_⟩, ?_⟩, ?_, ?_⟩
  · rw [hadded]
    exact List.append_ne_nil_of_left_ne_nil hassignments _
  · exact List.ne_nil_of_mem (objectId_mem_candidate h hid)
  · rw [htargetColumn, columns_candidate h]
    exact mem_candidateDatasetColumns htarget
  · rintro hnil
    rw [idsOf, hnil] at hids
    exact hids rfl
  · rw [LeakageChecks.verifyAssignmentsMatchRows, guardOk_eq_ok]
    intro item hitem
    have hkey : item.1 ∈ assignmentIds result.augmentedSplitManifest := by
      have hmem := List.mem_map_of_mem (f := Prod.fst) hitem
      rw [indexAssignments, mem_keys_update, List.map_map] at hmem
      exact hmem.resolve_left (by simp)
    rw [assignmentIds_augmented h.manifest, h.ids] at hkey
    change item.1 ∈ idsOf result.candidate
    rw [idsOf_candidate h hid]
    rcases List.mem_append.mp hkey with hold | hnew
    · exact List.mem_append_left _ (h.assigned _ hold)
    · exact List.mem_append_right _ hnew
  · exact signature_separated h hundisturbed hnodup hdrawn hsha hseparated
  · intro key hkey
    rw [hgroup] at hkey
    exact group_separated h hundisturbed hnodup hdrawn hseparated hkey

end Separation

variable {gen : Generator F} {request : ExecuteSmoteAugmentationRequest F} {t : Table}
  {result : ExecuteSmoteAugmentationResult F}

section Example

/-- What `random.Random(42)` draws for one sample of two rare rows. -/
def firstDraws : Generator ℚ where
  State := Unit
  seeded _ := ()
  randrange _ s := (0, s)
  random s := (6679293108789577 / 9007199254740992, s)
  randrange_lt _ _ h := h

/-- Six payments, the last of them in the test split; the two fraudulent ones are of one branch. -/
def payments (fraudBranch testBranch : String) : Table where
  header := ["object_id", "branch", "amount", "is_fraud"].map String.toList
  lines := [["t0", fraudBranch, "10", "1"], ["t1", fraudBranch, "20", "1"], ["t2", "7", "30", "0"],
    ["t3", "8", "40", "0"], ["t4", "9", "50", "0"], ["t5", testBranch, "60", "0"]].map
      fun line => line.map String.toList

def branchManifest : SplitManifest where
  splitManifestId := "split".toList
  targetColumn := literal "is_fraud"
  seed := 42
  groupKey := some (literal "branch")
  assignments :=
    [⟨literal "t0", .train, literal "1", none⟩, ⟨literal "t1", .train, literal "1", none⟩,
      ⟨literal "t2", .train, literal "0", none⟩, ⟨literal "t3", .train, literal "0", none⟩,
      ⟨literal "t4", .train, literal "0", none⟩, ⟨literal "t5", .test, literal "0", none⟩]
  classDistribution := []

def branchRequest : ExecuteSmoteAugmentationRequest ℚ where
  stepType := "AUGMENT_RARE_CLASS".toList
  methodId := "smote".toList
  config := []
  splitManifest := branchManifest
  targetColumn := literal "is_fraud"
  rareClassLabel := literal "1"
  randomSeed := 42
  kNeighbors := ⟨5, default_neighbors⟩
  samplingStrategy := ⟨1, by decide +kernel⟩
  sampleLineageLimit := 25
  featureColumns := none

def augmented (fraudBranch testBranch : String) : Result (ExecuteSmoteAugmentationResult ℚ) :=
  executeSmoteAugmentationAction firstDraws branchRequest (payments fraudBranch testBranch)

def noProfile : Option (TabularProfileReport ℚ) := none

theorem passesBoth_payments {fraudBranch testBranch : String}
    (hread : let t := payments fraudBranch testBranch
      (t.columns ≠ [] ∧ branchManifest.targetColumn.1 ∈ t.columns ∧ t.records ≠ []) ∧
        (∀ item ∈ indexAssignments branchManifest, item.1 ∈ idsOf t) ∧
        (exactHashCheck (identifiedRows t.records) (indexAssignments branchManifest)).status ≠
          .failed ∧
        (groupKeyCheck (identifiedRows t.records) (indexAssignments branchManifest)
          branchManifest.groupKey).status ≠ .failed) :
    PassesBoth branchManifest noProfile (payments fraudBranch testBranch) := by
  obtain ⟨hcolumns, hids, hsignature, hgroup⟩ := hread
  rw [ne_eq, exactHashCheck_failed] at hsignature
  rw [ne_eq, groupKeyCheck_failed] at hgroup
  refine passesBoth_iff.mpr ⟨⟨by decide, hcolumns, ?_⟩, hsignature, fun key hkey hcrosses => ?_⟩
  · rw [LeakageChecks.verifyAssignmentsMatchRows, guardOk_eq_ok]
    exact hids
  · exact hgroup ⟨key, hkey, hcrosses⟩

theorem ten_le_length_syntheticId (k : Nat) : 10 ≤ (syntheticId k).length := by
  have hsplit : (syntheticId k).length = 10 + (zeroPadded 6 k).length := List.length_append
  exact hsplit ▸ Nat.le_add_right _ _

theorem syntheticId_notMem {t : Table} (hshort : ∀ id ∈ idsOf t, id.length < 10) (k : Nat) :
    syntheticId k ∉ idsOf t := fun hmem =>
  absurd (ten_le_length_syntheticId k) (Nat.not_le_of_lt (hshort _ hmem))

end Example

end DataForge.Plugins.Tabular.SmoteLeakage
