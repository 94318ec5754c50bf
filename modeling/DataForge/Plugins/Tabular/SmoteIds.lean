import DataForge.Plugins.Tabular.SyntheticSmote

namespace DataForge.Plugins.Tabular.SmoteIds

open DataForge.Foundation.Strings
open DataForge.Foundation.Outcome
open DataForge.Foundation.Dictionary
open DataForge.Foundation.Features
open DataForge.Foundation.Tables
open DataForge.Domain.Common
open DataForge.Domain.Splits
open DataForge.Plugins.Tabular.Sources
open DataForge.Plugins.Tabular.LeakageChecks hiding verifyAssignmentsMatchRows buildReport
open DataForge.Plugins.Tabular.SyntheticCommon
open DataForge.Plugins.Tabular.SyntheticSmote

/-- The object ids of a table, as its readers fill them in. -/
def idsOf (t : Table) : List Text := (identifiedRows t.records).map fun row => (objectId row).1

section Ids

variable {t : Table}

theorem map_effectiveId {rows : List Row} (h : ∀ row ∈ rows, cell objectIdColumn row ≠ []) :
    (identifiedRows rows).map (fun row => (objectId row).1) = rows.map (cell objectIdColumn) := by
  apply List.ext_getElem?
  intro i
  rw [identifiedRows, List.map_map, List.getElem?_map, List.getElem?_map, List.getElem?_zipIdx]
  cases hrow : rows[i]? with
  | none => rfl
  | some row =>
    have hne : cell objectIdColumn row ≠ [] := h row (List.mem_of_getElem? hrow)
    simp only [Option.map_some, Function.comp_apply, objectId_identify, effectiveId, dif_pos hne]

theorem idsOf_of_nonempty (h : ∀ row ∈ t.records, cell objectIdColumn row ≠ []) :
    idsOf t = t.records.map (cell objectIdColumn) := map_effectiveId h

theorem syntheticId_injective : Function.Injective syntheticId := by
  intro i j h
  exact zeroPadded_injective 6 (List.append_cancel_left h)

theorem syntheticId_ne_nil (index : Nat) : syntheticId index ≠ [] :=
  List.append_ne_nil_of_left_ne_nil (by decide) _

theorem nodup_syntheticIds (n : Nat) : ((List.range n).map syntheticId).Nodup :=
  List.Nodup.map syntheticId_injective List.nodup_range

end Ids

section Rows

variable {F : Type} [FeatureLike F]

/-- Both rows have a number in this column. -/
def Interpolates (F : Type) [FeatureLike F] (seedRow neighborRow : IdentifiedRow)
    (column : Text) : Prop :=
  ∃ x y : F, parseNumeric (cell column seedRow.1) =
    some x ∧ parseNumeric (cell column neighborRow.1) = some y

theorem cell_interpolate {seedRow neighborRow : IdentifiedRow} {lambda : F} {row row' : Row}
    {column name : Text} (h : interpolate seedRow neighborRow lambda row name = .ok row')
    (hne : name = column → ¬ Interpolates F seedRow neighborRow column) :
    cell column row' = cell column row := by
  rw [interpolate] at h
  split at h
  · next x y hx hy =>
    obtain ⟨text, -, h⟩ := bind_eq_ok.mp h
    obtain rfl := Except.ok.inj h
    apply cell_set_ne
    rintro rfl
    exact hne rfl ⟨x, y, hx, hy⟩
  · obtain rfl := Except.ok.inj h
    rfl

theorem cell_foldlM_interpolate {seedRow neighborRow : IdentifiedRow} {lambda : F} {row row' : Row}
    {column : Text} {featureColumns : List Text}
    (hcolumn : column ∈ featureColumns → ¬ Interpolates F seedRow neighborRow column)
    (h : featureColumns.foldlM (interpolate seedRow neighborRow lambda) row = .ok row') :
    cell column row' = cell column row := by
  induction featureColumns generalizing row with
  | nil =>
    obtain rfl := Except.ok.inj h
    rfl
  | cons name names ih =>
    rw [List.foldlM_cons] at h
    obtain ⟨next, hnext, h⟩ := bind_eq_ok.mp h
    rw [ih (fun hmem => hcolumn (List.mem_cons_of_mem _ hmem)) h, cell_interpolate hnext]
    rintro rfl
    exact hcolumn List.mem_cons_self

/-- The id in a synthetic row: its own, unless the label is written over it. -/
def newId (targetColumn rareClassLabel : NonEmptyStr) (index : Nat) : Text :=
  if targetColumn.1 = objectIdColumn then rareClassLabel.1 else syntheticId index

theorem newId_ne_nil (targetColumn rareClassLabel : NonEmptyStr) (index : Nat) :
    newId targetColumn rareClassLabel index ≠ [] := by
  rw [newId]
  split
  · exact rareClassLabel.2
  · exact syntheticId_ne_nil index

theorem cell_buildSyntheticRow {seedRow neighborRow : IdentifiedRow} {featureColumns : List Text}
    {lambda : F} {targetColumn rareClassLabel : NonEmptyStr} {index : Nat} {row : Row}
    (hfeature : objectIdColumn ∉ featureColumns)
    (h : buildSyntheticRow seedRow neighborRow featureColumns lambda targetColumn rareClassLabel
      (syntheticId index) = .ok row) :
    cell objectIdColumn row = newId targetColumn rareClassLabel index := by
  rw [buildSyntheticRow] at h
  obtain ⟨filled, hfilled, h⟩ := bind_eq_ok.mp h
  obtain rfl := Except.ok.inj h
  rw [cell_set_ne (by decide), cell_set_ne (by decide),
    cell_foldlM_interpolate (fun hmem => absurd hmem hfeature) hfilled, newId]
  by_cases htarget : targetColumn.1 = objectIdColumn
  · rw [if_pos htarget, htarget, cell_set_self]
  · rw [if_neg htarget, cell_set_ne htarget, cell_set_self]

/-- A synthetic row beside its seed: outside the columns that are interpolated it shows
the seed's cells, its own id and the marks of its origin. -/
structure DrawnFrom (F : Type) [FeatureLike F] (featureColumns : List Text)
    (seedRow neighborRow : IdentifiedRow) (row : Row) : Prop where
  flag : cell isSyntheticColumn row = "1".toList
  sourceSplit : cell sourceSplitColumn row = DataSplit.train.value
  cells : ∀ column, (column ∈ featureColumns → ¬ Interpolates F seedRow neighborRow column) →
    column ≠ objectIdColumn → column ≠ isSyntheticColumn → column ≠ sourceSplitColumn →
      cell column row = cell column seedRow.1

theorem drawnFrom_buildSyntheticRow {seedRow neighborRow : IdentifiedRow}
    {featureColumns : List Text}
    {lambda : F} {targetColumn rareClassLabel : NonEmptyStr} {id : Text} {row : Row}
    (hrare : cell targetColumn.1 seedRow.1 = rareClassLabel.1)
    (h : buildSyntheticRow seedRow neighborRow featureColumns lambda targetColumn
      rareClassLabel id =
      .ok row) : DrawnFrom F featureColumns seedRow neighborRow row := by
  rw [buildSyntheticRow] at h
  obtain ⟨filled, hfilled, h⟩ := bind_eq_ok.mp h
  obtain rfl := Except.ok.inj h
  refine ⟨?_, cell_set_self _, fun column hfeature hid hflag hsource => ?_⟩
  · rw [cell_set_ne (by decide), cell_set_self]
  · rw [cell_set_ne (Ne.symm hsource), cell_set_ne (Ne.symm hflag),
      cell_foldlM_interpolate hfeature hfilled]
    by_cases htarget : targetColumn.1 = column
    · rw [htarget, cell_set_self, ← htarget, hrare]
    · rw [cell_set_ne htarget, cell_set_ne (Ne.symm hid)]

theorem objectId_notMem_features (columns : List Text) (targetColumn : NonEmptyStr)
    (explicit : Option (List NonEmptyStr)) :
    objectIdColumn ∉ (resolveFeatureColumns columns targetColumn explicit).1 := by
  intro hmem
  have hfeature := (List.mem_filter.mp hmem).2
  rw [isFeature, decide_eq_true_eq] at hfeature
  exact hfeature.2.2 (by decide)

variable {gen : Generator F} {request : ExecuteSmoteAugmentationRequest F}
  {rare : List IdentifiedRow}
  {featureColumns : List Text}

theorem cell_drawSample {index : Nat} {s s' : gen.State} {sample : Sample F}
    (hfeature : objectIdColumn ∉ featureColumns)
    (h : drawSample gen request rare featureColumns index s = .ok (sample, s')) :
    cell objectIdColumn sample.row = newId request.targetColumn request.rareClassLabel index := by
  rw [drawSample] at h
  obtain ⟨⟨neighborPos, s₁⟩, -, h⟩ := bind_eq_ok.mp h
  dsimp only at h
  split at h
  · obtain ⟨row, hrow, h⟩ := bind_eq_ok.mp h
    obtain ⟨rfl, -⟩ := Prod.mk.inj (Except.ok.inj h)
    exact cell_buildSyntheticRow hfeature hrow
  · cases h

theorem positions_distancesFrom {vectors : List (List F)} {seedPos : Nat}
    {distances : List (F × Nat)} (h : distancesFrom vectors seedPos = .ok distances) :
    distances.map Prod.snd = (vectors.zipIdx.filter fun item => item.2 ≠ seedPos).map Prod.snd := by
  rw [distancesFrom] at h
  refine map_of_mapM (fun item found hfound => ?_) h
  obtain ⟨d, -, hfound⟩ := bind_eq_ok.mp hfound
  obtain rfl := Except.ok.inj hfound
  rfl

/-- The neighbor of a row that is not alone is another row. -/
theorem pickNeighbor_ne {vectors : List (List F)} {k seedPos pos : Nat} {s s' : gen.State}
    (htwo : 2 ≤ vectors.length) (h : pickNeighbor gen vectors k seedPos s = .ok (pos, s')) :
    pos ≠ seedPos := by
  rw [pickNeighbor] at h
  obtain ⟨distances, hdistances, h⟩ := bind_eq_ok.mp h
  have hpositions := positions_distancesFrom hdistances
  have hne : distances ≠ [] := by
    rintro rfl
    have hnone := List.map_eq_nil_iff.mp hpositions.symm
    rw [List.filter_eq_nil_iff] at hnone
    have hother : ∀ i (hi : i < vectors.length), i = seedPos := fun i hi => by
      simpa using hnone (vectors[i], i)
        (List.mk_mem_zipIdx_iff_getElem?.mpr (List.getElem?_eq_getElem hi))
    exact absurd ((hother 0 (by omega)).trans (hother 1 (by omega)).symm) (by decide)
  rw [if_neg hne] at h
  dsimp only at h
  split at h
  · next d pos' hpick =>
    obtain ⟨rfl, -⟩ := Prod.mk.inj (Except.ok.inj h)
    have hmem : pos' ∈ distances.map Prod.snd := by
      have hnear := List.mem_of_mem_take (List.mem_of_getElem? hpick)
      exact List.mem_map.mpr ⟨_, (List.perm_insertionSort _ _).mem_iff.mp hnear, rfl⟩
    rw [hpositions] at hmem
    obtain ⟨item, hitem, rfl⟩ := List.mem_map.mp hmem
    exact of_decide_eq_true (List.mem_filter.mp hitem).2
  · cases h

/-- A row drawn from two different rows of these. -/
def Drawn (F : Type) [FeatureLike F] (rare : List IdentifiedRow) (featureColumns : List Text)
    (row : Row) : Prop :=
  ∃ (i j : Nat) (seedRow neighborRow : IdentifiedRow), i ≠ j ∧ rare[i]? = some seedRow ∧
    rare[j]? = some neighborRow ∧ DrawnFrom F featureColumns seedRow neighborRow row

theorem drawn_drawSample {index : Nat} {s s' : gen.State} {sample : Sample F}
    (htwo : 2 ≤ rare.length) (hrare : ∀ row ∈ rare, isRare request row = true)
    (h : drawSample gen request rare featureColumns index s = .ok (sample, s')) :
    Drawn F rare featureColumns sample.row := by
  rw [drawSample] at h
  obtain ⟨⟨neighborPos, s₁⟩, hneighbor, h⟩ := bind_eq_ok.mp h
  have hne := pickNeighbor_ne (by rwa [List.length_map]) hneighbor
  dsimp only at h
  split at h
  · next seedRow neighborRow hseed hneighborRow =>
    obtain ⟨row, hrow, h⟩ := bind_eq_ok.mp h
    obtain ⟨rfl, -⟩ := Prod.mk.inj (Except.ok.inj h)
    have hlabel := of_decide_eq_true (hrare seedRow (List.mem_of_getElem? hseed))
    exact ⟨_, _, seedRow, neighborRow, Ne.symm hne, hseed, hneighborRow,
      drawnFrom_buildSyntheticRow hlabel hrow⟩
  · cases h

theorem drawn_drawSamples {indices : List Nat} {s : gen.State} {samples : List (Sample F)}
    (htwo : 2 ≤ rare.length) (hrare : ∀ row ∈ rare, isRare request row = true)
    (h : drawSamples gen request rare featureColumns indices s = .ok samples) :
    ∀ sample ∈ samples, Drawn F rare featureColumns sample.row := by
  induction indices generalizing s samples with
  | nil =>
    obtain rfl := Except.ok.inj h
    rintro sample ⟨⟩
  | cons index indices ih =>
    rw [drawSamples] at h
    obtain ⟨⟨first, s'⟩, hfirst, h⟩ := bind_eq_ok.mp h
    obtain ⟨rest, hrest, h⟩ := bind_eq_ok.mp h
    obtain rfl := Except.ok.inj h
    intro sample hsample
    rcases List.mem_cons.mp hsample with rfl | hsample
    · exact drawn_drawSample htwo hrare hfirst
    · exact ih hrest sample hsample

theorem ids_drawSamples {indices : List Nat} {s : gen.State} {samples : List (Sample F)}
    (hfeature : objectIdColumn ∉ featureColumns)
    (h : drawSamples gen request rare featureColumns indices s = .ok samples) :
    (samples.map Sample.row).map (cell objectIdColumn) =
      indices.map (newId request.targetColumn request.rareClassLabel) := by
  induction indices generalizing s samples with
  | nil =>
    obtain rfl := Except.ok.inj h
    rfl
  | cons index indices ih =>
    rw [drawSamples] at h
    obtain ⟨⟨sample, s'⟩, hsample, h⟩ := bind_eq_ok.mp h
    obtain ⟨rest, hrest, h⟩ := bind_eq_ok.mp h
    obtain rfl := Except.ok.inj h
    rw [List.map_cons, List.map_cons, List.map_cons, cell_drawSample hfeature hsample, ih hrest]

end Rows

section Execution

variable {F : Type} [FeatureLike F] {gen : Generator F}
  {request : ExecuteSmoteAugmentationRequest F}
  {t : Table} {result : ExecuteSmoteAugmentationResult F}

/-- The ids of the rows that a request adds to a table. -/
def newIds (request : ExecuteSmoteAugmentationRequest F) (t : Table) : List Text :=
  (List.range (generatedCount request (identifiedRows t.records))).map
    (newId request.targetColumn request.rareClassLabel)

/-- The samples of a successful step, and what it makes of them. -/
structure Augments (request : ExecuteSmoteAugmentationRequest F) (t : Table)
    (result : ExecuteSmoteAugmentationResult F) (syntheticRows : List Row) : Prop where
  columns : t.columns ≠ []
  assigned : ∀ id ∈ assignmentIds request.splitManifest, id ∈ idsOf t
  rare : 2 ≤ (trainRare request (identifiedRows t.records)).length
  ids : syntheticRows.map (cell objectIdColumn) = newIds request t
  candidate : result.candidate = writeCandidateCsv ((identifiedRows t.records).map Subtype.val)
    syntheticRows (candidateDatasetColumns t.columns)
  manifest : buildAugmentedSplitManifest request.splitManifest syntheticRows request.targetColumn
    "smote" = .ok result.augmentedSplitManifest

theorem readSourceRows_eq_ok {targetColumn : NonEmptyStr} {rows : List IdentifiedRow}
    (h : readSourceRows t targetColumn = .ok rows) :
    t.columns ≠ [] ∧ rows = identifiedRows t.records := by
  obtain ⟨read, hread, h⟩ := bind_eq_ok.mp h
  obtain ⟨hcolumns, -, -, rfl⟩ := readRows_eq_ok.mp hread
  exact ⟨hcolumns, (Except.ok.inj h).symm⟩

theorem mem_of_verified {manifest : SplitManifest} {rows : List IdentifiedRow}
    (h : verifyAssignmentsMatchRows (indexAssignments manifest) rows = .ok ()) {id : Text}
    (hid : id ∈ assignmentIds manifest) : id ∈ rows.map fun row => (objectId row).1 := by
  rw [verifyAssignmentsMatchRows, guardOk_eq_ok] at h
  have hkey : id ∈ (indexAssignments manifest).map Prod.fst := by
    rw [indexAssignments, mem_keys_update, List.map_map]
    exact .inr hid
  obtain ⟨item, hitem, rfl⟩ := List.mem_map.mp hkey
  exact h item hitem

/-- The columns that a request interpolates. -/
def interpolatedColumns (request : ExecuteSmoteAugmentationRequest F) (t : Table) : List Text :=
  (resolveFeatureColumns t.columns request.targetColumn request.featureColumns).1

/-- A successful step, by the samples that it draws. -/
structure Samples (gen : Generator F) (request : ExecuteSmoteAugmentationRequest F) (t : Table)
    (result : ExecuteSmoteAugmentationResult F) (samples : List (Sample F)) : Prop where
  columns : t.columns ≠ []
  assigned : ∀ id ∈ assignmentIds request.splitManifest, id ∈ idsOf t
  rare : 2 ≤ (trainRare request (identifiedRows t.records)).length
  drawn : drawSamples gen request (trainRare request (identifiedRows t.records))
    (interpolatedColumns request t) (List.range (generatedCount request (identifiedRows t.records)))
    (gen.seeded request.randomSeed) = .ok samples
  report : result.report = buildReport request t.columns (identifiedRows t.records) samples
  candidate : result.candidate = writeCandidateCsv ((identifiedRows t.records).map Subtype.val)
    (samples.map Sample.row) (candidateDatasetColumns t.columns)
  manifest : buildAugmentedSplitManifest request.splitManifest (samples.map Sample.row)
    request.targetColumn "smote" = .ok result.augmentedSplitManifest

theorem exists_samples (h : executeSmoteAugmentationAction gen request t = .ok result) :
    ∃ samples, Samples gen request t result samples := by
  rw [executeSmoteAugmentationAction] at h
  obtain ⟨-, h⟩ := check_bind_eq_ok.mp h
  obtain ⟨rows, hrows, h⟩ := bind_eq_ok.mp h
  obtain ⟨hcolumns, rfl⟩ := readSourceRows_eq_ok hrows
  obtain ⟨hverified, h⟩ := check_bind_eq_ok.mp h
  obtain ⟨-, h⟩ := check_bind_eq_ok.mp h
  obtain ⟨hrare, h⟩ := check_bind_eq_ok.mp h
  obtain ⟨-, h⟩ := check_bind_eq_ok.mp h
  obtain ⟨samples, hsamples, h⟩ := bind_eq_ok.mp h
  obtain ⟨augmented, haugmented, h⟩ := bind_eq_ok.mp h
  obtain rfl := Except.ok.inj h
  exact ⟨samples, hcolumns, fun id hid => mem_of_verified hverified hid, guardOk_eq_ok.mp hrare,
    hsamples, rfl, rfl, haugmented⟩

theorem exists_drawn (h : executeSmoteAugmentationAction gen request t = .ok result) :
    ∃ syntheticRows, Augments request t result syntheticRows ∧ ∀ row ∈ syntheticRows,
      Drawn F (trainRare request (identifiedRows t.records))
        (interpolatedColumns request t) row := by
  obtain ⟨samples, h⟩ := exists_samples h
  refine ⟨samples.map Sample.row, ⟨h.columns, h.assigned, h.rare, ?_, h.candidate, h.manifest⟩,
    fun row hrow => ?_⟩
  · exact ids_drawSamples (objectId_notMem_features _ _ _) h.drawn
  · obtain ⟨sample, hsample, rfl⟩ := List.mem_map.mp hrow
    apply drawn_drawSamples h.rare (fun row hrow => ?_) h.drawn sample hsample
    exact (Bool.and_eq_true_iff.mp (List.mem_filter.mp hrow).2).2

theorem exists_augments (h : executeSmoteAugmentationAction gen request t = .ok result) :
    ∃ syntheticRows, Augments request t result syntheticRows := by
  obtain ⟨syntheticRows, haugments, -⟩ := exists_drawn h
  exact ⟨syntheticRows, haugments⟩

variable {syntheticRows : List Row} (h : Augments request t result syntheticRows)

include h

theorem records_candidate (hid : objectIdColumn ∈ t.columns) :
    result.candidate.records.map (cell objectIdColumn) = idsOf t ++ newIds request t := by
  have hmem : objectIdColumn ∈ candidateDatasetColumns t.columns := mem_candidateDatasetColumns hid
  have hnil : [] ∉ candidateDatasetColumns t.columns := by
    apply nil_notMem_candidateDatasetColumns
    intro hmem
    simpa using (List.mem_filter.mp hmem).2
  rw [h.candidate, writeCandidateCsv, records_write (List.ne_nil_of_mem hmem) hnil, List.map_map,
    List.map_append, ← h.ids, idsOf, List.map_map, List.map_map, List.map_map]
  congr 1
  · apply List.map_congr_left
    intro row _
    simp only [Function.comp_apply, cell_rowOf hmem]
    exact cell_materialized hmem (by decide) (by decide) row.1
  · apply List.map_congr_left
    intro row _
    simp only [Function.comp_apply, cell_rowOf hmem]

theorem cell_candidate_ne_nil (hid : objectIdColumn ∈ t.columns) {row : Row}
    (hrow : row ∈ result.candidate.records) : cell objectIdColumn row ≠ [] := by
  have hmem : cell objectIdColumn row ∈ idsOf t ++ newIds request t := by
    rw [← records_candidate h hid]
    exact List.mem_map_of_mem hrow
  obtain hmem | hmem := List.mem_append.mp hmem
  · obtain ⟨source, -, hsource⟩ := List.mem_map.mp hmem
    rw [← hsource]
    exact (objectId source).2
  · obtain ⟨index, -, hindex⟩ := List.mem_map.mp hmem
    rw [← hindex]
    exact newId_ne_nil _ _ index

theorem idsOf_candidate (hid : objectIdColumn ∈ t.columns) :
    idsOf result.candidate = idsOf t ++ newIds request t := by
  rw [idsOf_of_nonempty fun row hrow => cell_candidate_ne_nil h hid hrow, records_candidate h hid]

theorem objectId_mem_candidate (hid : objectIdColumn ∈ t.columns) :
    objectIdColumn ∈ result.candidate.columns := by
  rw [h.candidate, writeCandidateCsv, Table.columns, Table.write]
  exact List.mem_filter.mpr ⟨mem_candidateDatasetColumns hid, by decide⟩

/-- Where the id column is the target, the rare rows share their id. -/
theorem not_nodup_of_target (htarget : request.targetColumn.1 = objectIdColumn) :
    ¬ (idsOf t).Nodup := by
  intro hnodup
  have hsub :
      ((trainRare request (identifiedRows t.records)).map fun row => (objectId row).1).Sublist
      (idsOf t) := List.filter_sublist.map _
  have hconst : (trainRare request (identifiedRows t.records)).map (fun row => (objectId row).1) =
      List.replicate (trainRare request (identifiedRows t.records)).length
        request.rareClassLabel.1 := by
    rw [List.eq_replicate_iff, List.length_map]
    refine ⟨rfl, fun id hid => ?_⟩
    obtain ⟨row, hrow, rfl⟩ := List.mem_map.mp hid
    have hrare := (Bool.and_eq_true_iff.mp (List.mem_filter.mp hrow).2).2
    rw [isRare, decide_eq_true_eq, htarget] at hrare
    exact hrare
  have hnodup' := hsub.nodup hnodup
  rw [hconst, List.nodup_replicate] at hnodup'
  have htwo := h.rare
  omega

/-- The ids stay distinct exactly when none of the new ones is there already. -/
theorem nodup_candidate (hid : objectIdColumn ∈ t.columns) :
    (idsOf result.candidate).Nodup ↔ (idsOf t).Nodup ∧
      ∀ k < generatedCount request (identifiedRows t.records), syntheticId k ∉ idsOf t := by
  rw [idsOf_candidate h hid]
  by_cases htarget : request.targetColumn.1 = objectIdColumn
  · have hnot : ¬ (idsOf t).Nodup := not_nodup_of_target h htarget
    constructor
    · intro hnodup
      exact absurd (List.nodup_append.mp hnodup).1 hnot
    · intro hnodup
      exact absurd hnodup.1 hnot
  · have hnew : newIds request t =
        (List.range (generatedCount request (identifiedRows t.records))).map syntheticId := by
      apply List.map_congr_left
      intro k _
      rw [newId, if_neg htarget]
    rw [hnew, List.nodup_append']
    constructor
    · rintro ⟨hnodup, -, hdisjoint⟩
      refine ⟨hnodup, fun k hk hmem => hdisjoint hmem ?_⟩
      exact List.mem_map_of_mem (List.mem_range.mpr hk)
    · rintro ⟨hnodup, hfresh⟩
      refine ⟨hnodup, nodup_syntheticIds _, fun id hmem hsynthetic => ?_⟩
      obtain ⟨k, hk, rfl⟩ := List.mem_map.mp hsynthetic
      exact hfresh k (List.mem_range.mp hk) hmem

theorem nodup_manifest (hid : objectIdColumn ∈ t.columns)
    (hcandidate : (idsOf result.candidate).Nodup)
    (hmanifest : (assignmentIds request.splitManifest).Nodup) :
    (assignmentIds result.augmentedSplitManifest).Nodup := by
  rw [idsOf_candidate h hid, List.nodup_append'] at hcandidate
  rw [assignmentIds_augmented h.manifest, h.ids, List.nodup_append']
  exact ⟨hmanifest, hcandidate.2.1, fun id hmem hnew => hcandidate.2.2 (h.assigned id hmem) hnew⟩

end Execution

end DataForge.Plugins.Tabular.SmoteIds
