import DataForge.Plugins.Tabular.InterpolatedCells

namespace DataForge.Plugins.Tabular.SmoteErrors

open DataForge.Foundation.Strings
open DataForge.Foundation.Outcome
open DataForge.Foundation.Failures
open DataForge.Foundation.Dictionary
open DataForge.Foundation.Numbers
open DataForge.Foundation.Features
open DataForge.Foundation.Scores
open DataForge.Foundation.Tables
open DataForge.Foundation.ExtendedNumbers
open DataForge.Domain.Common
open DataForge.Domain.Splits
open DataForge.Plugins.Tabular.Sources
open DataForge.Plugins.Tabular.Splits (scoreLt)
open DataForge.Plugins.Tabular.LeakageChecks hiding verifyAssignmentsMatchRows buildReport
open DataForge.Plugins.Tabular.SyntheticCommon
open DataForge.Plugins.Tabular.SyntheticSmote
open DataForge.Plugins.Tabular.SmoteIds
open DataForge.Plugins.Tabular.InterpolatedCells

section Draws

variable (gen : Generator (Extended ℚ)) (request : ExecuteSmoteAugmentationRequest (Extended ℚ))
  (rare : List IdentifiedRow) (featureColumns : List Text)

/-- The next draw, and the state after it. -/
def draw (s : gen.State) : Option (Draw × gen.State) :=
  let (seedPos, s) := gen.randrange rare.length s
  match pickNeighbor gen (rare.map (featureVector featureColumns))
      (Min.min request.kNeighbors.1 (rare.length - 1)) seedPos s with
  | .error _ => none
  | .ok (neighborPos, s) =>
    let (lambda, s) := gen.random s
    match rare[seedPos]?, rare[neighborPos]? with
    | some seedRow, some neighborRow => some (⟨seedRow, neighborRow, lambda⟩, s)
    | _, _ => none

def draws : Nat → gen.State → List Draw
  | 0, _ => []
  | n + 1, s =>
    match draw gen request rare featureColumns s with
    | some (d, s) => d :: draws n s
    | none => []

/-- `random` draws from the unit interval. -/
def UnitRandom : Prop := ∀ s, ∃ q : ℚ, (gen.random s).1 = .finite q ∧ 0 ≤ q ∧ q < 1

variable {gen request rare featureColumns}

theorem squaredDistance_ok (a b : List (Extended ℚ)) :
    ∃ distance, squaredDistance a b = .ok distance := by
  have hsquare : ∀ pair ∈ a.zip b, ∃ square : Extended ℚ, squaredDifference pair = .ok square :=
    fun pair _ => ⟨_, rfl⟩
  obtain ⟨squares, hsquares⟩ := exists_mapM_ok hsquare
  exact ⟨FloatLike.sum squares, bind_eq_ok.mpr ⟨squares, hsquares, rfl⟩⟩

theorem distancesFrom_ok (vectors : List (List (Extended ℚ))) (seedPos : Nat) :
    ∃ distances, distancesFrom vectors seedPos = .ok distances := by
  apply exists_mapM_ok
  intro item _
  obtain ⟨distance, hdistance⟩ := squaredDistance_ok (vectors.getD seedPos []) item.1
  exact ⟨(distance, item.2), by rw [hdistance]; rfl⟩

theorem exists_pickNeighbor {vectors : List (List (Extended ℚ))} {k seedPos : Nat} (hk : 0 < k)
    (hseed : seedPos < vectors.length) (s : gen.State) :
    ∃ pos s', pickNeighbor gen vectors k seedPos s = .ok (pos, s') ∧ pos < vectors.length := by
  obtain ⟨distances, hdistances⟩ := distancesFrom_ok vectors seedPos
  have hpositions := positions_distancesFrom hdistances
  rw [pickNeighbor, hdistances, ok_bind]
  split
  · exact ⟨seedPos, s, rfl, hseed⟩
  · next hne =>
    dsimp only
    generalize hnearest : (distances.insertionSort fun a b => !scoreLt b a).take k = nearest
    have hpositive : 0 < nearest.length := by
      rw [← hnearest, List.length_take, List.length_insertionSort]
      exact lt_min hk (List.length_pos_iff.mpr hne)
    have hlt := gen.randrange_lt nearest.length s hpositive
    rw [List.getElem?_eq_getElem hlt]
    refine ⟨_, _, rfl, ?_⟩
    have hsub : ∀ item ∈ nearest, item ∈ distances := by
      intro item hitem
      rw [← hnearest] at hitem
      exact (List.perm_insertionSort _ _).mem_iff.mp (List.mem_of_mem_take hitem)
    have hmem := hsub _ (List.getElem_mem hlt)
    have hposition := List.mem_map_of_mem (f := Prod.snd) hmem
    rw [hpositions] at hposition
    obtain ⟨item, hitem, heq⟩ := List.mem_map.mp hposition
    have hbound := (List.mem_zipIdx' (List.mem_of_mem_filter hitem)).1
    rw [heq] at hbound
    exact hbound

/-- A draw among two rows at least, and the sample that is built from it. -/
theorem exists_draw (hgen : UnitRandom gen) (htwo : 2 ≤ rare.length) (featureColumns : List Text)
    (s : gen.State) :
    ∃ d s', draw gen request rare featureColumns s = some (d, s') ∧ d.Proper ∧
      ∀ index, ∃ lineage, drawSample gen request rare featureColumns index s =
        (buildSyntheticRow d.seedRow d.neighborRow featureColumns d.lambda request.targetColumn
          request.rareClassLabel (syntheticId index)).map fun row => (⟨row, lineage⟩, s') := by
  have hseed := gen.randrange_lt rare.length s (by omega)
  have hk : 0 < Min.min request.kNeighbors.1 (rare.length - 1) :=
    lt_min request.kNeighbors.2 (by omega)
  obtain ⟨pos, s₁, hpick, hpos⟩ :=
    @exists_pickNeighbor gen (rare.map (featureVector featureColumns)) _ _
    hk (by rwa [List.length_map]) (gen.randrange rare.length s).2
  rw [List.length_map] at hpos
  refine ⟨⟨rare[(gen.randrange rare.length s).1], rare[pos], (gen.random s₁).1⟩,
    (gen.random s₁).2, ?_, hgen s₁, fun index =>
      ⟨⟨syntheticId index, objectId rare[(gen.randrange rare.length s).1],
      objectId rare[pos], ScoreLike.roundTo 6 (gen.random s₁).1⟩, ?_⟩⟩
  · rw [draw]
    dsimp only
    rw [hpick]
    dsimp only
    rw [List.getElem?_eq_getElem hseed, List.getElem?_eq_getElem hpos]
  · rw [drawSample]
    dsimp only
    rw [hpick, ok_bind]
    dsimp only
    rw [List.getElem?_eq_getElem hseed, List.getElem?_eq_getElem hpos]
    dsimp only
    cases buildSyntheticRow rare[(gen.randrange rare.length s).1] rare[pos] featureColumns
        (gen.random s₁).1 request.targetColumn request.rareClassLabel (syntheticId index) with
    | error e => rfl
    | ok row => rfl

variable (hgen : UnitRandom gen) (htwo : 2 ≤ rare.length)

include hgen htwo

theorem drawSamples_raises (indices : List Nat) (s : gen.State) :
    RaisesOnly (fun e => ¬ Own e) (drawSamples gen request rare featureColumns indices s) := by
  induction indices generalizing s with
  | nil => exact RaisesOnly.ok []
  | cons index indices ih =>
    obtain ⟨d, s', -, hproper, hsample⟩ := exists_draw hgen htwo featureColumns s
    obtain ⟨lineage, hsample⟩ := hsample index
    rw [drawSamples, hsample]
    refine RaisesOnly.bind ((buildSyntheticRow_raises hproper).map _) fun _ _ => ?_
    exact RaisesOnly.bind (ih _) fun _ _ => RaisesOnly.ok _

theorem exists_drawSamples_iff (indices : List Nat) (s : gen.State) :
    (∃ samples, drawSamples gen request rare featureColumns indices s = .ok samples) ↔
      ∀ d ∈ draws gen request rare featureColumns indices.length s, ∀ column ∈ featureColumns,
        d.Bounded column := by
  induction indices generalizing s with
  | nil => exact iff_of_true ⟨[], rfl⟩ fun d hd => absurd hd List.not_mem_nil
  | cons index indices ih =>
    obtain ⟨d, s', hdraw, hproper, hsample⟩ := exists_draw hgen htwo featureColumns s
    obtain ⟨lineage, hsample⟩ := hsample index
    rw [List.length_cons, draws, hdraw, List.forall_mem_cons, ← ih s', drawSamples, hsample]
    constructor
    · rintro ⟨samples, h⟩
      obtain ⟨⟨sample, next⟩, hfirst, h⟩ := bind_eq_ok.mp h
      obtain ⟨row, hrow, heq⟩ := map_eq_ok.mp hfirst
      obtain ⟨rfl, rfl⟩ := Prod.mk.inj heq
      obtain ⟨rest, hrest, -⟩ := bind_eq_ok.mp h
      exact ⟨((buildSyntheticRow_eq_ok_iff hproper).mp hrow).1, rest, hrest⟩
    · rintro ⟨hbounded, rest, hrest⟩
      rw [(buildSyntheticRow_eq_ok_iff hproper).mpr ⟨hbounded, rfl⟩]
      exact ⟨_, bind_eq_ok.mpr ⟨_, rfl, bind_eq_ok.mpr ⟨rest, hrest, rfl⟩⟩⟩

theorem shows_drawSamples
    (hmarks : isSyntheticColumn ∉ featureColumns ∧ sourceSplitColumn ∉ featureColumns)
    {indices : List Nat} {s : gen.State} {samples : List (Sample (Extended ℚ))}
    (h : drawSamples gen request rare featureColumns indices s = .ok samples) :
    List.Forall₂ (Shows featureColumns) (draws gen request rare featureColumns indices.length s)
      (samples.map Sample.row) := by
  induction indices generalizing s samples with
  | nil =>
    obtain rfl := Except.ok.inj h
    exact List.Forall₂.nil
  | cons index indices ih =>
    obtain ⟨d, s', hdraw, hproper, hsample⟩ := exists_draw hgen htwo featureColumns s
    obtain ⟨lineage, hsample⟩ := hsample index
    rw [drawSamples, hsample] at h
    obtain ⟨⟨sample, next⟩, hfirst, h⟩ := bind_eq_ok.mp h
    obtain ⟨row, hrow, heq⟩ := map_eq_ok.mp hfirst
    obtain ⟨rfl, rfl⟩ := Prod.mk.inj heq
    obtain ⟨rest, hrest, h⟩ := bind_eq_ok.mp h
    obtain rfl := Except.ok.inj h
    rw [List.length_cons, draws, hdraw]
    exact List.Forall₂.cons (shows_buildSyntheticRow hproper hmarks hrow) (ih hrest)

end Draws

section Runs

variable {gen : Generator (Extended ℚ)} {request : ExecuteSmoteAugmentationRequest (Extended ℚ)}
  {t : Table}
  {result : ExecuteSmoteAugmentationResult (Extended ℚ)}

/-- The checks of a step before its first draw. -/
structure Accepts (request : ExecuteSmoteAugmentationRequest (Extended ℚ)) (t : Table) : Prop where
  step : validateStep request = .ok ()
  source : readSourceRows t request.targetColumn = .ok (identifiedRows t.records)
  assignments : verifyAssignmentsMatchRows (indexAssignments request.splitManifest)
    (identifiedRows t.records) = .ok ()
  rare : 2 ≤ (trainRare request (identifiedRows t.records)).length
  features : interpolatedColumns request t ≠ []

/-- The draws of a step, one for each sample. -/
def drawsOf (gen : Generator (Extended ℚ)) (request : ExecuteSmoteAugmentationRequest (Extended ℚ))
    (t : Table) : List Draw :=
  draws gen request (trainRare request (identifiedRows t.records)) (interpolatedColumns request t)
    (generatedCount request (identifiedRows t.records)) (gen.seeded request.randomSeed)

/-- The rows that a step has added to those of its source. -/
def syntheticRecords (t : Table) (result : ExecuteSmoteAugmentationResult (Extended ℚ)) :
    List Row :=
  result.candidate.records.drop t.records.length

theorem own_smoteError (reasonCode message : String) (code : ErrorCode) :
    Own (smoteError reasonCode message code) := ⟨reasonCode, code, message, rfl⟩

theorem own_validateStep : RaisesOnly Own (validateStep request) := by
  refine RaisesOnly.bind (RaisesOnly.guard _ (own_smoteError _ _ _)) fun _ _ => ?_
  refine RaisesOnly.bind (RaisesOnly.guard _ (own_smoteError _ _ _)) fun _ _ => ?_
  refine RaisesOnly.bind (RaisesOnly.guard _ (own_smoteError _ _ _)) fun _ _ => ?_
  exact RaisesOnly.guard _ (own_smoteError _ _ _)

theorem own_readSourceRows {targetColumn : NonEmptyStr} :
    RaisesOnly Own (readSourceRows t targetColumn) := by
  refine RaisesOnly.bind ?_ fun _ _ => RaisesOnly.ok _
  refine RaisesOnly.bind (RaisesOnly.guard _ (own_smoteError _ _ _)) fun _ _ => ?_
  refine RaisesOnly.bind (RaisesOnly.guard _ (own_smoteError _ _ _)) fun _ _ => ?_
  exact RaisesOnly.bind (RaisesOnly.guard _ (own_smoteError _ _ _)) fun _ _ => RaisesOnly.ok _

/-- A step that does not get to its draws says so by its own error. -/
theorem refused (h : ¬ Accepts request t) :
    ∃ e, executeSmoteAugmentationAction gen request t = .error e ∧ Own e := by
  rw [executeSmoteAugmentationAction]
  cases hstep : validateStep request with
  | error e => exact ⟨e, rfl, own_validateStep e hstep⟩
  | ok u =>
    rw [ok_bind]
    cases hsource : readSourceRows t request.targetColumn with
    | error e => exact ⟨e, rfl, own_readSourceRows e hsource⟩
    | ok rows =>
      obtain ⟨-, rfl⟩ := readSourceRows_eq_ok hsource
      rw [ok_bind]
      cases hassignments : verifyAssignmentsMatchRows (indexAssignments request.splitManifest)
          (identifiedRows t.records) with
      | error e => exact ⟨e, rfl, RaisesOnly.guard _ (own_smoteError _ _ _) e hassignments⟩
      | ok u =>
        rw [ok_bind]
        by_cases hrare : 2 ≤ (trainRare request (identifiedRows t.records)).length
        · have hfeatures : ¬ (resolveFeatureColumns t.columns request.targetColumn
              request.featureColumns).1 ≠ [] :=
                fun hne => h ⟨hstep, hsource, hassignments, hrare, hne⟩
          have hsome : trainRare request (identifiedRows t.records) ≠ [] :=
            List.ne_nil_of_length_pos (by omega)
          dsimp only
          rw [guardOk, if_pos hsome, ok_bind, guardOk, if_pos hrare, ok_bind, guardOk,
            if_neg hfeatures]
          exact ⟨_, rfl, own_smoteError _ _ _⟩
        · dsimp only
          rw [guardOk, guardOk, if_neg hrare]
          split
          · exact ⟨_, rfl, own_smoteError _ _ _⟩
          · exact ⟨_, rfl, own_smoteError _ _ _⟩

theorem accepted (h : Accepts request t) : executeSmoteAugmentationAction gen request t =
    drawSamples gen request (trainRare request (identifiedRows t.records))
      (interpolatedColumns request t)
        (List.range (generatedCount request (identifiedRows t.records)))
          (gen.seeded request.randomSeed) >>=
      fun samples => buildAugmentedSplitManifest request.splitManifest (samples.map Sample.row)
          request.targetColumn "smote" >>= fun augmented =>
        .ok { report := buildReport request t.columns (identifiedRows t.records) samples
              candidate := writeCandidateCsv ((identifiedRows t.records).map Subtype.val)
                (samples.map Sample.row) (candidateDatasetColumns t.columns)
              augmentedSplitManifest := augmented } := by
  have hsome : trainRare request (identifiedRows t.records) ≠ [] := by
    apply List.ne_nil_of_length_pos
    exact Nat.lt_of_lt_of_le Nat.two_pos h.rare
  have hfeatures :
      (resolveFeatureColumns t.columns request.targetColumn request.featureColumns).1 ≠ [] :=
    h.features
  rw [executeSmoteAugmentationAction, h.step, ok_bind, h.source, ok_bind, h.assignments, ok_bind]
  dsimp only
  rw [guardOk, if_pos hsome, ok_bind, guardOk, if_pos h.rare, ok_bind, guardOk,
    if_pos hfeatures, ok_bind]
  rfl

theorem exists_augmented {manifest : SplitManifest} {rows : List Row} {targetColumn : NonEmptyStr}
    {method : String} (h : ∀ row ∈ rows, cell objectIdColumn row ≠ []) :
    ∃ augmented, buildAugmentedSplitManifest manifest rows targetColumn method = .ok augmented := by
  rw [buildAugmentedSplitManifest]
  split
  · exact ⟨manifest, rfl⟩
  · have hassignment : ∀ row ∈ rows, ∃ a, syntheticAssignment targetColumn row = .ok a :=
      fun row hrow => ⟨_, dif_pos (h row hrow)⟩
    obtain ⟨added, hadded⟩ := exists_mapM_ok hassignment
    exact ⟨_, bind_eq_ok.mpr ⟨added, hadded, rfl⟩⟩

theorem exists_result_iff (h : Accepts request t) :
    (∃ result, executeSmoteAugmentationAction gen request t = .ok result) ↔
      ∃ samples, drawSamples gen request (trainRare request (identifiedRows t.records))
        (interpolatedColumns request t)
          (List.range (generatedCount request (identifiedRows t.records)))
        (gen.seeded request.randomSeed) = .ok samples := by
  rw [accepted h]
  constructor
  · rintro ⟨result, hrun⟩
    obtain ⟨samples, hsamples, -⟩ := bind_eq_ok.mp hrun
    exact ⟨samples, hsamples⟩
  · rintro ⟨samples, hsamples⟩
    have hids : ∀ row ∈ samples.map Sample.row, cell objectIdColumn row ≠ [] := by
      intro row hrow
      have hmem : cell objectIdColumn row ∈ (samples.map Sample.row).map (cell objectIdColumn) :=
        List.mem_map_of_mem hrow
      rw [ids_drawSamples (objectId_notMem_features _ _ _) hsamples] at hmem
      obtain ⟨index, -, hindex⟩ := List.mem_map.mp hmem
      rw [← hindex]
      exact newId_ne_nil _ _ index
    obtain ⟨augmented, haugmented⟩ := exists_augmented hids
    exact ⟨_, bind_eq_ok.mpr ⟨samples, hsamples, bind_eq_ok.mpr ⟨augmented, haugmented, rfl⟩⟩⟩

theorem marks_notMem_features : isSyntheticColumn ∉ interpolatedColumns request t ∧
    sourceSplitColumn ∉ interpolatedColumns request t := by
  have hnever : ∀ column ∈ neverFeatureColumns, column ∉ interpolatedColumns request t := by
    intro column hcolumn hmem
    have hfeature := (List.mem_filter.mp hmem).2
    rw [isFeature, decide_eq_true_eq] at hfeature
    exact hfeature.2.2 hcolumn
  exact ⟨hnever _ (by decide), hnever _ (by decide)⟩

theorem syntheticRecords_eq {samples : List (Sample (Extended ℚ))}
    (h : Samples gen request t result samples) :
    syntheticRecords t result = (samples.map Sample.row).map fun row =>
      rowOf (candidateDatasetColumns t.columns) fun column => cell column row := by
  have hmarker : isSyntheticColumn ∈ candidateDatasetColumns t.columns :=
    marker_mem_candidateDatasetColumns List.mem_cons_self
  have hnil := nil_notMem_candidateDatasetColumns (nil_notMem_columns t)
  have hlength : (identifiedRows t.records).length = t.records.length := by
    rw [identifiedRows, List.length_map, List.length_zipIdx]
  rw [syntheticRecords, h.candidate, writeCandidateCsv,
    records_write (List.ne_nil_of_mem hmarker) hnil, List.map_append,
    List.drop_left' (by rw [List.length_map, List.length_map, List.length_map, hlength]),
    List.map_map]
  exact List.map_congr_left fun row _ => rowOf_congr fun column hcolumn => cell_rowOf hcolumn

theorem shows_syntheticRecords (hgen : UnitRandom gen) (haccepts : Accepts request t)
    (hrun : executeSmoteAugmentationAction gen request t = .ok result) :
    List.Forall₂ (Shows (interpolatedColumns request t)) (drawsOf gen request t)
      (syntheticRecords t result) := by
  obtain ⟨samples, h⟩ := exists_samples hrun
  have hshows := shows_drawSamples hgen haccepts.rare marks_notMem_features h.drawn
  rw [List.length_range] at hshows
  rw [syntheticRecords_eq h, List.forall₂_map_right_iff]
  refine hshows.imp fun d row hrow column hcolumn x y hnumbers => ?_
  have hmem : column ∈ candidateDatasetColumns t.columns := by
    have hfeature := (List.mem_filter.mp hcolumn).2
    rw [isFeature, decide_eq_true_eq] at hfeature
    exact mem_candidateDatasetColumns hfeature.1
  rw [cell_rowOf hmem]
  exact hrow column hcolumn x y hnumbers

/-- A step fails by its own errors only, and what it interpolates lies between the numbers
it is drawn from. -/
def Sound (gen : Generator (Extended ℚ)) (request : ExecuteSmoteAugmentationRequest (Extended ℚ))
    (t : Table) : Prop :=
  RaisesOnly Own (executeSmoteAugmentationAction gen request t) ∧
    ∀ result, executeSmoteAugmentationAction gen request t = .ok result →
      List.Forall₂ (Shows (interpolatedColumns request t)) (drawsOf gen request t)
        (syntheticRecords t result)

/-- No draw of a step meets an infinity beside another number. -/
def DrawsFinite (gen : Generator (Extended ℚ))
    (request : ExecuteSmoteAugmentationRequest (Extended ℚ)) (t : Table) : Prop :=
  ∀ d ∈ drawsOf gen request t, ∀ column ∈ interpolatedColumns request t, d.Bounded column

theorem exists_result_iff_finite (hgen : UnitRandom gen) (h : Accepts request t) :
    (∃ result, executeSmoteAugmentationAction gen request t = .ok result) ↔
      DrawsFinite gen request t := by
  rw [exists_result_iff h, exists_drawSamples_iff hgen h.rare, List.length_range]
  rfl

/-- A step on which an infinity is drawn raises what is not its own. -/
theorem raises_of_not_finite (hgen : UnitRandom gen) (h : Accepts request t)
    (hfinite : ¬ DrawsFinite gen request t) :
    ∃ e, executeSmoteAugmentationAction gen request t = .error e ∧ ¬ Own e := by
  cases hdrawn : drawSamples gen request (trainRare request (identifiedRows t.records))
      (interpolatedColumns request t)
        (List.range (generatedCount request (identifiedRows t.records)))
      (gen.seeded request.randomSeed) with
  | ok samples =>
    exact absurd
      ((exists_result_iff_finite hgen h).mp ((exists_result_iff h).mpr ⟨samples, hdrawn⟩)) hfinite
  | error e =>
    refine ⟨e, ?_, drawSamples_raises hgen h.rare _ _ e hdrawn⟩
    rw [accepted h, hdrawn]
    rfl

theorem smote_sound_iff (hgen : UnitRandom gen) :
    Sound gen request t ↔ (Accepts request t → DrawsFinite gen request t) := by
  constructor
  · rintro ⟨hraises, -⟩ haccepts
    by_contra hfinite
    obtain ⟨e, hrun, hforeign⟩ := raises_of_not_finite hgen haccepts hfinite
    exact hforeign (hraises e hrun)
  · intro h
    by_cases haccepts : Accepts request t
    · obtain ⟨result, hrun⟩ := (exists_result_iff_finite hgen haccepts).mpr (h haccepts)
      refine ⟨fun e he => ?_, fun result hrun => shows_syntheticRecords hgen haccepts hrun⟩
      rw [hrun] at he
      cases he
    · obtain ⟨e, hrun, hown⟩ := refused haccepts
      rw [Sound, hrun]
      exact ⟨RaisesOnly.error hown, nofun⟩

end Runs

section Fees

instance (d : Draw) (column : Text) : Decidable (d.Bounded column) :=
  decidable_of_iff (∀ pair ∈ d.numbers column,
      Extended.isInf pair.1 = false ∧ Extended.isInf pair.2 = false)
    ⟨fun h x y hnumbers => h (x, y) hnumbers, fun h pair hpair => h pair.1 pair.2 hpair⟩

/-- The first draws of `random.Random(42)`. -/
def firstDraws : Generator (Extended ℚ) where
  State := Unit
  seeded _ := ()
  randrange _ s := (0, s)
  random s := (.finite (6679293108789577 / 9007199254740992), s)
  randrange_lt _ _ h := h

theorem unitRandom_firstDraws : UnitRandom firstDraws := fun _ => ⟨_, rfl, by norm_num, by norm_num⟩

/-- Five payments, the first two of them fraudulent. -/
def fees (fee : String) : Table where
  header := ["object_id", "fee", "is_fraud"].map String.toList
  lines := [["t0", fee, "1"], ["t1", "20", "1"], ["t2", "30", "0"], ["t3", "40", "0"],
    ["t4", "50", "0"]].map
    fun line => line.map String.toList

def feesRequest : ExecuteSmoteAugmentationRequest (Extended ℚ) where
  stepType := "AUGMENT_RARE_CLASS".toList
  methodId := "smote".toList
  config := []
  splitManifest :=
    { splitManifestId := "split".toList
      targetColumn := literal "is_fraud"
      seed := 42
      groupKey := none
      assignments :=
        [⟨literal "t0", .train, literal "1", none⟩, ⟨literal "t1", .train, literal "1", none⟩,
          ⟨literal "t2", .train, literal "0", none⟩, ⟨literal "t3", .train, literal "0", none⟩,
          ⟨literal "t4", .train, literal "0", none⟩]
      classDistribution := [] }
  targetColumn := literal "is_fraud"
  rareClassLabel := literal "1"
  randomSeed := 42
  kNeighbors := ⟨5, default_neighbors⟩
  samplingStrategy := ⟨.finite 1, by decide +kernel⟩
  sampleLineageLimit := 25
  featureColumns := none

theorem smote_sound_fees : Sound firstDraws feesRequest (fees "10.5") := by
  apply (smote_sound_iff unitRandom_firstDraws).mpr
  intro _
  have hbounded : ∀ d ∈ drawsOf firstDraws feesRequest (fees "10.5"),
      ∀ column ∈ interpolatedColumns feesRequest (fees "10.5"),
        d.Bounded column := by decide +kernel
  exact hbounded

/-- An infinite fee of a fraud is kept as a number, and cannot be interpolated. -/
theorem infinite_fee_not_sound : ¬ Sound firstDraws feesRequest (fees "inf") := by
  rintro ⟨hraises, -⟩
  have herror : (match executeSmoteAugmentationAction firstDraws feesRequest (fees "inf") with
      | .error (.plain error _) => error
      | _ => "") = "ValueError" := by decide +kernel
  cases hrun : executeSmoteAugmentationAction firstDraws feesRequest (fees "inf") with
  | ok result =>
    rw [hrun] at herror
    change "" = "ValueError" at herror
    exact absurd herror (by decide)
  | error e =>
    obtain ⟨reasonCode, code, message, rfl⟩ := hraises e hrun
    rw [hrun] at herror
    change "" = "ValueError" at herror
    exact absurd herror (by decide)

end Fees

end DataForge.Plugins.Tabular.SmoteErrors
