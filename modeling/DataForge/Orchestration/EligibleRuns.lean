import DataForge.Kernel.ImpactTraining
import DataForge.Kernel.ModelImpactEligibility
import DataForge.Orchestration.ModelImpactStage
import DataForge.Plugins.Tabular.ProfileLabels

namespace DataForge.Orchestration.EligibleRuns

open DataForge.Foundation.Strings
open DataForge.Foundation.Outcome
open DataForge.Foundation.Dictionary
open DataForge.Foundation.Canonical
open DataForge.Foundation.Numbers
open DataForge.Foundation.Scores
open DataForge.Foundation.Tables
open DataForge.Domain.Common
open DataForge.Domain.Splits
open DataForge.Domain.ImpactEligibility
open DataForge.Kernel.ModelImpact
open DataForge.Kernel.ImpactTraining
open DataForge.Kernel.ModelImpactEligibility
open DataForge.Orchestration.ModelImpactStage
open DataForge.Plugins.Tabular.Sources
open DataForge.Plugins.Tabular.ProfileInference (namedColumns selectTargetColumn)
open DataForge.Plugins.Tabular.ProfileLabels

section Selection

variable {t : Table} {manifest : SplitManifest}

/-- The manifest assigns rows of the table. -/
def Over (t : Table) (manifest : SplitManifest) : Prop :=
  ∀ a ∈ manifest.assignments, ∃ row ∈ readCsvRows t, objectId row = a.objectId

/-- The row that an id selects, which is the last one that has it. -/
def lastRow (t : Table) (id : NonEmptyStr) : Option IdentifiedRow :=
  ((readCsvRows t).filter fun row => objectId row = id).getLast?

theorem get?_byId (t : Table) (id : NonEmptyStr) :
    get? id.1 (update [] ((readCsvRows t).map fun row => ((objectId row).1, row))) =
      lastRow t id := by
  rw [get?_update_eq_getLast?, List.filter_map, List.getLast?_map, Option.map_map, lastRow]
  simp [Function.comp_def, get?, Subtype.ext_iff]

theorem mem_selectSplitRows {split : DataSplit} {row : IdentifiedRow} :
    row ∈ selectSplitRows (readCsvRows t) manifest split ↔
      ∃ a ∈ manifest.assignments, a.split = split ∧ lastRow t a.objectId = some row := by
  simp only [selectSplitRows, List.mem_filterMap, mem_sortedSet, List.mem_map, List.mem_filter,
    decide_eq_true_eq]
  constructor
  · rintro ⟨id, ⟨a, ⟨ha, hsplit⟩, rfl⟩, hrow⟩
    rw [get?_byId] at hrow
    exact ⟨a, ha, hsplit, hrow⟩
  · rintro ⟨a, ha, hsplit, hrow⟩
    refine ⟨a.objectId.1, ⟨a, ⟨ha, hsplit⟩, rfl⟩, ?_⟩
    rw [get?_byId]
    exact hrow

theorem exists_lastRow (hover : Over t manifest) {a : SplitAssignment}
    (ha : a ∈ manifest.assignments) : ∃ row, lastRow t a.objectId = some row := by
  obtain ⟨row, hrow, hid⟩ := hover a ha
  rw [← Option.isSome_iff_exists, lastRow, List.getLast?_isSome]
  exact List.ne_nil_of_mem (List.mem_filter.mpr ⟨hrow, decide_eq_true hid⟩)

theorem lastRow_mem {id : NonEmptyStr} {row : IdentifiedRow} (h : lastRow t id = some row) :
    row ∈ readCsvRows t := List.mem_of_mem_filter (List.mem_of_getLast? h)

theorem selectSplitRows_eq_nil (hover : Over t manifest) {split : DataSplit} :
    selectSplitRows (readCsvRows t) manifest split = [] ↔ ∀ a ∈ manifest.assignments, a.split ≠
      split := by
  rw [List.eq_nil_iff_forall_not_mem]
  constructor
  · intro hnone a ha hsplit
    obtain ⟨row, hrow⟩ := exists_lastRow hover ha
    exact hnone row (mem_selectSplitRows.mpr ⟨a, ha, hsplit, hrow⟩)
  · intro hnone row hrow
    obtain ⟨a, ha, hsplit, -⟩ := mem_selectSplitRows.mp hrow
    exact hnone a ha hsplit

/-- The split whose rows are tested on: validation stands in for a test split that is missing. -/
def Tested (manifest : SplitManifest) (split : DataSplit) : Prop :=
  split = .test ∨ split = .validation ∧ ∀ a ∈ manifest.assignments, a.split ≠ .test

theorem mem_evaluationRows (hover : Over t manifest) {row : IdentifiedRow} :
    row ∈ evaluationRows (readCsvRows t) manifest ↔
      ∃ a ∈ manifest.assignments, Tested manifest a.split ∧ lastRow t a.objectId = some row := by
  rw [evaluationRows]
  by_cases hnone : selectSplitRows (readCsvRows t) manifest .test = []
  · have htest := (selectSplitRows_eq_nil hover).mp hnone
    rw [if_pos hnone, mem_selectSplitRows]
    refine exists_congr fun a => and_congr_right fun ha => and_congr_left' ?_
    exact ⟨fun hsplit => .inr ⟨hsplit, htest⟩,
      fun htested => htested.elim (fun h => absurd h (htest a ha)) And.left⟩
  · rw [if_neg hnone, mem_selectSplitRows]
    refine exists_congr fun a => and_congr_right fun ha => and_congr_left' ?_
    refine ⟨.inl, fun htested => htested.resolve_right fun h => hnone ?_⟩
    exact (selectSplitRows_eq_nil hover).mpr h.2

end Selection

section Runnable

variable {F : Type} [FiniteLike F] {t : Table} {manifest : SplitManifest}
  {targetColumn : NonEmptyStr}

/-- What the row of an assignment has in a column. -/
def assignedCell (t : Table) (column : NonEmptyStr) (a : SplitAssignment) : Option Text :=
  (lastRow t a.objectId).map fun row => cell column.1 row.1

/-- Rows of two labels are assigned to the training, one is to the test or to the validation, and no row
that is used has a feature that reads as a number that is not finite. -/
structure Runnable (F : Type) [FiniteLike F] (t : Table) (manifest : SplitManifest)
    (targetColumn : NonEmptyStr) (featureColumns : List NonEmptyStr) : Prop where
  tested : ∃ a ∈ manifest.assignments, a.split = .test ∨ a.split = .validation
  classes : ∃ a ∈ manifest.assignments, ∃ b ∈ manifest.assignments, a.split =
    .train ∧ b.split = .train ∧
    assignedCell t targetColumn a ≠ assignedCell t targetColumn b
  finite : ∀ a ∈ manifest.assignments, a.split = .train ∨ Tested manifest a.split →
    ∀ column ∈ featureColumns, ∀ raw, assignedCell t column a = some raw → ReadsFinite F raw

theorem two_le_dedup_iff {α : Type} [DecidableEq α] {xs : List α} :
    2 ≤ xs.dedup.length ↔ ∃ x ∈ xs, ∃ y ∈ xs, x ≠ y := by
  rw [← List.card_toFinset]
  refine Finset.one_lt_card.trans ?_
  simp only [List.mem_toFinset]

theorem exists_tested_iff : (∃ a ∈ manifest.assignments, Tested manifest a.split) ↔
    ∃ a ∈ manifest.assignments, a.split = .test ∨ a.split = .validation := by
  constructor
  · rintro ⟨a, ha, htest | ⟨hvalidation, -⟩⟩
    · exact ⟨a, ha, .inl htest⟩
    · exact ⟨a, ha, .inr hvalidation⟩
  · rintro ⟨a, ha, hsplit⟩
    by_cases hnone : ∀ b ∈ manifest.assignments, b.split ≠ .test
    · exact ⟨a, ha, .inr ⟨hsplit.resolve_left (hnone a ha), hnone⟩⟩
    · push Not at hnone
      obtain ⟨b, hb, htest⟩ := hnone
      exact ⟨b, hb, .inl htest⟩

theorem runnable_iff (hover : Over t manifest) {featureColumns : List NonEmptyStr} :
    (evaluationRows (readCsvRows t) manifest ≠ [] ∧
      2 ≤ ((selectSplitRows (readCsvRows t) manifest .train).map fun row =>
        cell targetColumn.1 row.1).dedup.length ∧
      ∀ row ∈ selectSplitRows (readCsvRows t) manifest .train ++
      evaluationRows (readCsvRows t) manifest,
        ∀ column ∈ featureColumns, ReadsFinite F (cell column.1 row.1)) ↔
      Runnable F t manifest targetColumn featureColumns := by
  have htested : evaluationRows (readCsvRows t) manifest ≠ [] ↔
      ∃ a ∈ manifest.assignments, a.split = .test ∨ a.split = .validation := by
    rw [← exists_tested_iff]
    refine ⟨fun hne => ?_, ?_⟩
    · obtain ⟨row, hrow⟩ := List.exists_mem_of_ne_nil _ hne
      obtain ⟨a, ha, hsplit, -⟩ := (mem_evaluationRows hover).mp hrow
      exact ⟨a, ha, hsplit⟩
    · rintro ⟨a, ha, hsplit⟩
      obtain ⟨row, hrow⟩ := exists_lastRow hover ha
      exact List.ne_nil_of_mem ((mem_evaluationRows hover).mpr ⟨a, ha, hsplit, hrow⟩)
  have hclasses : 2 ≤ ((selectSplitRows (readCsvRows t) manifest .train).map fun row =>
      cell targetColumn.1 row.1).dedup.length ↔
      ∃ a ∈ manifest.assignments, ∃ b ∈ manifest.assignments, a.split = .train ∧ b.split = .train ∧
        assignedCell t targetColumn a ≠ assignedCell t targetColumn b := by
    rw [two_le_dedup_iff]
    constructor
    · rintro ⟨x, hx, y, hy, hne⟩
      obtain ⟨row, hrow, rfl⟩ := List.mem_map.mp hx
      obtain ⟨other, hother, rfl⟩ := List.mem_map.mp hy
      obtain ⟨a, ha, hsplit, hlast⟩ := mem_selectSplitRows.mp hrow
      obtain ⟨b, hb, hsplit', hlast'⟩ := mem_selectSplitRows.mp hother
      refine ⟨a, ha, b, hb, hsplit, hsplit', ?_⟩
      rw [assignedCell, assignedCell, hlast, hlast', Option.map_some, Option.map_some, ne_eq,
        Option.some.injEq]
      exact hne
    · rintro ⟨a, ha, b, hb, hsplit, hsplit', hne⟩
      obtain ⟨row, hlast⟩ := exists_lastRow hover ha
      obtain ⟨other, hlast'⟩ := exists_lastRow hover hb
      rw [assignedCell, assignedCell, hlast, hlast', Option.map_some, Option.map_some, ne_eq,
        Option.some.injEq] at hne
      exact ⟨_, List.mem_map_of_mem (mem_selectSplitRows.mpr ⟨a, ha, hsplit, hlast⟩),
        _, List.mem_map_of_mem (mem_selectSplitRows.mpr ⟨b, hb, hsplit', hlast'⟩), hne⟩
  have hfinite : (∀ row ∈ selectSplitRows (readCsvRows t) manifest .train ++
        evaluationRows (readCsvRows t) manifest,
        ∀ column ∈ featureColumns, ReadsFinite F (cell column.1 row.1)) ↔
      ∀ a ∈ manifest.assignments, a.split = .train ∨ Tested manifest a.split →
        ∀ column ∈ featureColumns, ∀ raw, assignedCell t column a =
          some raw → ReadsFinite F raw := by
    constructor
    · intro hall a ha hsplit column hcolumn raw hraw
      obtain ⟨row, hlast, rfl⟩ := Option.map_eq_some_iff.mp hraw
      refine hall row (List.mem_append.mpr ?_) column hcolumn
      exact hsplit.imp (fun h => mem_selectSplitRows.mpr ⟨a, ha, h, hlast⟩)
        fun h => (mem_evaluationRows hover).mpr ⟨a, ha, h, hlast⟩
    · intro hall row hrow column hcolumn
      obtain htrain | htest := List.mem_append.mp hrow
      · obtain ⟨a, ha, hsplit, hlast⟩ := mem_selectSplitRows.mp htrain
        exact hall a ha (.inl hsplit) column hcolumn _ (congrArg (Option.map _) hlast)
      · obtain ⟨a, ha, hsplit, hlast⟩ := (mem_evaluationRows hover).mp htest
        exact hall a ha (.inr hsplit) column hcolumn _ (congrArg (Option.map _) hlast)
  rw [htested, hclasses, hfinite]
  exact ⟨fun ⟨h₁, h₂, h₃⟩ => ⟨h₁, h₂, h₃⟩, fun h => ⟨h.tested, h.classes, h.finite⟩⟩

end Runnable

section Results

variable {F : Type} [FiniteLike F] {t : Table} {manifest : SplitManifest}
  {profile : TabularProfileReport}

/-- The check is asked about the profile and the manifest, with the default minimums. -/
structure Asks (eligibility : CheckModelImpactEligibilityRequest F) (profile : TabularProfileReport)
    (manifest : SplitManifest) : Prop where
  profile : eligibility.tabularProfile = some profile
  manifest : eligibility.splitManifest = some manifest
  labeled : eligibility.minimumLabeledSamples = 50
  rare : eligibility.minimumRareClassSamples = 5
  splits : eligibility.minimumSplits = 2

/-- The run reads the table and the manifest, with the target column and the rare label of the profile and
the columns of the table that hold numbers. -/
structure RunsOn (request : RunModelImpactRequest F) (t : Table) (profile : TabularProfileReport)
    (manifest : SplitManifest) : Prop where
  source : request.sourceArtifact = t
  manifest : request.sourceSplitManifest = manifest
  target : profile.targetColumn = some request.targetColumn.1
  rare : profile.classImbalance.map ClassImbalanceDiagnostics.rareClassLabel =
    some request.rareClassLabel
  features : request.featureColumns.1.map Subtype.val =
    numericFeatureColumns F t request.targetColumn

/-- The rows that the runner reads have the labels that the profile has seen. -/
theorem labelled_of_profile {targetColumn : NonEmptyStr} {columns : List NonEmptyStr}
    (hprofile : inferTabularProfile t.records columns = .ok profile)
    (htarget : profile.targetColumn = some targetColumn.1)
    (hmissing : hasTargetMissingValues (some profile) = false) :
    Labelled targetColumn (readCsvRows t) := by
  obtain ⟨hcolumn, hmissingness⟩ := inferTabularProfile_eq_ok hprofile
  rw [hcolumn] at htarget
  obtain ⟨column, hselected, hval⟩ := Option.map_eq_some_iff.mp htarget
  obtain rfl := Subtype.ext hval
  rw [hasTargetMissingValues, Option.bind_some, hmissingness, hselected] at hmissing
  have hzero : missingTargetCount t.records column = 0 := by simpa using hmissing
  have hcells := missingTargetCount_eq_zero.mp hzero
  have hid : column.1 ≠ objectIdColumn := ne_of_selectTargetColumn (by decide) hselected
  intro row hrow
  obtain ⟨⟨record, index⟩, hrecord, rfl⟩ := List.mem_map.mp hrow
  have hcell : cell column.1 (withObjectId index record) = cell column.1 record := by
    rw [withObjectId]
    split
    · exact cell_set_ne hid.symm _
    · rfl
  change cell column.1 (withObjectId index record) ≠ []
  rw [hcell]
  exact hcells record (List.fst_mem_of_mem_zipIdx hrecord)

variable {fit : Classifier F} {score : Scorer F} {request : RunModelImpactRequest F}
  {eligibility : CheckModelImpactEligibilityRequest F} {report : ModelImpactEligibilityReport}

/-- The baseline of a candidate that is eligible has metrics exactly where its split can be trained and
tested on. -/
theorem eligible_available_iff (hfit : Documented fit)
    (hprofile : inferTabularProfile t.records (namedColumns t) = .ok profile)
    (hover : Over t manifest)
    (hasks : Asks eligibility profile manifest)
    (hreport : checkModelImpactEligibility eligibility = .ok report)
    (heligible : report.eligible = true) (hruns : RunsOn request t profile manifest) :
    (∃ metrics, trainAndEvaluate (fitAndScore fit score) request (impactRows request).baselineTrain
        (impactRows request).baselineTest = .ok (.ok metrics)) ↔
      Runnable F t manifest request.targetColumn request.featureColumns.1 := by
  have hmissing := (eligible_findings hreport heligible).2.1
  rw [hasks.profile] at hmissing
  have hlabelled := labelled_of_profile hprofile hruns.target hmissing
  have htrain :
      Labelled request.targetColumn (selectSplitRows (readCsvRows t) manifest .train) := by
    intro row hrow
    obtain ⟨a, -, -, hlast⟩ := mem_selectSplitRows.mp hrow
    exact hlabelled row (lastRow_mem hlast)
  have htest : Labelled request.targetColumn (evaluationRows (readCsvRows t) manifest) := by
    intro row hrow
    obtain ⟨a, -, -, hlast⟩ := (mem_evaluationRows hover).mp hrow
    exact hlabelled row (lastRow_mem hlast)
  rw [impactRows]
  simp only [hruns.source, hruns.manifest]
  rw [available_iff hfit htrain htest, runnable_iff hover]

end Results

section Examples

/-- Fifty rows, five of which are of the rare class. -/
def sampleTable : Table where
  header := ["object_id".toList, "x".toList, "label".toList]
  lines := (List.range 50).map fun i =>
    ['o' :: Nat.toDigits 10 i, "1".toList, if i < 5 then "b".toList else "a".toList]

def sampleProfile : TabularProfileReport where
  targetColumn := some "label".toList
  missingness := some ⟨false⟩
  classImbalance := some ⟨50, [⟨literal "a", 45⟩, ⟨literal "b", 5⟩], literal "b"⟩

/-- The split of three rows. -/
def sampleManifest (first second third : NonEmptyStr × NonEmptyStr) : SplitManifest where
  splitManifestId := "split".toList
  targetColumn := literal "label"
  seed := 42
  groupKey := none
  assignments := [⟨first.1, .train, first.2, none⟩, ⟨second.1, .train, second.2, none⟩,
    ⟨third.1, .test, third.2, none⟩]
  classDistribution := []

def mixedManifest : SplitManifest :=
  sampleManifest (literal "o0", literal "b") (literal "o5", literal "a") (literal "o6", literal "a")

/-- Both rows of the training split are of one class. -/
def oneClassManifest : SplitManifest :=
  sampleManifest (literal "o5", literal "a") (literal "o6", literal "a") (literal "o0", literal "b")

def sampleEligibility (manifest : SplitManifest) : CheckModelImpactEligibilityRequest ℚ where
  tabularProfile := some sampleProfile
  splitManifest := some manifest

def sampleRequest (manifest : SplitManifest) : RunModelImpactRequest ℚ where
  sourceArtifact := sampleTable
  candidateArtifact := sampleTable
  sourceSplitManifest := manifest
  candidateSplitManifest := manifest
  featureColumns := ⟨[literal "x"], one_feature⟩
  targetColumn := literal "label"
  rareClassLabel := literal "b"
  candidateIsSynthetic := false
  validationGatesBlockerPresent := false
  randomSeed := 42
  tstrMacroF1Threshold := 1 / 10
  trtsUnstableThreshold := 2 / 10
  degradedDrops := ⟨5 / 100, 3 / 100, 3 / 100, 3 / 100⟩

instance (matrix : List (List ℚ)) : Decidable (FiniteMatrix matrix) :=
  inferInstanceAs (Decidable (∀ vector ∈ matrix, ∀ x ∈ vector, FiniteLike.isFinite x = true))

/-- A classifier that predicts the first label that it has seen. -/
def firstLabel : Classifier ℚ := fun _ train test =>
  if FiniteMatrix (train.map Prod.fst) ∧ FiniteMatrix test then
    .ok ⟨(train.head?.map fun item => test.map fun _ => item.2).getD [], none⟩
  else .error (.plain "ValueError" "Input contains NaN.")

theorem documented_firstLabel : Documented firstLabel where
  fits seed train test _ _ htrain htest := by
    rw [firstLabel, if_pos ⟨htrain, htest⟩]
    exact ⟨_, rfl⟩
  rejects seed train test h := by
    by_contra hfinite
    rw [firstLabel, if_neg hfinite] at h
    obtain ⟨_, h⟩ := h
    cases h
  known seed train test predictions h label hlabel := by
    rw [firstLabel] at h
    split at h
    · obtain rfl := Except.ok.inj h
      cases train with
      | nil => cases hlabel
      | cons item train =>
        obtain ⟨_, -, rfl⟩ := List.mem_map.mp hlabel
        exact List.mem_cons_self
    · cases h

def countScore : Scorer ℚ := fun _ _ _ => ⟨0, 0, 0, none⟩

theorem sampleTable_profiled : inferTabularProfile sampleTable.records (namedColumns sampleTable) =
    .ok sampleProfile := by decide +kernel

theorem sampleTable_ids : ∀ id ∈ [literal "o0", literal "o5", literal "o6"],
    ∃ row ∈ readCsvRows sampleTable, objectId row = id := by decide +kernel

theorem sampleRequest_features : (sampleRequest oneClassManifest).featureColumns.1.map Subtype.val =
    numericFeatureColumns ℚ sampleTable (literal "label") := by decide +kernel

theorem sample_over : Over sampleTable mixedManifest ∧ Over sampleTable oneClassManifest := by
  constructor
  · intro a ha
    apply sampleTable_ids
    revert a
    decide +kernel
  · intro a ha
    apply sampleTable_ids
    revert a
    decide +kernel

theorem sample_runsOn (manifest : SplitManifest) :
    RunsOn (sampleRequest manifest) sampleTable sampleProfile manifest :=
  ⟨rfl, rfl, rfl, rfl, sampleRequest_features⟩

theorem sample_asks (manifest : SplitManifest) :
    Asks (sampleEligibility manifest) sampleProfile manifest :=
  ⟨rfl, rfl, rfl, rfl, rfl⟩

theorem readsFinite_one : ReadsFinite ℚ "1".toList := by
  intro _ x hx
  have hparse : (MetricLike.parse "1".toList : Option ℚ) = some 1 := by decide +kernel
  rw [hparse] at hx
  obtain rfl := Option.some.inj hx
  decide +kernel

/-- Rows of both classes in the training split. -/
theorem mixed_split_available : ∃ metrics, trainAndEvaluate (fitAndScore firstLabel countScore)
    (sampleRequest mixedManifest) (impactRows (sampleRequest mixedManifest)).baselineTrain
    (impactRows (sampleRequest mixedManifest)).baselineTest = .ok (.ok metrics) := by
  have heligible : (eligibilityReport (sampleEligibility mixedManifest)).eligible =
      true := by decide +kernel
  refine (@eligible_available_iff ℚ _ sampleTable mixedManifest sampleProfile firstLabel countScore
    (sampleRequest mixedManifest) (sampleEligibility mixedManifest) _ documented_firstLabel
    sampleTable_profiled sample_over.1 (sample_asks _) rfl heligible (sample_runsOn _)).mpr
      ⟨?_, ?_, ?_⟩
  · decide +kernel
  · decide +kernel
  · have hcells : ∀ a ∈ mixedManifest.assignments,
        assignedCell sampleTable (literal "x") a = some "1".toList := by decide +kernel
    intro a ha _ column hcolumn raw hraw
    obtain rfl := List.mem_singleton.mp hcolumn
    rw [hcells a ha] at hraw
    obtain rfl := Option.some.inj hraw
    exact readsFinite_one

/-- The candidate is eligible, and no classifier gets metrics for the baseline, for its training split has
rows of one class only. -/
theorem one_class_not_available :
    inferTabularProfile sampleTable.records (namedColumns sampleTable) = .ok sampleProfile ∧
    Over sampleTable oneClassManifest ∧
      Asks (sampleEligibility oneClassManifest) sampleProfile oneClassManifest ∧
    (eligibilityReport (sampleEligibility oneClassManifest)).eligible = true ∧
    RunsOn (sampleRequest oneClassManifest) sampleTable sampleProfile oneClassManifest ∧
    ∀ (fit : Classifier ℚ) (score : Scorer ℚ), trainAndEvaluate (fitAndScore fit score)
      (sampleRequest oneClassManifest) (impactRows (sampleRequest oneClassManifest)).baselineTrain
      (impactRows (sampleRequest oneClassManifest)).baselineTest =
        .ok (.error "single_class_in_train_split") := by
  refine ⟨sampleTable_profiled, sample_over.2, sample_asks _, by decide +kernel, sample_runsOn _,
    fun fit score => ?_⟩
  have htrain : (impactRows (sampleRequest oneClassManifest)).baselineTrain ≠
      [] := by decide +kernel
  have htest : (impactRows (sampleRequest oneClassManifest)).baselineTest ≠ [] := by decide +kernel
  have hclass : ((impactRows (sampleRequest oneClassManifest)).baselineTrain.map fun row =>
      cell (sampleRequest oneClassManifest).targetColumn.1 row.1).dedup.length <
        2 := by decide +kernel
  rw [trainAndEvaluate, if_neg htrain, if_neg htest, if_pos hclass]

end Examples

end DataForge.Orchestration.EligibleRuns
