import DataForge.Foundation.Failures
import DataForge.Plugins.Predictions.Analyzer

namespace DataForge.Plugins.Predictions.Agreement

open DataForge.Foundation.Strings
open DataForge.Foundation.Outcome
open DataForge.Foundation.Failures
open DataForge.Foundation.Dictionary
open DataForge.Foundation.Grouping
open DataForge.Foundation.Canonical
open DataForge.Foundation.Numbers
open DataForge.Foundation.Scores
open DataForge.Domain.Common
open DataForge.Domain.ModelError
open DataForge.Domain.Passport (scoreField scoreField_eq_ok)
open DataForge.Plugins.Predictions.Analyzer
open FloatLike ScoreLike

variable {F : Type} [ScoreLike F]

section Counting

/-- The items of one key, and those of them that count as errors. -/
def bucketOf (k : NonEmptyStr) (items : List (NonEmptyStr × Bool)) : BucketStats :=
  ⟨items.countP fun item => item.1 = k, items.countP fun item => item.1 = k && item.2⟩

theorem observeBucket_eq : observeBucket = updateKey {} fun (stats : BucketStats) (error : Bool) =>
    ⟨stats.total + 1, stats.errors + if error then 1 else 0⟩ := rfl

/-- The statistics of a bucket are counts over the flags that came with its key. -/
theorem foldl_stats (flags : List Bool) (stats : BucketStats) :
    flags.foldl (fun (stats : BucketStats) (error : Bool) =>
        ⟨stats.total + 1, stats.errors + if error then 1 else 0⟩) stats =
      ⟨stats.total + flags.length, stats.errors + flags.countP id⟩ := by
  induction flags generalizing stats with
  | nil => rfl
  | cons error flags ih =>
    rw [List.foldl_cons, ih, List.length_cons, List.countP_cons]
    simp only [id, BucketStats.mk.injEq]
    omega

theorem get?_foldl_observeBucket (k : NonEmptyStr) (items : List (NonEmptyStr × Bool)) :
    get? k (items.foldl observeBucket []) =
      if k ∈ items.map Prod.fst then some (bucketOf k items) else none := by
  have hget := get?_foldl_updateKey {} (fun (stats : BucketStats) (error : Bool) =>
    ⟨stats.total + 1, stats.errors + if error then 1 else 0⟩) k items []
  rw [observeBucket_eq]
  by_cases hk : k ∈ items.map Prod.fst
  · rw [if_pos hk] at hget ⊢
    rw [hget, foldl_stats]
    simp [bucketOf, get?, List.countP_eq_length_filter, List.filter_map, List.filter_filter,
      Function.comp_def, Bool.and_comm]
  · rw [if_neg hk] at hget ⊢
    exact hget

theorem nodup_keys_buckets (items : List (NonEmptyStr × Bool)) :
    ((items.foldl observeBucket []).map Prod.fst).Nodup := by
  rw [observeBucket_eq]
  exact nodup_keys_foldl_updateKey _ _ items List.nodup_nil

end Counting

section Signals

variable {log : F → F} {thresholds : ModelErrorThresholds F}
  {manifest : Dict Text (ManifestRowSummary F)}

/-- What the loop reads in the signals of a row, said of the row. -/
structure SignalsOf (log : F → F) (thresholds : ModelErrorThresholds F) (row : PredictionRow F)
    (label : Text) (signals : ObjectModelErrorSignals F) : Prop where
  objectId : signals.objectId = row.objectId
  trueLabel : signals.trueLabel.1 = label
  predictedLabel : signals.predictedLabel = row.predictedLabel
  confidence : signals.confidence.1 = confidence row
  margin : signals.margin.1 = margin row
  conflict : signals.labelConflict = decide (row.predictedLabel.1 ≠ label)
  ambiguous : ReasonCode.ambiguousObject ∈ signals.reasonCodes ↔
    isAmbiguous thresholds signals = true
  probable : ReasonCode.probableLabelError ∈ signals.reasonCodes ↔
    isHighConfidenceError thresholds signals = true

theorem mem_reasons_ambiguous (row : PredictionRow F) (conflict : Bool)
    (neighbor cluster : Option (Score F)) :
    ReasonCode.ambiguousObject ∈ reasons log thresholds row conflict neighbor cluster ↔
      (le (confidence row) thresholds.ambiguousMaxConfidence.1 = true ∨
        le (margin row) thresholds.ambiguousMaxMargin.1 = true) ∨
        le thresholds.ambiguousMinNormalizedEntropy.1 (normalizedEntropy log row) = true := by
  simp [reasons, List.mem_ite_nil_right]

theorem mem_reasons_probable (row : PredictionRow F) (conflict : Bool)
    (neighbor cluster : Option (Score F)) :
    ReasonCode.probableLabelError ∈ reasons log thresholds row conflict neighbor cluster ↔
      conflict = true ∧ le thresholds.labelErrorConfidence.1 (confidence row) = true := by
  simp [reasons, List.mem_ite_nil_right]

theorem signalsOf_compute {row : PredictionRow F} {label : Text}
    {neighbor cluster : Option (Dict Text F)} {signals : ObjectModelErrorSignals F}
    (h : computeObjectSignals log thresholds row (some label) neighbor cluster = .ok signals) :
    SignalsOf log thresholds row label signals := by
  rw [computeObjectSignals] at h
  obtain ⟨trueLabel, htrue, h⟩ := bind_eq_ok.mp h
  obtain ⟨conf, hconf, h⟩ := bind_eq_ok.mp h
  obtain ⟨marg, hmarg, h⟩ := bind_eq_ok.mp h
  obtain ⟨-, h⟩ := check_bind_eq_ok.mp h
  obtain ⟨normalized, hnormalized, h⟩ := bind_eq_ok.mp h
  obtain rfl := Except.ok.inj h
  have hconf := scoreField_eq_ok.mp hconf
  have hmarg := scoreField_eq_ok.mp hmarg
  have hnormalized := scoreField_eq_ok.mp hnormalized
  refine ⟨rfl, field_eq_ok.mp htrue, rfl, hconf, hmarg, rfl, ?_, ?_⟩
  · rw [List.mem_eraseDups, mem_reasons_ambiguous, isAmbiguous, hconf, hmarg, hnormalized,
      Bool.or_eq_true, Bool.or_eq_true]
    tauto
  · rw [List.mem_eraseDups, mem_reasons_probable, isHighConfidenceError, hconf, Bool.and_eq_true]

theorem observation_eq_some {row : PredictionRow F} {seen : Observation F}
    (h : observation log thresholds manifest row = .ok (some seen)) :
    ∃ summary label, get? row.objectId.1 manifest = some summary ∧ summary.label = some label ∧
      SignalsOf log thresholds row label seen.signals ∧ seen.segment =
        summary.segment.bind nonEmpty := by
  rw [observation] at h
  cases hsummary : get? row.objectId.1 manifest with
  | none => simp [hsummary] at h
  | some summary =>
    cases hlabel : summary.label with
    | none => simp [hsummary, hlabel] at h
    | some label =>
      simp only [hsummary, hlabel] at h
      obtain ⟨signals, hsignals, h⟩ := bind_eq_ok.mp h
      obtain rfl := Option.some.inj (Except.ok.inj h)
      exact ⟨summary, label, rfl, hlabel, signalsOf_compute hsignals, rfl⟩

/-- The label of a row conflicts with its prediction, by the margin and not by the
confidence. -/
def MissedByReason (thresholds : ModelErrorThresholds F)
    (manifest : Dict Text (ManifestRowSummary F)) (row : PredictionRow F) : Prop :=
  ∃ summary label, get? row.objectId.1 manifest = some summary ∧ summary.label = some label ∧
    row.predictedLabel.1 ≠ label ∧ le thresholds.labelErrorConfidence.1 (confidence row) = false ∧
    le thresholds.labelErrorMargin.1 (margin row) = true

theorem not_missed_of_none {row : PredictionRow F}
    (h : observation log thresholds manifest row = .ok none) :
    ¬ MissedByReason thresholds manifest row := by
  rintro ⟨summary, label, hsummary, hlabel, -⟩
  simp only [observation, hsummary, hlabel] at h
  obtain ⟨signals, -, h⟩ := bind_eq_ok.mp h
  cases h

theorem not_missed_iff {row : PredictionRow F} {seen : Observation F}
    (h : observation log thresholds manifest row = .ok (some seen)) :
    ¬ MissedByReason thresholds manifest row ↔
      (isProbableLabelError thresholds seen.signals = true →
        isHighConfidenceError thresholds seen.signals = true) := by
  obtain ⟨summary, label, hsummary, hlabel, hsignals, -⟩ := observation_eq_some h
  rw [isProbableLabelError, isHighConfidenceError, hsignals.confidence, hsignals.margin,
    hsignals.conflict]
  have hmissed : MissedByReason thresholds manifest row ↔ row.predictedLabel.1 ≠ label ∧
      le thresholds.labelErrorConfidence.1 (confidence row) = false ∧
      le thresholds.labelErrorMargin.1 (margin row) = true := by
    constructor
    · rintro ⟨summary', label', hsummary', hlabel', hrow⟩
      obtain rfl := Option.some.inj (hsummary.symm.trans hsummary')
      obtain rfl := Option.some.inj (hlabel.symm.trans hlabel')
      exact hrow
    · exact fun hrow => ⟨summary, label, hsummary, hlabel, hrow⟩
  rw [hmissed]
  cases le thresholds.labelErrorConfidence.1 (confidence row) <;>
    cases le thresholds.labelErrorMargin.1 (margin row) <;> simp

end Signals

section Run

variable {log : F → F} {thresholds : ModelErrorThresholds F}
  {manifest : Dict Text (ManifestRowSummary F)}

/-- The loop observes the rows one after another, and counts what it observes. -/
theorem foldlM_analyzeRow {rows : List (PredictionRow F)} {tally tally' : Tally F}
    (h : rows.foldlM (analyzeRow log thresholds manifest) tally = .ok tally') :
    ∃ seen, rows.mapM (observation log thresholds manifest) = .ok seen ∧
      tally' = (seen.filterMap id).foldl (Tally.observe thresholds) tally := by
  induction rows generalizing tally with
  | nil =>
    obtain rfl := Except.ok.inj h
    exact ⟨[], rfl, rfl⟩
  | cons row rows ih =>
    rw [List.foldlM_cons] at h
    obtain ⟨next, hnext, h⟩ := bind_eq_ok.mp h
    obtain ⟨observed, hobserved, hnext⟩ := bind_eq_ok.mp hnext
    obtain ⟨seen, hseen, rfl⟩ := ih h
    refine ⟨observed :: seen, ?_, ?_⟩
    · rw [List.mapM_cons, hobserved, ok_bind, hseen]
      rfl
    · cases observed with
      | none =>
        obtain rfl := Except.ok.inj hnext
        rfl
      | some observed =>
        obtain rfl := Except.ok.inj hnext
        rfl

theorem forall_observed_iff {rows : List (PredictionRow F)} {seen : List (Option (Observation F))}
    (h : rows.mapM (observation log thresholds manifest) = .ok seen) :
    (∀ row ∈ rows, ¬ MissedByReason thresholds manifest row) ↔
      ∀ observed ∈ seen.filterMap id, isProbableLabelError thresholds observed.signals = true →
        isHighConfidenceError thresholds observed.signals = true := by
  induction rows generalizing seen with
  | nil =>
    obtain rfl : [] = seen := Except.ok.inj h
    simp
  | cons row rows ih =>
    rw [List.mapM_cons] at h
    obtain ⟨observed, hobserved, h⟩ := bind_eq_ok.mp h
    obtain ⟨rest, hrest, h⟩ := bind_eq_ok.mp h
    obtain rfl : observed :: rest = seen := Except.ok.inj h
    rw [List.forall_mem_cons, ih hrest]
    cases observed with
    | none => simp only [not_missed_of_none hobserved, not_false_eq_true, true_and]; rfl
    | some observed =>
      have hcons : (some observed :: rest).filterMap id = observed :: rest.filterMap id := rfl
      rw [not_missed_iff hobserved, hcons, List.forall_mem_cons]

/-- The segment that the manifest has for the object of some signals. -/
def segmentOf (manifest : Dict Text (ManifestRowSummary F)) (signals : ObjectModelErrorSignals F) :
    Option NonEmptyStr :=
  (get? signals.objectId.1 manifest).bind fun summary => summary.segment.bind nonEmpty

/-- What holds of each observation of a run. -/
structure Observed (thresholds : ModelErrorThresholds F)
    (manifest : Dict Text (ManifestRowSummary F)) (seen : Observation F) : Prop where
  segment : segmentOf manifest seen.signals = seen.segment
  conflict : seen.signals.labelConflict =
    decide (seen.signals.trueLabel ≠ seen.signals.predictedLabel)
  ambiguous : ReasonCode.ambiguousObject ∈ seen.signals.reasonCodes ↔
    isAmbiguous thresholds seen.signals = true
  probable : ReasonCode.probableLabelError ∈ seen.signals.reasonCodes ↔
    isHighConfidenceError thresholds seen.signals = true

theorem observed_of_mapM {rows : List (PredictionRow F)} {seen : List (Option (Observation F))}
    (h : rows.mapM (observation log thresholds manifest) = .ok seen) :
    ∀ observed ∈ seen.filterMap id, Observed thresholds manifest observed := by
  intro observed hmem
  obtain ⟨found, hfound, rfl⟩ := List.mem_filterMap.mp hmem
  obtain ⟨row, -, hrow⟩ := exists_of_mem_mapM h hfound
  obtain ⟨summary, label, hsummary, -, hsignals, hsegment⟩ := observation_eq_some hrow
  refine ⟨?_, ?_, hsignals.ambiguous, hsignals.probable⟩
  · rw [segmentOf, hsignals.objectId, hsummary, hsegment, Option.bind_some]
  · rw [hsignals.conflict, hsignals.predictedLabel, ← hsignals.trueLabel]
    congr 1
    rw [ne_comm, ne_eq, ne_eq, Subtype.ext_iff]

end Run

section Tallies

variable {thresholds : ModelErrorThresholds F}

/-- A part of the tally that the loop updates on its own. -/
theorem tally_field {β : Type} (get : Tally F → β) (update : β → Observation F → β)
    (h : ∀ tally seen, get (tally.observe thresholds seen) = update (get tally) seen)
    (seen : List (Observation F)) :
    get (seen.foldl (Tally.observe thresholds) {}) = seen.foldl update (get {}) :=
  (List.foldl_hom get fun tally observed => (h tally observed).symm).symm

theorem tally_count (get : Tally F → Nat) (counted : ObjectModelErrorSignals F → Bool)
    (hzero : get {} = 0) (h : ∀ tally seen, get (tally.observe thresholds seen) =
      get tally + if counted seen.signals then 1 else 0) (seen : List (Observation F)) :
    get (seen.foldl (Tally.observe thresholds) {}) =
      (seen.map Observation.signals).countP counted := by
  rw [tally_field get (fun n observed => n + if counted observed.signals then 1 else 0) h,
    foldl_countP, hzero, Nat.zero_add, List.countP_map]
  rfl

def confusionKey (signals : ObjectModelErrorSignals F) : ConfusionKey :=
  toLex (signals.trueLabel, signals.predictedLabel)

variable (seen : List (Observation F))

theorem objectSignals_tally : (seen.foldl (Tally.observe thresholds) {}).objectSignals =
    seen.map Observation.signals := by
  induction seen using List.reverseRecOn with
  | nil => rfl
  | append_singleton seen observed ih =>
    rw [List.foldl_append, List.foldl_cons, List.foldl_nil, Tally.observe, ih, List.map_append]
    rfl

theorem confusion_tally : (seen.foldl (Tally.observe thresholds) {}).confusion =
    counter ((seen.map Observation.signals).map confusionKey) := by
  rw [tally_field Tally.confusion (fun d observed => addCount d (confusionKey observed.signals, 1))
    fun _ _ => rfl, counter, List.map_map, List.foldl_map]
  rfl

theorem classBuckets_tally : (seen.foldl (Tally.observe thresholds) {}).classBuckets =
    (seen.map fun observed => (observed.signals.trueLabel, observed.signals.labelConflict)).foldl
      observeBucket [] := by
  rw [tally_field Tally.classBuckets (fun d observed => observeBucket d
    (observed.signals.trueLabel, observed.signals.labelConflict)) fun _ _ => rfl, List.foldl_map]

theorem segmentBuckets_tally : (seen.foldl (Tally.observe thresholds) {}).segmentBuckets =
    (seen.filterMap fun observed => observed.segment.map fun segment =>
      (segment, observed.signals.labelConflict)).foldl observeBucket [] := by
  rw [tally_field Tally.segmentBuckets (fun d observed => observed.segment.elim d fun segment =>
    observeBucket d (segment, observed.signals.labelConflict)) fun _ _ => rfl, List.foldl_filterMap]
  congr 1
  funext d observed
  cases observed.segment <;> rfl

end Tallies

section Buckets

/-- The entries are the buckets of the signals, each with the counts of its own. -/
structure Buckets (key : ObjectModelErrorSignals F → Option NonEmptyStr)
    (signals : List (ObjectModelErrorSignals F)) (entries : List (ErrorConcentrationEntry F)) :
    Prop where
  distinct : (entries.map ErrorConcentrationEntry.bucket).Nodup
  every : ∀ s ∈ signals, ∀ k, key s = some k → k ∈ entries.map ErrorConcentrationEntry.bucket
  counted : ∀ entry ∈ entries, entry.total = signals.countP (fun s => key s = some entry.bucket) ∧
    entry.errors = signals.countP (fun s => key s = some entry.bucket && s.labelConflict) ∧
    entry.errorRate.1 = share entry.errors entry.total

theorem concentrationEntry_eq_ok {item : NonEmptyStr × BucketStats}
    {entry : ErrorConcentrationEntry F}
    (h : concentrationEntry item = .ok entry) : entry.bucket = item.1 ∧ entry.total = item.2.total ∧
      entry.errors = item.2.errors ∧ entry.errorRate.1 = share item.2.errors item.2.total := by
  obtain ⟨rate, hrate, h⟩ := bind_eq_ok.mp h
  obtain rfl := Except.ok.inj h
  exact ⟨rfl, rfl, rfl, scoreField_eq_ok.mp hrate⟩

variable {key : ObjectModelErrorSignals F → Option NonEmptyStr}
  {signals : List (ObjectModelErrorSignals F)}
  {entries : List (ErrorConcentrationEntry F)}

/-- The bucket of some signals, and whether they count as an error in it. -/
def bucketItem (key : ObjectModelErrorSignals F → Option NonEmptyStr)
    (s : ObjectModelErrorSignals F) :
    Option (NonEmptyStr × Bool) := (key s).map fun k => (k, s.labelConflict)

theorem bucketOf_bucketItems (k : NonEmptyStr) : bucketOf k (signals.filterMap (bucketItem key)) =
    ⟨signals.countP fun s => key s = some k, signals.countP fun s => key s = some k &&
      s.labelConflict⟩ := by
  rw [bucketOf, List.countP_filterMap, List.countP_filterMap]
  congr 1
  · apply List.countP_congr
    intro s _
    cases hkey : key s <;> simp [bucketItem, hkey]
  · apply List.countP_congr
    intro s _
    cases hkey : key s <;> simp [bucketItem, hkey]

theorem buckets_of_mapM
    (h : (sortedItems ((signals.filterMap (bucketItem key)).foldl observeBucket [])).mapM
    concentrationEntry = .ok entries) : Buckets key signals entries := by
  have hnodup := nodup_keys_buckets (signals.filterMap (bucketItem key))
  have hkeys : entries.map ErrorConcentrationEntry.bucket =
      (sortedItems ((signals.filterMap (bucketItem key)).foldl observeBucket [])).map Prod.fst :=
    map_of_mapM (fun item entry hentry => (concentrationEntry_eq_ok hentry).1) h
  have hget (k : NonEmptyStr) := get?_foldl_observeBucket k (signals.filterMap (bucketItem key))
  refine ⟨?_, fun s hs k hk => ?_, fun entry hentry => ?_⟩
  · rw [hkeys]
    exact nodup_keys_sortedItems hnodup
  · have hmem : k ∈ (signals.filterMap (bucketItem key)).map Prod.fst := by
      refine List.mem_map.mpr ⟨(k, s.labelConflict), List.mem_filterMap.mpr ⟨s, hs, ?_⟩, rfl⟩
      rw [bucketItem, hk, Option.map_some]
    rw [hkeys, ((sortedItems_perm _).map Prod.fst).mem_iff]
    by_contra hnone
    have hfound := hget k
    rw [get?_eq_none.mpr hnone, if_pos hmem] at hfound
    cases hfound
  · obtain ⟨⟨k, stats⟩, hitem, hvalue⟩ := exists_of_mem_mapM h hentry
    obtain ⟨hbucket, htotal, herrors, hrate⟩ := concentrationEntry_eq_ok hvalue
    have hstats := get?_of_mem hnodup ((sortedItems_perm _).mem_iff.mp hitem)
    rw [hget] at hstats
    split at hstats
    · obtain rfl := Option.some.inj hstats
      rw [bucketOf_bucketItems] at htotal herrors hrate
      rw [hbucket, hrate, htotal, herrors]
      exact ⟨rfl, rfl, rfl⟩
    · cases hstats

end Buckets

section Report

def conflicting (cell : ConfusionMatrixEntry) : Bool :=
  decide (cell.trueLabel ≠ cell.predictedLabel)

/-- The aggregates of a report, counted once more from its signals. -/
structure Agrees (manifest : Dict Text (ManifestRowSummary F)) (report : ModelErrorReport F) :
    Prop where
  cells : ∀ cell ∈ report.confusionMatrix, cell.count = report.objectSignals.countP fun s =>
    s.trueLabel = cell.trueLabel ∧ s.predictedLabel = cell.predictedLabel
  total : (report.confusionMatrix.map ConfusionMatrixEntry.count).sum = report.objectSignals.length
  conflicts : report.aggregateMetrics.labelConflictCount =
    ((report.confusionMatrix.filter conflicting).map ConfusionMatrixEntry.count).sum
  accuracy : report.aggregateMetrics.accuracy.1 =
    share ((report.confusionMatrix.filter fun cell => !conflicting cell).map
      ConfusionMatrixEntry.count).sum
      report.objectSignals.length
  classes : Buckets (fun s => some s.trueLabel) report.objectSignals report.classErrorConcentration
  segments : Buckets (segmentOf manifest) report.objectSignals report.segmentErrorConcentration
  ambiguous : report.aggregateMetrics.ambiguousObjectCount =
    report.objectSignals.countP fun s => ReasonCode.ambiguousObject ∈ s.reasonCodes
  probable : report.aggregateMetrics.probableLabelErrorCount =
    report.objectSignals.countP fun s => ReasonCode.probableLabelError ∈ s.reasonCodes

/-- The report of a tally. -/
structure ReportOf (thresholds : ModelErrorThresholds F) (tally : Tally F)
    (report : ModelErrorReport F) : Prop where
  signals : report.objectSignals = tally.objectSignals
  confusion : report.confusionMatrix = (sortedItems tally.confusion).map fun cell =>
    ⟨(ofLex cell.1).1, (ofLex cell.1).2, cell.2⟩
  accuracy : report.aggregateMetrics.accuracy.1 = share tally.correctCount tally.matchedCount
  conflicts : report.aggregateMetrics.labelConflictCount = tally.labelConflictCount
  ambiguous : report.aggregateMetrics.ambiguousObjectCount = tally.ambiguousCount
  probable : report.aggregateMetrics.probableLabelErrorCount = tally.probableLabelErrorCount
  segments : (sortedItems tally.segmentBuckets).mapM concentrationEntry =
    .ok report.segmentErrorConcentration
  classes : (sortedItems tally.classBuckets).mapM concentrationEntry =
    .ok report.classErrorConcentration

variable {log : F → F} {thresholds : ModelErrorThresholds F}
  {manifest : Dict Text (ManifestRowSummary F)}
  {rows : List (PredictionRow F)} {report : ModelErrorReport F}

theorem analyzeModelErrors_eq_ok
    (h : analyzeModelErrors log thresholds manifest rows = .ok report) :
    ∃ seen, rows.mapM (observation log thresholds manifest) = .ok seen ∧
      ReportOf thresholds ((seen.filterMap id).foldl (Tally.observe thresholds) {}) report := by
  obtain ⟨tally, htally, h⟩ := bind_eq_ok.mp h
  obtain ⟨accuracy, haccuracy, h⟩ := bind_eq_ok.mp h
  obtain ⟨segments, hsegments, h⟩ := bind_eq_ok.mp h
  obtain ⟨classes, hclasses, h⟩ := bind_eq_ok.mp h
  obtain rfl := Except.ok.inj h
  obtain ⟨seen, hseen, rfl⟩ := foldlM_analyzeRow htally
  exact ⟨seen, hseen, rfl, rfl, scoreField_eq_ok.mp haccuracy, rfl, rfl, rfl, hsegments, hclasses⟩

section Cells

variable (signals : List (ObjectModelErrorSignals F))

def confusionCells : List ConfusionMatrixEntry :=
  (sortedItems (counter (signals.map confusionKey))).map fun cell =>
    ⟨(ofLex cell.1).1, (ofLex cell.1).2, cell.2⟩

/-- The cells of some labels add up to the signals with such labels. -/
theorem sum_confusionCells (p : NonEmptyStr → NonEmptyStr → Bool) :
    (((confusionCells signals).filter fun cell => p cell.trueLabel cell.predictedLabel).map
      ConfusionMatrixEntry.count).sum = signals.countP fun s => p s.trueLabel s.predictedLabel := by
  have hsum := sum_filter_counter (fun k : ConfusionKey => p (ofLex k).1 (ofLex k).2)
    (signals.map confusionKey)
  rw [List.countP_map] at hsum
  rw [confusionCells, List.filter_map, List.map_map]
  refine Eq.trans ?_ hsum
  exact (((sortedItems_perm _).filter _).map Prod.snd).sum_eq

theorem count_confusionCells {cell : ConfusionMatrixEntry} (h : cell ∈ confusionCells signals) :
    cell.count = signals.countP fun s =>
      s.trueLabel = cell.trueLabel ∧ s.predictedLabel = cell.predictedLabel := by
  obtain ⟨⟨k, n⟩, hitem, rfl⟩ := List.mem_map.mp h
  have hget := get?_of_mem (nodup_keys_counter _) ((sortedItems_perm _).mem_iff.mp hitem)
  have hcount := countOf_counter_map confusionKey k signals
  rw [countOf, hget, Option.getD_some] at hcount
  rw [hcount]
  apply List.countP_congr
  intro s _
  have hkey : confusionKey s = k ↔ s.trueLabel = (ofLex k).1 ∧ s.predictedLabel = (ofLex k).2 := by
    constructor
    · rintro rfl
      exact ⟨rfl, rfl⟩
    · rintro ⟨htrue, hpredicted⟩
      exact congrArg toLex (Prod.ext htrue hpredicted)
  rw [decide_eq_true_iff, decide_eq_true_iff]
  exact hkey

end Cells

section Parts

variable {seen : List (Observation F)}
  (hreport : ReportOf thresholds (seen.foldl (Tally.observe thresholds) {}) report)

include hreport

theorem signals_report : report.objectSignals = seen.map Observation.signals :=
  hreport.signals.trans (objectSignals_tally seen)

theorem confusion_report : report.confusionMatrix = confusionCells report.objectSignals := by
  rw [hreport.confusion, confusion_tally, signals_report hreport, confusionCells]

theorem probable_report : report.aggregateMetrics.probableLabelErrorCount =
    report.objectSignals.countP (isProbableLabelError thresholds) := by
  rw [hreport.probable, signals_report hreport]
  exact tally_count Tally.probableLabelErrorCount _ rfl (fun _ _ => rfl) seen

theorem classes_report :
    Buckets (fun s => some s.trueLabel) report.objectSignals report.classErrorConcentration := by
  have hclasses := hreport.classes
  rw [classBuckets_tally] at hclasses
  apply buckets_of_mapM
  rw [signals_report hreport, List.filterMap_map]
  rw [← List.filterMap_eq_map] at hclasses
  exact hclasses

variable (hobserved : ∀ observed ∈ seen, Observed thresholds manifest observed)

include hobserved

theorem segments_report :
    Buckets (segmentOf manifest) report.objectSignals report.segmentErrorConcentration := by
  have hsegments := hreport.segments
  rw [segmentBuckets_tally] at hsegments
  apply buckets_of_mapM
  rw [signals_report hreport, List.filterMap_map]
  have hitems : seen.filterMap (bucketItem (segmentOf manifest) ∘ Observation.signals) =
      seen.filterMap fun observed => observed.segment.map fun segment =>
        (segment, observed.signals.labelConflict) := by
    apply List.filterMap_congr
    intro observed hmem
    rw [Function.comp_apply, bucketItem, (hobserved observed hmem).segment]
  rw [hitems]
  exact hsegments

theorem conflict_report : ∀ s ∈ report.objectSignals,
    s.labelConflict = decide (s.trueLabel ≠ s.predictedLabel) := by
  rw [signals_report hreport]
  exact List.forall_mem_map.mpr fun observed hmem => (hobserved observed hmem).conflict

theorem conflicts_report : report.aggregateMetrics.labelConflictCount =
    ((report.confusionMatrix.filter conflicting).map ConfusionMatrixEntry.count).sum := by
  have hcount : report.aggregateMetrics.labelConflictCount =
      report.objectSignals.countP ObjectModelErrorSignals.labelConflict := by
    rw [hreport.conflicts, signals_report hreport]
    exact tally_count Tally.labelConflictCount _ rfl (fun _ _ => rfl) seen
  have hsum := sum_confusionCells report.objectSignals fun t p => decide (t ≠ p)
  rw [confusion_report hreport, hcount]
  refine Eq.trans (List.countP_congr fun s hs => ?_) hsum.symm
  rw [conflict_report hreport hobserved s hs]

theorem accuracy_report : report.aggregateMetrics.accuracy.1 =
    share ((report.confusionMatrix.filter fun cell => !conflicting cell).map
      ConfusionMatrixEntry.count).sum
      report.objectSignals.length := by
  have hcorrect : (seen.foldl (Tally.observe thresholds) {}).correctCount =
      report.objectSignals.countP fun s => !s.labelConflict := by
    rw [signals_report hreport]
    exact tally_count Tally.correctCount (fun s => !s.labelConflict) rfl (fun _ _ => rfl) seen
  have hmatched : (seen.foldl (Tally.observe thresholds) {}).matchedCount =
      report.objectSignals.length := by
    have hcount : (seen.foldl (Tally.observe thresholds) {}).matchedCount =
        (seen.map Observation.signals).countP fun _ => true :=
      tally_count Tally.matchedCount (fun _ => true) rfl (fun _ _ => rfl) seen
    rw [hcount, List.countP_true, signals_report hreport]
  have hsum := sum_confusionCells report.objectSignals fun t p => !decide (t ≠ p)
  rw [hreport.accuracy, hcorrect, hmatched, confusion_report hreport]
  congr 1
  refine Eq.trans (List.countP_congr fun s hs => ?_) hsum.symm
  rw [conflict_report hreport hobserved s hs]

theorem ambiguous_report : report.aggregateMetrics.ambiguousObjectCount =
    report.objectSignals.countP fun s => ReasonCode.ambiguousObject ∈ s.reasonCodes := by
  have hcount : report.aggregateMetrics.ambiguousObjectCount =
      report.objectSignals.countP (isAmbiguous thresholds) := by
    rw [hreport.ambiguous, signals_report hreport]
    exact tally_count Tally.ambiguousCount _ rfl (fun _ _ => rfl) seen
  rw [hcount, signals_report hreport]
  apply List.countP_congr
  refine List.forall_mem_map.mpr fun observed hmem => ?_
  rw [decide_eq_true_iff]
  exact (hobserved observed hmem).ambiguous.symm

/-- The signals that carry the reason are those of a high confidence. -/
theorem reason_report :
    (report.objectSignals.countP fun s => ReasonCode.probableLabelError ∈ s.reasonCodes) =
    report.objectSignals.countP (isHighConfidenceError thresholds) := by
  rw [signals_report hreport]
  apply List.countP_congr
  refine List.forall_mem_map.mpr fun observed hmem => ?_
  rw [decide_eq_true_iff]
  exact (hobserved observed hmem).probable

theorem probable_report_iff : (report.aggregateMetrics.probableLabelErrorCount =
    report.objectSignals.countP fun s => ReasonCode.probableLabelError ∈ s.reasonCodes) ↔
      ∀ observed ∈ seen, isProbableLabelError thresholds observed.signals = true →
        isHighConfidenceError thresholds observed.signals = true := by
  rw [reason_report hreport hobserved, probable_report hreport, countP_eq_countP_iff,
    signals_report hreport, List.forall_mem_map]
  intro s _ hhigh
  rw [isHighConfidenceError, Bool.and_eq_true] at hhigh
  rw [isProbableLabelError, hhigh.1, hhigh.2]
  rfl

end Parts

/-- The aggregates agree with the signals exactly when no conflict has a large margin and
a low confidence. -/
theorem aggregates_agree_iff (h : analyzeModelErrors log thresholds manifest rows = .ok report) :
    Agrees manifest report ↔ ∀ row ∈ rows, ¬ MissedByReason thresholds manifest row := by
  obtain ⟨seen, hseen, hreport⟩ := analyzeModelErrors_eq_ok h
  have hobserved := observed_of_mapM hseen
  rw [forall_observed_iff hseen, ← probable_report_iff hreport hobserved]
  have htotal := sum_confusionCells report.objectSignals fun _ _ => true
  rw [List.countP_true, List.filter_true, ← confusion_report hreport] at htotal
  constructor
  · exact fun hagrees => hagrees.probable
  · intro hprobable
    refine ⟨fun cell hcell => ?_, htotal, conflicts_report hreport hobserved,
      accuracy_report hreport hobserved, classes_report hreport, segments_report hreport hobserved,
      ambiguous_report hreport hobserved, hprobable⟩
    rw [confusion_report hreport] at hcell
    exact count_confusionCells _ hcell

end Report

section Example

/-- `math.log` of the numbers that the example takes it of. -/
def naturalLog (x : ℚ) : ℚ :=
  if x = 2 then 6931471805599453 / 10000000000000000
  else if x = 4 / 5 then -2231435513142097 / 10000000000000000
  else if x = 1 / 5 then -16094379124341003 / 10000000000000000
  else 0

/-- A payment that is labelled `0` and predicted `1`, four to one. -/
def conflictingRow : PredictionRow ℚ where
  objectId := literal "o1"
  trueLabel := literal "0"
  predictedLabel := literal "1"
  predictedProba :=
    ⟨[("1".toList, Score.fraction 8 1), ("0".toList, Score.fraction 2 1)], by decide⟩

def labelled : Dict Text (ManifestRowSummary ℚ) :=
  [("o1".toList, ⟨some "0".toList, none, none, none⟩)]

def conflictingReport : Result (ModelErrorReport ℚ) :=
  analyzeModelErrors naturalLog {} labelled [conflictingRow]

theorem conflictingReport_ok : ∃ report, conflictingReport = .ok report ∧
    report.aggregateMetrics.probableLabelErrorCount = 1 ∧
    (report.objectSignals.countP fun s => ReasonCode.probableLabelError ∈ s.reasonCodes) = 0 := by
  have hrun : conflictingReport.toOption.any (fun report =>
      decide (report.aggregateMetrics.probableLabelErrorCount = 1 ∧
        (report.objectSignals.countP fun s => ReasonCode.probableLabelError ∈ s.reasonCodes) = 0)) =
        true := by
    decide +kernel
  cases hreport : conflictingReport with
  | error e =>
    rw [hreport] at hrun
    cases hrun
  | ok report =>
    rw [hreport] at hrun
    exact ⟨report, rfl, of_decide_eq_true hrun⟩

theorem aggregates_agree_conflicting : ∃ report, conflictingReport = .ok report ∧
    (Agrees labelled report ↔ ∀ row ∈ [conflictingRow], ¬ MissedByReason {} labelled row) := by
  obtain ⟨report, hreport, -⟩ := conflictingReport_ok
  exact ⟨report, hreport, aggregates_agree_iff hreport⟩

/-- The conflict has a large margin and not enough confidence: it is counted, and no signal
says why. -/
theorem conflict_without_reason : ¬ ∀ (log : ℚ → ℚ) (thresholds : ModelErrorThresholds ℚ)
    (manifest : Dict Text (ManifestRowSummary ℚ)) (rows : List (PredictionRow ℚ))
    (report : ModelErrorReport ℚ), analyzeModelErrors log thresholds manifest rows = .ok report →
    Agrees manifest report := by
  intro h
  obtain ⟨report, hreport, hcount, hnone⟩ := conflictingReport_ok
  have hprobable := (h naturalLog {} labelled [conflictingRow] report hreport).probable
  rw [hcount, hnone] at hprobable
  exact absurd hprobable (by decide)

end Example

end DataForge.Plugins.Predictions.Agreement
