import DataForge.Kernel.ModelImpact
import Mathlib.Data.Option.Defs

namespace DataForge.Kernel.VerdictOrder

open DataForge.Foundation.Strings
open DataForge.Foundation.Outcome
open DataForge.Foundation.Numbers
open DataForge.Foundation.Scores
open DataForge.Foundation.Tables
open DataForge.Domain.Common
open DataForge.Domain.ExportPackage
open DataForge.Domain.Splits
open DataForge.Kernel.ModelImpact
open DataForge.Plugins.Tabular.Sources
open FloatLike ScoreLike MetricLike

section Verdict

/-- `REJECTED < DEGRADED < REQUIRES_REVIEW < IMPROVED` -/
def rank : ModelImpactVerdict → Nat
  | .rejected => 0
  | .degraded => 1
  | .requiresReview => 2
  | .improved => 3

/-- Every metric gains as much at least, and the PR-AUC is there in both or in neither. -/
structure AtMost (first second : MetricDeltas ℚ) : Prop where
  rareClassRecall : first.rareClassRecall ≤ second.rareClassRecall
  macroF1 : first.macroF1 ≤ second.macroF1
  weightedF1 : first.weightedF1 ≤ second.weightedF1
  prAuc : Option.Rel (· ≤ ·) first.prAuc second.prAuc

variable {x y threshold : ℚ}

theorem dropped_rat : dropped x threshold = true ↔ x ≤ -threshold := by
  change decide (x ≤ ((0 : Int) : ℚ) - threshold) = true ↔ _
  rw [decide_eq_true_iff, Int.cast_zero, zero_sub]

theorem kept_rat : kept x = true ↔ 0 ≤ x := by
  change decide (((0 : Int) : ℚ) ≤ x) = true ↔ _
  rw [decide_eq_true_iff, Int.cast_zero]

theorem raised_rat : raised x = true ↔ 0 < x := by
  change decide (((0 : Int) : ℚ) < x) = true ↔ _
  rw [decide_eq_true_iff, Int.cast_zero]

theorem dropped_of_le (hle : x ≤ y) (h : dropped y threshold = true) :
    dropped x threshold = true := by
  rw [dropped_rat] at h ⊢
  exact hle.trans h

theorem kept_of_le (hle : x ≤ y) (h : kept x = true) : kept y = true := by
  rw [kept_rat] at h ⊢
  exact h.trans hle

theorem raised_of_le (hle : x ≤ y) (h : raised x = true) : raised y = true := by
  rw [raised_rat] at h ⊢
  exact h.trans_le hle

variable {first second deltas : MetricDeltas ℚ} {drops : DegradedDrops ℚ}

theorem codeIf_eq_nil {condition : Bool} {code : String} :
    codeIf condition code = [] ↔ condition = false := by
  cases condition <;> simp [codeIf]

theorem degradedReasons_eq_nil : degradedReasons deltas drops = [] ↔
    dropped deltas.rareClassRecall drops.rareClassRecall =
      false ∧ dropped deltas.macroF1 drops.macroF1 = false ∧
      dropped deltas.weightedF1 drops.weightedF1 = false ∧
      (deltas.prAuc.any fun delta => dropped delta drops.prAuc) = false := by
  simp only [degradedReasons, weightedAndPrAucDegraded, List.append_eq_nil_iff, codeIf_eq_nil,
    and_assoc]

theorem not_dropped_of_le (hle : x ≤ y) (h : dropped x threshold = false) :
    dropped y threshold = false := by
  rw [← Bool.not_eq_true] at h ⊢
  exact mt (dropped_of_le hle) h

theorem degradedReasons_of_atMost (hle : AtMost first second)
    (h : degradedReasons first drops = []) : degradedReasons second drops = [] := by
  rw [degradedReasons_eq_nil] at h ⊢
  obtain ⟨hrare, hmacro, hweighted, hprAuc⟩ := h
  refine ⟨not_dropped_of_le hle.rareClassRecall hrare, not_dropped_of_le hle.macroF1 hmacro,
    not_dropped_of_le hle.weightedF1 hweighted, ?_⟩
  have hrel := hle.prAuc
  cases hfirst : first.prAuc with
  | none =>
    rw [hfirst] at hrel
    cases hsecond : second.prAuc with
    | none => rfl
    | some delta =>
      rw [hsecond] at hrel
      cases hrel
  | some delta =>
    rw [hfirst] at hrel hprAuc
    cases hsecond : second.prAuc with
    | none => rfl
    | some delta' =>
      rw [hsecond] at hrel
      cases hrel with
      | some hdelta => exact not_dropped_of_le hdelta hprAuc

theorem improves_of_atMost (hle : AtMost first second) (h : improves first = true) :
    improves second = true := by
  simp only [improves, Bool.and_eq_true] at h ⊢
  obtain ⟨⟨⟨hrare, hmacro⟩, hweighted⟩, hprAuc⟩ := h
  refine ⟨⟨⟨raised_of_le hle.rareClassRecall hrare, kept_of_le hle.macroF1 hmacro⟩,
    kept_of_le hle.weightedF1 hweighted⟩, ?_⟩
  have hrel := hle.prAuc
  cases hsecond : second.prAuc with
  | none => rfl
  | some delta =>
    rw [hsecond] at hrel
    cases hfirst : first.prAuc with
    | none =>
      rw [hfirst] at hrel
      cases hrel
    | some delta' =>
      rw [hfirst] at hrel hprAuc
      cases hrel with
      | some hdelta => exact kept_of_le hdelta hprAuc

/-- The verdict without its reasons: that nothing changed is not told from a mixed movement. -/
theorem verdict_eq (deltas : MetricDeltas ℚ) (drops : DegradedDrops ℚ) :
    (classifyVerdict deltas drops false).1 =
      if degradedReasons deltas drops ≠ [] then .degraded
      else if improves deltas then .improved else .requiresReview := by
  rw [classifyVerdict, if_neg (by decide)]
  split_ifs <;> rfl

theorem verdict_blocked (deltas : MetricDeltas ℚ) (drops : DegradedDrops ℚ) :
    (classifyVerdict deltas drops true).1 = .rejected := by
  rw [classifyVerdict, if_pos rfl]

theorem rank_le_of_atMost (blockerPresent : Bool) (hle : AtMost first second) :
    rank (classifyVerdict first drops blockerPresent).1 ≤
      rank (classifyVerdict second drops blockerPresent).1 := by
  cases blockerPresent with
  | true =>
    rw [verdict_blocked, verdict_blocked]
  | false =>
    rw [verdict_eq first, verdict_eq second]
    by_cases hfirst : degradedReasons first drops = []
    · rw [if_neg (not_not.mpr hfirst), if_neg (not_not.mpr (degradedReasons_of_atMost hle hfirst))]
      by_cases himproves : improves first = true
      · rw [if_pos himproves, if_pos (improves_of_atMost hle himproves)]
      · rw [if_neg himproves]
        split <;> decide
    · rw [if_pos hfirst]
      split
      · exact le_refl _
      · split <;> decide

end Verdict

section Recommendation

variable {candidateIsSynthetic blockerPresent : Bool} {verdict : ModelImpactVerdict}
  {deltas : MetricDeltas ℚ} {drops : DegradedDrops ℚ} {tstrTrts : TstrTrtsMetrics ℚ}

theorem recommended_only
    (h : (classifySyntheticUtility candidateIsSynthetic verdict deltas drops tstrTrts
    blockerPresent).1 = .recommended) : candidateIsSynthetic = true ∧ verdict = .improved ∧
      blockerPresent = false ∧ tstrTrts.status = .available ∧
      exceeds tstrTrts.tstrMacroF1Drop tstrTrts.tstrMacroF1Threshold = false ∧
      exceeds (tstrTrts.trtsMacroF1Delta.map FloatLike.abs) tstrTrts.trtsUnstableThreshold =
        false := by
  simp only [classifySyntheticUtility] at h
  split at h
  · cases h
  · next hsynthetic =>
    split at h
    · cases h
    · next hblocker =>
      split at h
      · cases h
      · split at h
        · cases h
        · next hstatus =>
          split at h
          · cases h
          · next hdrop =>
            split at h
            · cases h
            · next hdelta =>
              split at h
              · next himproved =>
                exact ⟨by simpa using hsynthetic, himproved.1, by simpa using hblocker,
                  not_not.mp hstatus, by simpa using hdrop, by simpa using hdelta⟩
              · cases h

theorem exceeds_rat {value threshold : ℚ} :
    exceeds (some value) (some threshold) = false ↔ value ≤ threshold := by
  change decide (threshold < value) = false ↔ _
  rw [decide_eq_false_iff_not, not_lt]

theorem abs_rat (x : ℚ) : FloatLike.abs x = |x| := by
  change (if decide (x < ((0 : Int) : ℚ)) = true then ((0 : Int) : ℚ) - x else x) = |x|
  rw [Int.cast_zero, zero_sub]
  by_cases h : x < 0
  · rw [if_pos (decide_eq_true h), abs_of_neg h]
  · rw [if_neg (by simpa using h), abs_of_nonneg (not_lt.mp h)]

/-- The metrics are available with both comparisons, each under its threshold. -/
structure WithinThresholds (request : RunModelImpactRequest ℚ) (tstrTrts : TstrTrtsMetrics ℚ) :
    Prop where
  status : tstrTrts.status = .available
  drop : ∃ drop, tstrTrts.tstrMacroF1Drop = some drop ∧ drop ≤ request.tstrMacroF1Threshold
  delta : ∃ delta, tstrTrts.trtsMacroF1Delta = some delta ∧ |delta| ≤ request.trtsUnstableThreshold

variable {fit : Learner ℚ} {request : RunModelImpactRequest ℚ} {rows : ImpactRows}
  {baseline candidate : ℚ}

theorem unavailableReason_eq_nil {name : String} {metrics : Except String (ClassificationMetrics ℚ)}
    (h : unavailableReason name metrics = []) : ∃ found, metrics = .ok found := by
  cases metrics with
  | ok found => exact ⟨found, rfl⟩
  | error reason => cases h

/-- The metrics that the runner passes on as available have both comparisons and the thresholds of
the request. -/
theorem available_of_compute
    (h : computeTstrTrts fit request rows baseline candidate = .ok tstrTrts)
    (hstatus : tstrTrts.status = .available) :
    (∃ drop, tstrTrts.tstrMacroF1Drop = some drop) ∧
      (∃ delta, tstrTrts.trtsMacroF1Delta = some delta) ∧
      tstrTrts.tstrMacroF1Threshold = some request.tstrMacroF1Threshold ∧
      tstrTrts.trtsUnstableThreshold = some request.trtsUnstableThreshold := by
  simp only [computeTstrTrts] at h
  split at h
  · obtain rfl := Except.ok.inj h
    cases hstatus
  · split at h
    · obtain rfl := Except.ok.inj h
      cases hstatus
    · obtain ⟨tstr, -, h⟩ := bind_eq_ok.mp h
      obtain ⟨trts, -, h⟩ := bind_eq_ok.mp h
      obtain rfl := Except.ok.inj h
      have hnone : unavailableReason "tstr" tstr ++ unavailableReason "trts" trts = [] := by
        by_contra hne
        rw [if_neg hne] at hstatus
        cases hstatus
      obtain ⟨htstr, htrts⟩ := List.append_eq_nil_iff.mp hnone
      obtain ⟨tstr, rfl⟩ := unavailableReason_eq_nil htstr
      obtain ⟨trts, rfl⟩ := unavailableReason_eq_nil htrts
      exact ⟨⟨_, rfl⟩, ⟨_, rfl⟩, rfl, rfl⟩

theorem within_of_recommended
    (h : computeTstrTrts fit request rows baseline candidate = .ok tstrTrts)
    (hrecommended : (classifySyntheticUtility candidateIsSynthetic verdict deltas drops tstrTrts
      blockerPresent).1 = .recommended) : WithinThresholds request tstrTrts := by
  obtain ⟨-, -, -, hstatus, hdrop, hdelta⟩ := recommended_only hrecommended
  obtain ⟨⟨drop, hsome⟩, ⟨delta, hsome'⟩, hthreshold, hunstable⟩ := available_of_compute h hstatus
  rw [hsome, hthreshold, exceeds_rat] at hdrop
  rw [hsome', hunstable, Option.map_some, exceeds_rat, abs_rat] at hdelta
  exact ⟨hstatus, ⟨drop, hsome, hdrop⟩, ⟨delta, hsome', hdelta⟩⟩

theorem runModelImpact_computed {report : ModelImpactReport ℚ}
    (h : runModelImpact fit request = .ok report) :
    ∃ deltas tstrTrts baseline candidate,
      computeTstrTrts fit request (impactRows request) baseline candidate = .ok tstrTrts ∧
      report = modelImpactReport request deltas tstrTrts := by
  obtain ⟨_, -, h⟩ := bind_eq_ok.mp h
  obtain ⟨_, -, h⟩ := bind_eq_ok.mp h
  obtain ⟨baseline, -, h⟩ := bind_eq_ok.mp h
  obtain ⟨candidate, -, h⟩ := bind_eq_ok.mp h
  obtain ⟨tstrTrts, htstrTrts, h⟩ := bind_eq_ok.mp h
  exact ⟨_, tstrTrts, _, _, htstrTrts, (Except.ok.inj h).symm⟩

end Recommendation

/-- Metrics that gain never lower the verdict, a blocker rejects, and what a run recommends is within all
thresholds. -/
theorem verdict_ordered_recommendation_sound :
    (∀ (drops : DegradedDrops ℚ) (blockerPresent : Bool) (first second : MetricDeltas ℚ),
      AtMost first second →
      rank (classifyVerdict first drops blockerPresent).1 ≤
        rank (classifyVerdict second drops blockerPresent).1) ∧
    (∀ (deltas : MetricDeltas ℚ) (drops : DegradedDrops ℚ),
      (classifyVerdict deltas drops true).1 = .rejected) ∧
    ∀ (fit : Learner ℚ) (request : RunModelImpactRequest ℚ) (report : ModelImpactReport ℚ),
      runModelImpact fit request = .ok report → report.syntheticUtilityStatus = .recommended →
        report.verdict = .improved ∧ request.validationGatesBlockerPresent = false ∧
          WithinThresholds request report.tstrTrts := by
  refine ⟨fun drops blockerPresent first second => rank_le_of_atMost blockerPresent,
    verdict_blocked, ?_⟩
  intro fit request report h hrecommended
  obtain ⟨deltas, tstrTrts, baseline, candidate, hcomputed, rfl⟩ := runModelImpact_computed h
  obtain ⟨-, hverdict, hblocker, -⟩ := recommended_only hrecommended
  exact ⟨hverdict, hblocker, within_of_recommended hcomputed hrecommended⟩

section Examples

/-- Metrics that gain with the number of rows that are trained on. -/
def countingLearner : Learner ℚ := fun _ trainRows _ =>
  .ok ⟨trainRows.length / 10, 1 / 2, 1 / 2, none⟩

def sourceTable : Table where
  header := ["object_id".toList, "x".toList, "y".toList]
  lines := [["o1".toList, "1".toList, "a".toList], ["o2".toList, "2".toList, "b".toList],
    ["o3".toList, "3".toList, "a".toList]]

/-- The source with two synthetic rows. -/
def augmentedTable : Table where
  header := ["object_id".toList, "x".toList, "y".toList, "is_synthetic".toList]
  lines := [["o1".toList, "1".toList, "a".toList, "0".toList],
    ["o2".toList, "2".toList, "b".toList, "0".toList],
    ["o3".toList, "3".toList, "a".toList, "0".toList], ["o4".toList, "1".toList, "a".toList, "1".toList],
    ["o5".toList, "2".toList, "b".toList, "1".toList]]

def manifestOf (assignments : List SplitAssignment) : SplitManifest where
  splitManifestId := "split".toList
  targetColumn := literal "y"
  seed := 42
  groupKey := none
  assignments := assignments
  classDistribution := []

def sourceAssignments : List SplitAssignment :=
  [⟨literal "o1", .train, literal "a", none⟩,
    ⟨literal "o2", .train, literal "b", none⟩,
    ⟨literal "o3", .test, literal "a", none⟩]

def syntheticAssignments : List SplitAssignment :=
  [⟨literal "o4", .train, literal "a", none⟩,
    ⟨literal "o5", .train, literal "b", none⟩]

def augmentedRequest : RunModelImpactRequest ℚ where
  sourceArtifact := sourceTable
  candidateArtifact := augmentedTable
  sourceSplitManifest := manifestOf sourceAssignments
  candidateSplitManifest := manifestOf (sourceAssignments ++ syntheticAssignments)
  featureColumns := ⟨[literal "x"], one_feature⟩
  targetColumn := literal "y"
  rareClassLabel := literal "b"
  candidateIsSynthetic := true
  validationGatesBlockerPresent := false
  randomSeed := 42
  tstrMacroF1Threshold := 1 / 10
  trtsUnstableThreshold := 2 / 10
  degradedDrops := ⟨5 / 100, 3 / 100, 3 / 100, 3 / 100⟩

theorem augmented_run_recommended :
    ∃ report, runModelImpact countingLearner augmentedRequest = .ok report ∧
    report.verdict = .improved ∧ WithinThresholds augmentedRequest report.tstrTrts := by
  have hstatus : (runModelImpact countingLearner augmentedRequest).toOption.map
      ModelImpactReport.syntheticUtilityStatus = some .recommended := by decide +kernel
  cases hrun : runModelImpact countingLearner augmentedRequest with
  | error e =>
    rw [hrun] at hstatus
    cases hstatus
  | ok report =>
    rw [hrun] at hstatus
    have hsound :=
      verdict_ordered_recommendation_sound.2.2 countingLearner augmentedRequest report hrun
      (Option.some.inj hstatus)
    exact ⟨report, rfl, hsound.1, hsound.2.2⟩

end Examples

end DataForge.Kernel.VerdictOrder
