import DataForge.Domain.ModelError
import DataForge.Foundation.Entropy
import DataForge.Foundation.Reals
import DataForge.Plugins.Predictions.Agreement

namespace DataForge.Plugins.Predictions.SignalRanges

open DataForge.Foundation.Strings
open DataForge.Foundation.Outcome
open DataForge.Foundation.Failures
open DataForge.Foundation.Dictionary
open DataForge.Foundation.Grouping
open DataForge.Foundation.Canonical
open DataForge.Foundation.Numbers
open DataForge.Foundation.Scores
open DataForge.Foundation.Reals
open DataForge.Foundation.Entropy
open DataForge.Domain.Common
open DataForge.Domain.ModelError
open DataForge.Domain.PredictionChecks
open DataForge.Domain.Passport (scoreField scoreField_eq_ok)
open DataForge.Plugins.Predictions.Analyzer hiding entropy
open DataForge.Plugins.Predictions.Agreement
open FloatLike ScoreLike

theorem scoreField_ok {F : Type} [ScoreLike F] {model name : String} {x : F} (h : InRange 1 x) :
    scoreField model name x = .ok ⟨x, h⟩ := scoreField_eq_ok.mpr rfl

section Figures

variable {row : PredictionRow ℝ}

theorem probabilities_perm (row : PredictionRow ℝ) : (probabilities row).Perm (weights row) :=
  List.perm_insertionSort _ _

theorem mem_weights {p : ℝ} (h : p ∈ weights row) : 0 ≤ p ∧ p ≤ 1 := by
  obtain ⟨item, -, rfl⟩ := List.mem_map.mp h
  have hrange := inRange_real.mp item.2.2
  exact ⟨hrange.1, by exact_mod_cast hrange.2⟩

theorem mem_probabilities {p : ℝ} (h : p ∈ probabilities row) : 0 ≤ p ∧ p ≤ 1 :=
  mem_weights ((probabilities_perm row).mem_iff.mp h)

theorem confidence_mem (row : PredictionRow ℝ) : InRange 1 (confidence row) := by
  have hmem := mem_probabilities (List.head_mem (probabilities_ne_nil row))
  exact inRange_real.mpr ⟨hmem.1, by exact_mod_cast hmem.2⟩

theorem not_lt_iff {p q : ℝ} : (!lt p q) = true ↔ q ≤ p := by
  rw [Bool.not_eq_true', not_lt_real]

theorem pairwise_probabilities (row : PredictionRow ℝ) :
    (probabilities row).Pairwise fun p q => q ≤ p := by
  have : Std.Total fun p q : ℝ => (!lt p q) = true := ⟨fun p q => by
    rw [not_lt_iff, not_lt_iff]
    exact le_total q p⟩
  have : IsTrans ℝ fun p q => (!lt p q) = true := ⟨fun p q r hpq hqr => by
    rw [not_lt_iff] at hpq hqr ⊢
    exact hqr.trans hpq⟩
  have hsorted := List.pairwise_insertionSort (fun p q : ℝ => (!lt p q) = true) (weights row)
  exact hsorted.imp not_lt_iff.mp

theorem margin_mem (row : PredictionRow ℝ) : InRange 1 (margin row) := by
  have hsorted := pairwise_probabilities row
  have hmem : ∀ p ∈ probabilities row, 0 ≤ p ∧ p ≤ 1 := fun p => mem_probabilities
  rw [inRange_real, margin]
  split
  · next first second rest heq =>
    rw [heq] at hsorted hmem
    have horder := List.rel_of_pairwise_cons hsorted List.mem_cons_self
    have hfirst := hmem first List.mem_cons_self
    have hsecond := hmem second (List.mem_cons_of_mem _ List.mem_cons_self)
    change 0 ≤ first - second ∧ first - second ≤ _
    push_cast
    constructor <;> linarith
  · change (0 : ℝ) ≤ ((1 : Int) : ℝ) ∧ ((1 : Int) : ℝ) ≤ ((1 : Int) : ℝ)
    rw [Int.cast_one]
    exact ⟨zero_le_one, le_refl 1⟩

/-- Weights of zero add nothing, so the loop may leave them out. -/
theorem foldl_entropy (ps : List ℝ) (e : ℝ) (h : ∀ p ∈ ps, 0 ≤ p) :
    ps.foldl (fun e p => if lt (ofInt 0) p then sub e (mul p (Real.log p)) else e) e =
      e + entropy ps := by
  induction ps generalizing e with
  | nil => simp [entropy]
  | cons p ps ih =>
    rw [List.forall_mem_cons] at h
    rw [List.foldl_cons, ih _ h.2, entropy, entropy, List.map_cons, List.sum_cons, Real.negMulLog]
    by_cases hp : 0 < p
    · have hlt : lt (ofInt 0) p = true := by
        rw [lt_real, ofInt_real, Int.cast_zero]
        exact hp
      rw [if_pos hlt]
      change e - p * Real.log p + _ = _
      ring
    · have hlt : ¬ lt (ofInt 0) p = true := by
        rw [lt_real, ofInt_real, Int.cast_zero]
        exact hp
      rw [if_neg hlt, le_antisymm (not_lt.mp hp) h.1]
      ring

theorem entropy_eq_weights (row : PredictionRow ℝ) :
    Analyzer.entropy Real.log row = entropy (weights row) := by
  have hzero : (ofInt 0 : ℝ) = 0 := Int.cast_zero
  have hfold := foldl_entropy (probabilities row) (ofInt 0) fun p hp => (mem_probabilities hp).1
  rw [Analyzer.entropy, hfold, hzero, zero_add]
  exact ((probabilities_perm row).map Real.negMulLog).sum_eq

theorem entropy_row_nonneg (row : PredictionRow ℝ) : 0 ≤ Analyzer.entropy Real.log row := by
  rw [entropy_eq_weights]
  exact entropy_nonneg fun p => mem_weights

/-- The logarithm that the entropy is divided by, one for a single class. -/
noncomputable def scale (row : PredictionRow ℝ) : ℝ :=
  if 1 < (weights row).length then Real.log (weights row).length else 1

theorem scale_pos (row : PredictionRow ℝ) : 0 < scale row := by
  rw [scale]
  split
  · next h => exact Real.log_pos (by exact_mod_cast h)
  · exact one_pos

theorem normalizedEntropy_eq (row : PredictionRow ℝ) :
    normalizedEntropy Real.log row = entropy (weights row) / scale row := by
  have hscale : (if 1 < (probabilities row).length then Real.log (ofInt (probabilities row).length)
      else ofInt 1) = scale row := by
    rw [scale, (probabilities_perm row).length_eq, ofInt_real, ofInt_real]
    norm_cast
  have hpos : lt (ofInt 0) (scale row) = true := by
    rw [lt_real, ofInt_real, Int.cast_zero]
    exact scale_pos row
  rw [normalizedEntropy]
  simp only [hscale]
  rw [if_pos hpos, entropy_eq_weights]
  rfl

theorem normalizedEntropy_nonneg (row : PredictionRow ℝ) : 0 ≤ normalizedEntropy Real.log row := by
  rw [normalizedEntropy_eq]
  exact div_nonneg (entropy_nonneg fun p => mem_weights) (scale_pos row).le

/-- What the sum of the probabilities adds to their entropy is made up for by their distance from
the uniform distribution. -/
def Bounded (row : PredictionRow ℝ) : Prop :=
  (weights row).length ≤ 1 ∨ excess (weights row) ≤ divergence (weights row)

theorem normalizedEntropy_le_one_iff (hsum : 0 < (weights row).sum) :
    normalizedEntropy Real.log row ≤ 1 ↔ Bounded row := by
  rw [normalizedEntropy_eq, div_le_one (scale_pos row), Bounded, scale]
  by_cases hlength : 1 < (weights row).length
  · rw [if_pos hlength, entropy_le_log_iff hsum, or_iff_right (not_le.mpr hlength)]
  · rw [if_neg hlength]
    refine iff_of_true ?_ (Or.inl (not_lt.mp hlength))
    obtain ⟨p, hp⟩ : ∃ p, weights row = [p] := by
      apply List.length_eq_one_iff.mp
      have hne : 0 < (weights row).length := by
        rw [weights, List.length_map]
        exact List.length_pos_iff.mpr row.predictedProba.2
      omega
    have hmem : p ∈ weights row := hp ▸ List.mem_singleton_self p
    have hle := Real.negMulLog_le_one_sub_self (mem_weights hmem).1
    rw [hp, entropy, List.map_singleton, List.sum_singleton]
    linarith [(mem_weights hmem).1]

end Figures

section Accepted

variable {row : PredictionRow ℝ}

theorem sum_of_accepted (h : Accepted row) : |(weights row).sum - 1| ≤ 1 / 10 ^ 6 := by
  obtain ⟨confidence, h⟩ := h
  obtain ⟨_, hsum, -⟩ := bind_eq_ok.mp h
  have hsum := guardOk_eq_ok.mp hsum
  rw [not_lt_real, abs_real, sum_real, ofInt_real, Int.cast_one] at hsum
  have hdecimal : (decimal 1 6 : ℝ) = 1 / 10 ^ 6 := by
    change ((1 : Int) : ℝ) / 10 ^ 6 = _
    rw [Int.cast_one]
  rwa [hdecimal] at hsum

theorem sum_pos (h : Accepted row) : 0 < (weights row).sum := by
  have hclose := (abs_le.mp (sum_of_accepted h)).1
  norm_num at hclose
  linarith

/-- Whatever the probabilities, a sum of one is bounded, so are a sum above one of two of them and a
sum below one of more. -/
theorem bounded_of_sum (h : Accepted row) (hside : (weights row).sum = 1 ∨
    (weights row).length = 2 ∧ 1 ≤ (weights row).sum ∨
    3 ≤ (weights row).length ∧ (weights row).sum ≤ 1) : Bounded row := by
  have hpos := sum_pos h
  have hdivergence := divergence_nonneg (fun p hp => (mem_weights hp).1) hpos
  have hexcess : excess (weights row) ≤ 0 := by
    obtain hsum | ⟨hlength, hsum⟩ | ⟨hlength, hsum⟩ := hside
    · exact (excess_of_sum hsum).le
    · exact excess_two_nonpos hlength hsum
    · exact excess_three_nonpos hlength hpos hsum
  exact Or.inr (hexcess.trans hdivergence)

end Accepted

section Signals

variable {row : PredictionRow ℝ} {thresholds : ModelErrorThresholds ℝ} {labelOverride : Option Text}
  {neighbor cluster : Option (Dict Text ℝ)}

/-- The model of the signals takes the label, and the entropy of the probabilities is bounded. -/
def Fits (row : PredictionRow ℝ) (labelOverride : Option Text) : Prop :=
  labelOverride ≠ some [] ∧ Bounded row

/-- The signals of a row lie where their model has them. -/
structure InUnit (signals : ObjectModelErrorSignals ℝ) : Prop where
  confidence : 0 ≤ signals.confidence.1 ∧ signals.confidence.1 ≤ 1
  margin : 0 ≤ signals.margin.1 ∧ signals.margin.1 ≤ 1
  entropy : 0 ≤ signals.entropy
  normalizedEntropy : 0 ≤ signals.normalizedEntropy.1 ∧ signals.normalizedEntropy.1 ≤ 1
  ambiguousObjectScore : 0 ≤ signals.ambiguousObjectScore.1 ∧ signals.ambiguousObjectScore.1 ≤ 1
  probableLabelErrorScore : 0 ≤
    signals.probableLabelErrorScore.1 ∧ signals.probableLabelErrorScore.1 ≤ 1

theorem score_mem (x : Score ℝ) : 0 ≤ x.1 ∧ x.1 ≤ 1 := by
  have hrange := inRange_real.mp x.2
  rwa [Int.cast_one] at hrange

/-- A label is there unless the override is an empty one. -/
theorem getD_ne_nil_iff : labelOverride.getD row.trueLabel.1 ≠ [] ↔ labelOverride ≠ some [] := by
  cases labelOverride with
  | none => simpa using row.trueLabel.2
  | some label => simp

theorem fits_of_compute (hsum : 0 < (weights row).sum) {signals : ObjectModelErrorSignals ℝ}
    (h : computeObjectSignals Real.log thresholds row labelOverride neighbor cluster =
      .ok signals) :
    Fits row labelOverride ∧ InUnit signals := by
  rw [computeObjectSignals] at h
  obtain ⟨trueLabel, htrue, h⟩ := bind_eq_ok.mp h
  obtain ⟨confidence, -, h⟩ := bind_eq_ok.mp h
  obtain ⟨margin, -, h⟩ := bind_eq_ok.mp h
  obtain ⟨_, -, h⟩ := bind_eq_ok.mp h
  obtain ⟨normalized, hnormalized, h⟩ := bind_eq_ok.mp h
  obtain rfl := Except.ok.inj h
  have hbounded := (score_mem normalized).2
  rw [scoreField_eq_ok.mp hnormalized, normalizedEntropy_le_one_iff hsum] at hbounded
  refine ⟨⟨?_, hbounded⟩, ?_⟩
  · have hlabel : labelOverride.getD row.trueLabel.1 ≠ [] := by
      rw [← field_eq_ok.mp htrue]
      exact trueLabel.2
    exact getD_ne_nil_iff.mp hlabel
  · constructor <;> first | exact score_mem _ | exact entropy_row_nonneg row

theorem exists_compute (hsum : 0 < (weights row).sum) (h : Fits row labelOverride) :
    ∃ signals, computeObjectSignals Real.log thresholds row labelOverride neighbor cluster =
      .ok signals := by
  have hnormalized : InRange 1 (normalizedEntropy Real.log row) := by
    rw [inRange_real, Int.cast_one]
    exact ⟨normalizedEntropy_nonneg row, (normalizedEntropy_le_one_iff hsum).mpr h.2⟩
  have hentropy : lt (Analyzer.entropy Real.log row) (ofInt 0) = false := by
    rw [not_lt_real, ofInt_real, Int.cast_zero]
    exact entropy_row_nonneg row
  have hlabel : field "ObjectModelErrorSignals" "true_label" (labelOverride.getD row.trueLabel.1) =
      .ok (⟨_, getD_ne_nil_iff.mpr h.1⟩ : NonEmptyStr) := field_eq_ok.mpr rfl
  rw [computeObjectSignals]
  simp only [hlabel, scoreField_ok (confidence_mem row), scoreField_ok (margin_mem row), hentropy,
    guardOk, if_true, scoreField_ok hnormalized, ok_bind]
  exact ⟨_, rfl⟩

end Signals

section Run

variable {F : Type} [ScoreLike F] {log : F → F} {thresholds : ModelErrorThresholds F}
  {manifest : Dict Text (ManifestRowSummary F)} {rows : List (PredictionRow F)}

theorem exists_foldlM_iff {tally : Tally F} :
    (∃ tally', rows.foldlM (analyzeRow log thresholds manifest) tally = .ok tally') ↔
      ∀ row ∈ rows, ∃ seen, observation log thresholds manifest row = .ok seen := by
  induction rows generalizing tally with
  | nil => exact iff_of_true ⟨tally, rfl⟩ (List.forall_mem_nil _)
  | cons row rows ih =>
    rw [List.forall_mem_cons, List.foldlM_cons, analyzeRow]
    cases hseen : observation log thresholds manifest row with
    | error e => exact iff_of_false (fun ⟨_, h⟩ => nomatch h) (fun ⟨⟨_, h⟩, _⟩ => nomatch h)
    | ok seen =>
      rw [← @ih (seen.elim tally (tally.observe thresholds)),
        and_iff_right (⟨seen, rfl⟩ : ∃ found, Except.ok seen = .ok found)]
      cases seen <;> rfl

theorem share_mem {part whole : Nat} (h : part ≤ whole) : InRange 1 (share part whole : F) := by
  rw [share]
  split
  · exact inRange_ofInt (le_refl 0) zero_le_one (by decide)
  · exact inRange_ratio h (by omega)

/-- The errors of a bucket are some of its items. -/
theorem exists_concentration (items : List (NonEmptyStr × Bool)) :
    ∃ entries : List (ErrorConcentrationEntry F),
      (sortedItems (items.foldl observeBucket [])).mapM concentrationEntry = .ok entries := by
  apply exists_mapM_ok
  intro item hitem
  have hget := get?_of_mem (nodup_keys_buckets items) ((sortedItems_perm _).mem_iff.mp hitem)
  rw [get?_foldl_observeBucket] at hget
  split at hget
  · have hstats : bucketOf item.1 items = item.2 := Option.some.inj hget
    have hle : item.2.errors ≤ item.2.total := by
      rw [← hstats]
      apply List.countP_mono_left
      simp
    rw [concentrationEntry, scoreField_ok (share_mem hle)]
    exact ⟨_, rfl⟩
  · cases hget

theorem correct_le_matched (thresholds : ModelErrorThresholds F) (seen : List (Observation F)) :
    (seen.foldl (Tally.observe thresholds) {}).correctCount ≤
      (seen.foldl (Tally.observe thresholds) {}).matchedCount := by
  rw [tally_count Tally.correctCount (fun signals => !signals.labelConflict) rfl fun _ _ => rfl,
    tally_count Tally.matchedCount (fun _ => true) rfl fun _ _ => rfl]
  exact List.countP_mono_left fun _ _ _ => rfl

theorem exists_analysis_iff :
    (∃ report, analyzeModelErrors log thresholds manifest rows = .ok report) ↔
    ∀ row ∈ rows, ∃ seen, observation log thresholds manifest row = .ok seen := by
  rw [← @exists_foldlM_iff F _ log thresholds manifest rows {}]
  constructor
  · rintro ⟨report, h⟩
    obtain ⟨tally, htally, -⟩ := bind_eq_ok.mp h
    exact ⟨tally, htally⟩
  · rintro ⟨tally, htally⟩
    have hreport := htally
    obtain ⟨found, -, rfl⟩ := foldlM_analyzeRow htally
    generalize found.filterMap id = seen at hreport
    have haccuracy : scoreField "ModelErrorAggregateMetrics" "accuracy" _ = .ok _ :=
      scoreField_ok (share_mem (F := F) (correct_le_matched thresholds seen))
    obtain ⟨segments, hsegments⟩ := exists_concentration (F := F) (seen.filterMap fun observed =>
      observed.segment.map fun segment => (segment, observed.signals.labelConflict))
    obtain ⟨classes, hclasses⟩ := exists_concentration (F := F) (seen.map fun observed =>
      (observed.signals.trueLabel, observed.signals.labelConflict))
    have hsegmentBuckets : (seen.foldl (Tally.observe thresholds) {}).segmentBuckets = _ :=
      segmentBuckets_tally seen
    have hclassBuckets :
        (seen.foldl (Tally.observe thresholds) {}).classBuckets = _ := classBuckets_tally seen
    rw [← hsegmentBuckets] at hsegments
    rw [← hclassBuckets] at hclasses
    rw [analyzeModelErrors, hreport, ok_bind, haccuracy, ok_bind, hsegments, ok_bind, hclasses]
    exact ⟨_, rfl⟩

end Run

section Results

variable {row : PredictionRow ℝ} {thresholds : ModelErrorThresholds ℝ}
  {manifest : Dict Text (ManifestRowSummary ℝ)}

/-- What the loop computes of a row fits, where the manifest has a label for it. -/
def RowFits (manifest : Dict Text (ManifestRowSummary ℝ)) (row : PredictionRow ℝ) : Prop :=
  ∀ summary label, get? row.objectId.1 manifest = some summary → summary.label = some label →
    Fits row (some label)

theorem exists_observation_iff (h : Accepted row) :
    (∃ seen, observation Real.log thresholds manifest row = .ok seen) ↔ RowFits manifest row := by
  rw [observation, RowFits]
  cases hsummary : get? row.objectId.1 manifest with
  | none => simp
  | some summary =>
    cases hlabel : summary.label with
    | none =>
      refine iff_of_true ⟨none, by simp only [hlabel]⟩ fun found label hfound hsome => ?_
      obtain rfl := Option.some.inj hfound
      rw [hlabel] at hsome
      cases hsome
    | some label =>
      simp only [hlabel]
      constructor
      · rintro ⟨seen, hseen⟩ found label' hfound hlabel'
        obtain rfl := Option.some.inj hfound
        obtain rfl := Option.some.inj (hlabel.symm.trans hlabel')
        obtain ⟨signals, hsignals, -⟩ := bind_eq_ok.mp hseen
        exact (fits_of_compute (sum_pos h) hsignals).1
      · intro hfits
        have hcomputed : ∃ signals, computeObjectSignals Real.log thresholds row (some label)
            summary.neighborLabelDistribution summary.clusterLabelDistribution = .ok signals :=
          exists_compute (sum_pos h) (hfits summary label rfl hlabel)
        obtain ⟨signals, hsignals⟩ := hcomputed
        rw [hsignals]
        exact ⟨_, rfl⟩

/-- The signals of an accepted row are made, and lie in their ranges, exactly where the label is there
and the entropy bounded, and a row that does not fit is what aborts the analysis. -/
theorem signals_in_range_iff (thresholds : ModelErrorThresholds ℝ)
    (manifest : Dict Text (ManifestRowSummary ℝ)) (rows : List (PredictionRow ℝ))
    (h : ∀ row ∈ rows, Accepted row) :
    (∀ row ∈ rows, ∀ labelOverride neighbor cluster,
      (∃ signals, computeObjectSignals Real.log thresholds row labelOverride neighbor cluster =
        .ok signals ∧
        InUnit signals) ↔ Fits row labelOverride) ∧
    ((∃ report, analyzeModelErrors Real.log thresholds manifest rows = .ok report) ↔
      ∀ row ∈ rows, RowFits manifest row) := by
  constructor
  · intro row hrow labelOverride neighbor cluster
    have hsum := sum_pos (h row hrow)
    constructor
    · rintro ⟨signals, hsignals, -⟩
      exact (fits_of_compute hsum hsignals).1
    · intro hfits
      obtain ⟨signals, hsignals⟩ := exists_compute hsum hfits
      exact ⟨signals, hsignals, (fits_of_compute hsum hsignals).2⟩
  · rw [exists_analysis_iff]
    exact forall₂_congr fun row hrow => exists_observation_iff (h row hrow)

section Tied

/-- A prediction that cannot tell two classes apart. -/
def tiedRow (p : Score ℝ) : PredictionRow ℝ where
  objectId := literal "o1"
  trueLabel := literal "a"
  predictedLabel := literal "a"
  predictedProba := ⟨[("a".toList, p), ("b".toList, p)], List.cons_ne_nil _ _⟩

def labelManifest : Dict Text (ManifestRowSummary ℝ) :=
  [("o1".toList, ⟨some "a".toList, none, none, none⟩)]

theorem weights_tied (p : Score ℝ) : weights (tiedRow p) = [p.1, p.1] := rfl

theorem accepted_tied {p : Score ℝ} (h : |p.1 + p.1 - 1| ≤ 1 / 10 ^ 6) : Accepted (tiedRow p) := by
  have htop : topClass (tiedRow p) = ("a".toList, p) := if_neg (by
    rw [Bool.not_eq_true, not_lt_real]
    exact le_refl p.1)
  have hdecimal : (decimal 1 6 : ℝ) = 1 / 10 ^ 6 := by
    change ((1 : Int) : ℝ) / 10 ^ 6 = _
    rw [Int.cast_one]
  have hsum : lt (decimal 1 6)
      (FloatLike.abs (sub (FloatLike.sum (weights (tiedRow p))) (ofInt 1))) = false := by
    have hpair : [p.1, p.1].sum = p.1 + p.1 := by simp
    rw [not_lt_real, abs_real, sum_real, ofInt_real, Int.cast_one, hdecimal, weights_tied, hpair]
    exact h
  have hconfidence : lt (decimal 1 6) (FloatLike.abs (sub p.1 (topClass (tiedRow p)).2.1)) =
      false := by
    rw [not_lt_real, abs_real, htop, hdecimal]
    change |p.1 - p.1| ≤ _
    rw [sub_self, abs_zero]
    positivity
  refine ⟨p, ?_⟩
  rw [validateProbabilities, hsum, hconfidence, htop]
  rfl

/-- Two probabilities of 0.4999996. -/
noncomputable def belowHalf : Score ℝ := ⟨4999996 / 10 ^ 7, by
  rw [inRange_real]
  norm_num⟩

theorem accepted_belowHalf : Accepted (tiedRow belowHalf) := by
  apply accepted_tied
  rw [belowHalf, abs_le]
  norm_num

theorem not_bounded_belowHalf : ¬ Bounded (tiedRow belowHalf) := by
  have hsum : (weights (tiedRow belowHalf)).sum = 9999992 / 10 ^ 7 := by
    rw [weights_tied, belowHalf]
    norm_num
  have hdivergence : divergence (weights (tiedRow belowHalf)) = 0 := by
    rw [divergence, normalized, hsum, weights_tied, belowHalf]
    norm_num
  have hlog := Real.log_le_sub_one_of_pos (show (0 : ℝ) < 9999992 / 10 ^ 7 by norm_num)
  rw [Bounded, hdivergence, excess, hsum, weights_tied]
  norm_num
  norm_num at hlog
  linarith [Real.log_two_lt_d9]

/-- Of a row whose probabilities add up to 0.9999992 the signals are not made, and the analysis of that
row ends in an error. -/
theorem signals_out_of_range : Accepted (tiedRow belowHalf) ∧
    (¬ ∃ signals,
      computeObjectSignals Real.log {} (tiedRow belowHalf) none none none = .ok signals) ∧
    ¬ ∃ report, analyzeModelErrors Real.log {} labelManifest [tiedRow belowHalf] = .ok report := by
  have hsum := sum_pos accepted_belowHalf
  refine ⟨accepted_belowHalf, ?_, ?_⟩
  · rintro ⟨signals, hsignals⟩
    exact not_bounded_belowHalf (fits_of_compute hsum hsignals).1.2
  · rw [exists_analysis_iff, List.forall_mem_singleton, exists_observation_iff accepted_belowHalf]
    intro hfits
    exact not_bounded_belowHalf (hfits _ _ rfl rfl).2

/-- Of a row whose probabilities add up to one they are. -/
theorem signals_in_range_half :
    ∃ report, analyzeModelErrors Real.log {} labelManifest [tiedRow (Score.fraction 5 1)] =
      .ok report := by
  have hhalf : (Score.fraction 5 1 : Score ℝ).1 = 1 / 2 := by
    change ((5 : Int) : ℝ) / 10 ^ 1 = _
    norm_num
  have haccepted : Accepted (tiedRow (Score.fraction 5 1)) := by
    apply accepted_tied
    rw [hhalf]
    norm_num
  have hbounded : Bounded (tiedRow (Score.fraction 5 1)) := by
    apply bounded_of_sum haccepted
    rw [weights_tied, hhalf]
    norm_num
  apply (signals_in_range_iff {} labelManifest [tiedRow (Score.fraction 5 1)]
    (by simpa using haccepted)).2.mpr
  rw [List.forall_mem_singleton]
  intro summary label hsummary hlabel
  obtain rfl := Option.some.inj hsummary
  obtain rfl := Option.some.inj hlabel
  exact ⟨by simp, hbounded⟩

end Tied

end Results

end DataForge.Plugins.Predictions.SignalRanges
