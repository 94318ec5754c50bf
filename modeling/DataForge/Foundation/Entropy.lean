import Mathlib.Analysis.SpecialFunctions.Log.NegMulLog
import Mathlib.Analysis.Complex.ExponentialBounds

namespace DataForge.Foundation.Entropy

open Real (log negMulLog)

/-- The entropy of weights, which need not add up to one. -/
noncomputable def entropy (ps : List ℝ) : ℝ := (ps.map negMulLog).sum

noncomputable def normalized (ps : List ℝ) : List ℝ := ps.map (· / ps.sum)

/-- The relative entropy of the normalized weights to the uniform distribution. -/
noncomputable def divergence (ps : List ℝ) : ℝ :=
  ((normalized ps).map fun q => q * log (ps.length * q)).sum

/-- What the sum of the weights adds to their entropy beyond that of a distribution. -/
noncomputable def excess (ps : List ℝ) : ℝ := (1 - 1 / ps.sum) * log ps.length - log ps.sum

variable {ps : List ℝ}

theorem entropy_nonneg (h : ∀ p ∈ ps, 0 ≤ p ∧ p ≤ 1) : 0 ≤ entropy ps := by
  rw [entropy]
  apply List.sum_nonneg
  intro x hx
  obtain ⟨p, hp, rfl⟩ := List.mem_map.mp hx
  exact Real.negMulLog_nonneg (h p hp).1 (h p hp).2

theorem sum_normalized (h : 0 < ps.sum) : (normalized ps).sum = 1 := by
  have hmap : normalized ps = ps.map (· * (1 / ps.sum)) :=
    List.map_congr_left fun p _ => div_eq_mul_one_div p ps.sum
  rw [hmap, List.sum_map_mul_right, List.map_id', mul_one_div_cancel h.ne']

theorem entropy_eq (h : 0 < ps.sum) :
    entropy ps = negMulLog ps.sum + ps.sum * entropy (normalized ps) := by
  have hterm : ∀ p ∈ ps, negMulLog p =
      p / ps.sum * negMulLog ps.sum + ps.sum * negMulLog (p / ps.sum) := by
    intro p _
    rw [← Real.negMulLog_mul, mul_div_cancel₀ p h.ne']
  have hsum := sum_normalized h
  rw [normalized] at hsum
  rw [entropy, List.map_congr_left hterm, List.sum_map_add, List.sum_map_mul_right,
    List.sum_map_mul_left, hsum, one_mul, entropy, normalized, List.map_map]
  rfl

theorem divergence_eq (h : 0 < ps.sum) :
    divergence ps = log ps.length - entropy (normalized ps) := by
  have hlength : 0 < ps.length := by
    rw [List.length_pos_iff]
    rintro rfl
    simp at h
  have hpos : (0 : ℝ) < ps.length := by exact_mod_cast hlength
  have hterm : ∀ q ∈ normalized ps, q * log (ps.length * q) =
      q * log ps.length + -1 * negMulLog q := by
    intro q _
    have hmul := Real.negMulLog_mul ps.length q
    rw [Real.negMulLog, Real.negMulLog] at hmul
    have hcancel : (ps.length : ℝ) * (q * log (ps.length * q)) =
        ps.length * (q * log ps.length + -1 * negMulLog q) := by
      linarith
    exact mul_left_cancel₀ hpos.ne' hcancel
  rw [divergence, List.map_congr_left hterm, List.sum_map_add, List.sum_map_mul_right, List.map_id',
    sum_normalized h, one_mul, List.sum_map_mul_left, ← entropy, neg_one_mul, sub_eq_add_neg]

theorem divergence_nonneg (hps : ∀ p ∈ ps, 0 ≤ p) (h : 0 < ps.sum) : 0 ≤ divergence ps := by
  have hlength : 0 < ps.length := by
    rw [List.length_pos_iff]
    rintro rfl
    simp at h
  have hpos : (0 : ℝ) < ps.length := by exact_mod_cast hlength
  have hterms : ((normalized ps).map fun q : ℝ => (ps.length : ℝ) * q - 1).sum ≤
      ((normalized ps).map fun q : ℝ => (ps.length : ℝ) * (q * log (ps.length * q))).sum := by
    apply List.sum_le_sum
    intro q hq
    obtain ⟨p, hp, rfl⟩ := List.mem_map.mp hq
    rw [← mul_assoc]
    exact Real.self_sub_one_le_mul_log (mul_nonneg hpos.le (div_nonneg (hps p hp) h.le))
  have hzero : ((normalized ps).map fun q : ℝ => (ps.length : ℝ) * q - 1).sum = 0 := by
    simp only [sub_eq_add_neg]
    rw [List.sum_map_add, List.sum_map_mul_left, List.map_id', sum_normalized h, List.map_const',
      List.sum_replicate, normalized, List.length_map]
    simp
  rw [hzero, List.sum_map_mul_left] at hterms
  exact nonneg_of_mul_nonneg_right hterms hpos

/-- The entropy of weights is that of the uniform distribution at most exactly where what their
sum adds to it is made up for by their divergence. -/
theorem entropy_le_log_iff (h : 0 < ps.sum) :
    entropy ps ≤ log ps.length ↔ excess ps ≤ divergence ps := by
  have hgap : ps.sum * (excess ps - divergence ps) = entropy ps - log ps.length := by
    rw [entropy_eq h, divergence_eq h, excess, Real.negMulLog]
    field_simp
    ring
  rw [← sub_nonpos, ← hgap, ← sub_nonpos (a := excess ps)]
  constructor
  · intro hle
    by_contra hgt
    exact absurd hle (not_le.mpr (mul_pos h (not_le.mp hgt)))
  · exact mul_nonpos_of_nonneg_of_nonpos h.le

theorem excess_of_sum (h : ps.sum = 1) : excess ps = 0 := by
  rw [excess, h]
  simp

/-- A sum above one takes from the entropy of two weights. -/
theorem excess_two_nonpos (hlength : ps.length = 2) (h : 1 ≤ ps.sum) : excess ps ≤ 0 := by
  have hpos : 0 < ps.sum := zero_lt_one.trans_le h
  have hbelow : 0 ≤ 1 - 1 / ps.sum := sub_nonneg.mpr ((div_le_one hpos).mpr h)
  have hlog : log (2 : ℝ) ≤ 1 := by linarith [Real.log_two_lt_d9]
  have hsum : 1 - 1 / ps.sum ≤ log ps.sum := by
    rw [one_div]
    exact Real.one_sub_inv_le_log_of_pos hpos
  rw [excess, hlength]
  push_cast
  nlinarith

/-- A sum below one takes from the entropy of three weights and more. -/
theorem excess_three_nonpos (hlength : 3 ≤ ps.length) (hpos : 0 < ps.sum) (h : ps.sum ≤ 1) :
    excess ps ≤ 0 := by
  have hbelow : 1 - 1 / ps.sum ≤ 0 := sub_nonpos.mpr ((one_le_div hpos).mpr h)
  have hlog : 1 ≤ log (ps.length : ℝ) := by
    rw [Real.le_log_iff_exp_le (by positivity)]
    have hthree : (3 : ℝ) ≤ ps.length := by exact_mod_cast hlength
    linarith [Real.exp_one_lt_d9]
  have hsum : 1 - 1 / ps.sum ≤ log ps.sum := by
    rw [one_div]
    exact Real.one_sub_inv_le_log_of_pos hpos
  rw [excess]
  nlinarith

end DataForge.Foundation.Entropy
