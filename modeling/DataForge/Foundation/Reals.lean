import DataForge.Foundation.Scores
import Mathlib.Algebra.Order.Archimedean.Real.Basic

namespace DataForge.Foundation.Reals

open DataForge.Foundation.Numbers
open DataForge.Foundation.Scores
open Classical

/-- Rounding of a real number to the nearest integer, halves to the even one. -/
noncomputable def roundHalfEvenReal (x : ℝ) : Int :=
  if x - ⌊x⌋ < 1 / 2 ∨ (x - ⌊x⌋ = 1 / 2 ∧ ⌊x⌋ % 2 = 0) then ⌊x⌋ else ⌊x⌋ + 1

noncomputable instance : FloatLike ℝ where
  ofInt n := n
  add := (· + ·)
  sub := (· - ·)
  mul := (· * ·)
  div := (· / ·)
  lt x y := decide (x < y)
  beq x y := decide (x = y)
  round := roundHalfEvenReal

theorem ofInt_real (n : Int) : (FloatLike.ofInt n : ℝ) = n := rfl

theorem lt_real {x y : ℝ} : FloatLike.lt x y = true ↔ x < y := decide_eq_true_iff

theorem not_lt_real {x y : ℝ} :
    FloatLike.lt x y = false ↔ y ≤ x := decide_eq_false_iff_not.trans not_lt

theorem inRange_real {bound : Int} {x : ℝ} : InRange bound x ↔ 0 ≤ x ∧ x ≤ bound := by
  rw [InRange, not_lt_real, not_lt_real]
  rw [ofInt_real, ofInt_real, Int.cast_zero]

theorem abs_real (x : ℝ) : FloatLike.abs x = |x| := by
  have hzero : (FloatLike.ofInt 0 : ℝ) = 0 := Int.cast_zero
  rw [FloatLike.abs, hzero]
  by_cases h : x < 0
  · rw [if_pos (lt_real.mpr h), abs_of_neg h]
    exact zero_sub x
  · rw [if_neg (mt lt_real.mp h), abs_of_nonneg (not_lt.mp h)]

theorem sum_real (xs : List ℝ) : FloatLike.sum xs = xs.sum := by
  have hzero : (FloatLike.ofInt 0 : ℝ) = 0 := Int.cast_zero
  rw [FloatLike.sum, hzero, List.sum_eq_foldl]
  rfl

/-- Named, so that the numeral is one term in all modules. -/
instance atLeastTwo_ten : Nat.AtLeastTwo 10 := inferInstance

noncomputable def decimalReal (m : Int) (digits : Nat) : ℝ := m / 10 ^ digits

noncomputable def roundToReal (digits : Nat) (x : ℝ) : ℝ :=
  decimalReal (roundHalfEvenReal (x * 10 ^ digits)) digits

theorem roundHalfEvenReal_between {a b : Int} {x : ℝ} (ha : (a : ℝ) ≤ x) (hb : x ≤ b) :
    a ≤ roundHalfEvenReal x ∧ roundHalfEvenReal x ≤ b := by
  have hfloor : a ≤ ⌊x⌋ := Int.le_floor.mpr ha
  have hle : ⌊x⌋ ≤ b := by exact_mod_cast (Int.floor_le x).trans hb
  rw [roundHalfEvenReal]
  split
  · exact ⟨hfloor, hle⟩
  · next hcase =>
    refine ⟨by omega, ?_⟩
    have hne : ⌊x⌋ ≠ b := by
      intro heq
      have hx : x = ⌊x⌋ := le_antisymm (heq ▸ hb) (Int.floor_le x)
      apply hcase
      left
      linarith
    omega

theorem inRange_roundToReal {bound : Int} {x : ℝ} (digits : Nat) (h : InRange bound x) :
    InRange bound (roundToReal digits x) := by
  rw [inRange_real] at h ⊢
  have hpos : (0 : ℝ) < 10 ^ digits := by positivity
  have hlow : ((0 : Int) : ℝ) ≤ x * 10 ^ digits := by
    rw [Int.cast_zero]
    exact mul_nonneg h.1 hpos.le
  have hhigh : x * 10 ^ digits ≤ ((bound * 10 ^ digits : Int) : ℝ) := by
    push_cast
    exact mul_le_mul_of_nonneg_right h.2 hpos.le
  obtain ⟨hzero, hbound⟩ := roundHalfEvenReal_between hlow hhigh
  rw [roundToReal, decimalReal]
  refine ⟨div_nonneg (by exact_mod_cast hzero) hpos.le, ?_⟩
  rw [div_le_iff₀ hpos]
  exact_mod_cast hbound

/-- Scores in exact real arithmetic. -/
noncomputable instance : ScoreLike ℝ where
  le x y := decide (x ≤ y)
  decimal := decimalReal
  roundTo := roundToReal
  lt_asymm h := not_lt_real.mpr (lt_real.mp h).le
  lt_ofInt a b _ _ := by
    rw [Bool.eq_iff_iff, lt_real, decide_eq_true_iff]
    exact Int.cast_lt
  inRange_decimal m digits h := by
    have hpos : (0 : ℝ) < 10 ^ digits := by positivity
    rw [inRange_real, decimalReal]
    refine ⟨by positivity, ?_⟩
    rw [div_le_iff₀ hpos, Int.cast_one, one_mul]
    exact_mod_cast h
  inRange_roundTo digits h := inRange_roundToReal digits h
  inRange_percent {x} h := by
    rw [inRange_real] at h ⊢
    change 0 ≤ x / ((100 : Int) : ℝ) ∧ x / ((100 : Int) : ℝ) ≤ ((1 : Int) : ℝ)
    push_cast at h ⊢
    constructor <;> linarith
  inRange_ratio {k n} h hn := by
    rw [inRange_real]
    change 0 ≤ ((k : Int) : ℝ) / ((n : Int) : ℝ) ∧ ((k : Int) : ℝ) / ((n : Int) : ℝ) ≤
        ((1 : Int) : ℝ)
    have hpos : (0 : ℝ) < n := by exact_mod_cast hn
    push_cast
    refine ⟨by positivity, ?_⟩
    rw [div_le_one hpos]
    exact_mod_cast h

end DataForge.Foundation.Reals
