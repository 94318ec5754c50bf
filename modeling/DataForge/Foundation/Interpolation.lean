import Mathlib.Algebra.Order.Field.Basic
import Mathlib.Algebra.Order.Floor.Semiring
import Mathlib.Tactic.FieldSimp
import Mathlib.Tactic.Linarith
import Mathlib.Tactic.Positivity
import Mathlib.Tactic.Ring

namespace DataForge.Foundation.Interpolation

variable {K : Type} [Field K] [LinearOrder K] [IsStrictOrderedRing K]

section Segment

/-- The point above `x` of the line through two points. -/
def segment (x₀ y₀ x₁ y₁ x : K) : K := y₀ + (x - x₀) / (x₁ - x₀) * (y₁ - y₀)

variable {x₀ y₀ x₁ y₁ x x' : K}

theorem segment_mono (hx : x₀ < x₁) (hy : y₀ ≤ y₁) (h : x ≤ x') :
    segment x₀ y₀ x₁ y₁ x ≤ segment x₀ y₀ x₁ y₁ x' := by
  have hspan : 0 < x₁ - x₀ := sub_pos.mpr hx
  have hrise : 0 ≤ y₁ - y₀ := sub_nonneg.mpr hy
  rw [segment, segment]
  gcongr

omit [LinearOrder K] [IsStrictOrderedRing K] in
theorem segment_left : segment x₀ y₀ x₁ y₁ x₀ = y₀ := by
  rw [segment, sub_self, zero_div, zero_mul, add_zero]

theorem segment_right (hx : x₀ < x₁) : segment x₀ y₀ x₁ y₁ x₁ = y₁ := by
  rw [segment, div_self (sub_pos.mpr hx).ne']
  ring

theorem le_segment (hx : x₀ < x₁) (hy : y₀ ≤ y₁) (h : x₀ ≤ x) : y₀ ≤ segment x₀ y₀ x₁ y₁ x := by
  simpa only [segment_left] using segment_mono hx hy h

theorem segment_le (hx : x₀ < x₁) (hy : y₀ ≤ y₁) (h : x ≤ x₁) : segment x₀ y₀ x₁ y₁ x ≤ y₁ := by
  simpa only [segment_right hx] using segment_mono hx hy h

/-- How far the line may be followed to the left. -/
theorem le_segment_iff (hx : x₀ < x₁) (y : K) :
    y ≤ segment x₀ y₀ x₁ y₁ x ↔ (y₁ - y₀) * (x₀ - x) ≤ (y₀ - y) * (x₁ - x₀) := by
  have hspan : 0 < x₁ - x₀ := sub_pos.mpr hx
  have hheight : segment x₀ y₀ x₁ y₁ x = (y₀ * (x₁ - x₀) - (y₁ - y₀) * (x₀ - x)) / (x₁ - x₀) := by
    rw [segment]
    field_simp
    ring
  rw [hheight, le_div_iff₀ hspan, sub_mul]
  constructor <;> intro h <;> linarith

end Segment

section Between

variable [FloorSemiring K]

/-- The values of a sequence at the natural numbers, with straight lines between them. -/
def between (s : ℕ → K) (x : K) : K := s ⌊x⌋₊ + (s (⌊x⌋₊ + 1) - s ⌊x⌋₊) * (x - ⌊x⌋₊)

variable {s : ℕ → K} {x x' : K}

theorem le_between (hs : Monotone s) (hx : 0 ≤ x) : s ⌊x⌋₊ ≤ between s x := by
  have hrise : 0 ≤ s (⌊x⌋₊ + 1) - s ⌊x⌋₊ := sub_nonneg.mpr (hs (Nat.le_succ _))
  have hfraction : 0 ≤ x - ⌊x⌋₊ := sub_nonneg.mpr (Nat.floor_le hx)
  rw [between]
  exact le_add_of_nonneg_right (mul_nonneg hrise hfraction)

theorem between_le (hs : Monotone s) : between s x ≤ s (⌊x⌋₊ + 1) := by
  have hrise : 0 ≤ s (⌊x⌋₊ + 1) - s ⌊x⌋₊ := sub_nonneg.mpr (hs (Nat.le_succ _))
  have hfraction : x - ⌊x⌋₊ ≤ 1 := by linarith [Nat.lt_floor_add_one x]
  have hstep := mul_le_mul_of_nonneg_left hfraction hrise
  rw [between]
  linarith

theorem between_mono (hs : Monotone s) (hx : 0 ≤ x) (h : x ≤ x') : between s x ≤ between s x' := by
  obtain heq | hlt := (Nat.floor_mono h).eq_or_lt
  · have hrise : 0 ≤ s (⌊x⌋₊ + 1) - s ⌊x⌋₊ := sub_nonneg.mpr (hs (Nat.le_succ _))
    rw [between, between, ← heq]
    gcongr
  · calc between s x ≤ s (⌊x⌋₊ + 1) := between_le hs
      _ ≤ s ⌊x'⌋₊ := hs hlt
      _ ≤ between s x' := le_between hs (hx.trans h)

end Between

end DataForge.Foundation.Interpolation
