import DataForge.Domain.Common
import DataForge.Foundation.Failures
import DataForge.Foundation.Interpolation
import Mathlib.Data.List.Sort
import Mathlib.Data.Rat.Floor

namespace DataForge.Plugins.Tabular.SyntheticGaussianCopula

open DataForge.Foundation.Failures
open DataForge.Foundation.Interpolation
open DataForge.Foundation.Outcome
open DataForge.Foundation.Strings
open DataForge.Domain.Common

section Transforms

def defaultQuantileLevels : List ℚ := [0, 1 / 10, 1 / 4, 1 / 2, 3 / 4, 9 / 10, 1]

def cdfClampEpsilon : ℚ := 1 / 1000000

structure ColumnDistributionTransform where
  column : NonEmptyStr
  sampleCount : Nat
  quantileLevels : List ℚ
  quantileValues : List ℚ
deriving DecidableEq

/-- `xs[i]`, where a negative index counts from the end. -/
def subscript (xs : List ℚ) (i : ℤ) : Result ℚ :=
  let position := if i < 0 then i + xs.length else i
  match if position < 0 then none else xs[position.toNat]? with
  | some x => .ok x
  | none => .error (.plain "IndexError" "list index out of range")

/-- `int(x)`. -/
def truncate (x : ℚ) : ℤ := if 0 ≤ x then ⌊x⌋ else ⌈x⌉

def quantile (sortedValues : List ℚ) (q : ℚ) : Result ℚ :=
  if sortedValues = [] then .ok 0
  else if sortedValues.length = 1 then subscript sortedValues 0
  else do
    let pos := ((sortedValues.length : ℚ) - 1) * q
    let lowerIdx := truncate pos
    let upperIdx := min (lowerIdx + 1) ((sortedValues.length : ℤ) - 1)
    let fraction := pos - lowerIdx
    let lower ← subscript sortedValues lowerIdx
    let upper ← subscript sortedValues upperIdx
    pure (lower + (upper - lower) * fraction)

def buildColumnTransform (featureVectors : List (List ℚ)) (levels : List ℚ)
    (item : NonEmptyStr × Nat) : Result ColumnDistributionTransform := do
  let columnValues ← featureVectors.mapM fun vector => subscript vector item.2
  let columnValues := columnValues.insertionSort (· ≤ ·)
  let quantileValues ← levels.mapM (quantile columnValues)
  pure ⟨item.1, columnValues.length, levels, quantileValues⟩

/-- The levels that are fitted where a request lists these. -/
def effectiveLevels (quantileLevels : List ℚ) : List ℚ :=
  if quantileLevels = [] then defaultQuantileLevels else quantileLevels

def buildColumnTransforms (featureColumns : List NonEmptyStr) (featureVectors : List (List ℚ))
    (quantileLevels : List ℚ) : Result (List ColumnDistributionTransform) :=
  featureColumns.zipIdx.mapM (buildColumnTransform featureVectors (effectiveLevels quantileLevels))

def clampUniform (clamp u : ℚ) : ℚ := min (1 - clamp) (max clamp u)

/-- The first upper end of an interval of the grid that a point is not above. -/
def upperIndex (levels : List ℚ) (clamped : ℚ) : Option Nat :=
  (List.range' 1 (levels.length - 1)).find? fun index => clamped ≤ levels.getD index 0

def inverseEcdf (transform : ColumnDistributionTransform) (u clamp : ℚ) : Result ℚ :=
  let levels := transform.quantileLevels
  let values := transform.quantileValues
  if levels = [] then .ok 0
  else
    let clamped := clampUniform clamp u
    match upperIndex levels clamped with
    | none => subscript values (-1)
    | some index => do
      let upper ← subscript levels index
      let lower ← subscript levels (index - 1)
      if upper - lower ≤ 0 then subscript values index
      else do
        let fraction := (clamped - lower) / (upper - lower)
        let before ← subscript values (index - 1)
        let after ← subscript values index
        pure (before + fraction * (after - before))

end Transforms

section Quantiles

/-- A list as a sequence that stays at its last element. -/
def stretch (xs : List ℚ) (i : ℕ) : ℚ := xs.getD (min i (xs.length - 1)) 0

/-- The quantile function of a sorted sample. -/
def quantileFunction (xs : List ℚ) (q : ℚ) : ℚ := between (stretch xs) (((xs.length : ℚ) - 1) * q)

variable {xs : List ℚ}

theorem getD_eq_getElem {i : ℕ} (h : i < xs.length) : xs.getD i 0 = xs[i] := by
  rw [List.getD_eq_getElem?_getD, List.getElem?_eq_getElem h, Option.getD_some]

theorem subscript_natCast {i : ℕ} (h : i < xs.length) : subscript xs i = .ok (xs.getD i 0) := by
  have hnonneg : ¬ (i : ℤ) < 0 := by omega
  rw [subscript, if_neg hnonneg, if_neg hnonneg, Int.toNat_natCast, getD_eq_getElem h,
    List.getElem?_eq_getElem h]

theorem subscript_last (h : xs ≠ []) : subscript xs (-1) = .ok (xs.getD (xs.length - 1) 0) := by
  have hpos : 0 < xs.length := List.length_pos_iff.mpr h
  have hindex : (-1 : ℤ) + xs.length = ((xs.length - 1 : ℕ) : ℤ) := by omega
  have hlt : xs.length - 1 < xs.length := by omega
  rw [subscript, if_pos (show (-1 : ℤ) < 0 by decide), hindex, if_neg (by omega), Int.toNat_natCast,
    getD_eq_getElem hlt, List.getElem?_eq_getElem hlt]

theorem stretch_of_lt {i : ℕ} (h : i < xs.length) : stretch xs i = xs.getD i 0 := by
  rw [stretch, Nat.min_eq_left (by omega)]

theorem stretch_mem (h : xs ≠ []) (i : ℕ) : stretch xs i ∈ xs := by
  have hpos : 0 < xs.length := List.length_pos_iff.mpr h
  have hlt : min i (xs.length - 1) < xs.length := by omega
  rw [stretch, getD_eq_getElem hlt]
  exact List.getElem_mem hlt

theorem stretch_mono (h : xs.Pairwise (· ≤ ·)) : Monotone (stretch xs) := by
  intro i j hij
  obtain rfl | hne := eq_or_ne xs []
  · exact le_refl _
  · have hpos : 0 < xs.length := List.length_pos_iff.mpr hne
    have hi : min i (xs.length - 1) < xs.length := by omega
    have hj : min j (xs.length - 1) < xs.length := by omega
    have hle : min i (xs.length - 1) ≤ min j (xs.length - 1) := by omega
    rw [stretch, stretch, getD_eq_getElem hi, getD_eq_getElem hj]
    obtain heq | hlt := hle.eq_or_lt
    · simp only [heq, le_refl]
    · exact List.pairwise_iff_getElem.mp h _ _ hi hj hlt

variable {q q' : ℚ}

theorem one_le_length (hne : xs ≠ []) : (1 : ℚ) ≤ xs.length := by
  exact_mod_cast List.length_pos_iff.mpr hne

theorem position_nonneg (hne : xs ≠ []) (hq : 0 ≤ q) : 0 ≤ ((xs.length : ℚ) - 1) * q :=
  mul_nonneg (sub_nonneg.mpr (one_le_length hne)) hq

theorem floor_position_lt (hne : xs ≠ []) (hq : q ≤ 1) :
    ⌊((xs.length : ℚ) - 1) * q⌋₊ < xs.length := by
  have hpos : 0 < xs.length := List.length_pos_iff.mpr hne
  have hlast : ((xs.length : ℚ) - 1) * q ≤ (xs.length - 1 : ℕ) := by
    rw [Nat.cast_sub hpos, Nat.cast_one]
    exact mul_le_of_le_one_right (sub_nonneg.mpr (one_le_length hne)) hq
  have hfloor := Nat.floor_le_of_le hlast
  omega

/-- Inside the unit interval the quantile is read off the sample. -/
theorem quantile_eq (hne : xs ≠ []) (h₀ : 0 ≤ q) (h₁ : q ≤ 1) :
    quantile xs q = .ok (quantileFunction xs q) := by
  have hlt := floor_position_lt hne h₁
  have htruncate : truncate (((xs.length : ℚ) - 1) * q) = (⌊((xs.length : ℚ) - 1) * q⌋₊ : ℤ) := by
    rw [truncate, if_pos (position_nonneg hne h₀),
      Int.natCast_floor_eq_floor (position_nonneg hne h₀)]
  rw [quantile, if_neg hne, quantileFunction, between]
  split
  · next hone =>
    have hzero : ((xs.length : ℚ) - 1) * q = 0 := by rw [hone, Nat.cast_one, sub_self, zero_mul]
    have hfirst := subscript_natCast (List.length_pos_iff.mpr hne)
    rw [hzero, Nat.floor_zero, Nat.cast_zero, sub_zero, mul_zero, add_zero,
      stretch_of_lt (List.length_pos_iff.mpr hne)]
    exact hfirst
  · dsimp only
    rw [htruncate]
    generalize ⌊((xs.length : ℚ) - 1) * q⌋₊ = k at hlt ⊢
    have hupper :
        min ((k : ℤ) + 1) ((xs.length : ℤ) - 1) = ((min (k + 1) (xs.length - 1) : ℕ) : ℤ) := by
      omega
    rw [hupper, subscript_natCast hlt, ok_bind, subscript_natCast (by omega), ok_bind,
      stretch_of_lt hlt, stretch, Int.cast_natCast]
    rfl

theorem quantileFunction_mono (hsorted : xs.Pairwise (· ≤ ·)) (hne : xs ≠ []) (h₀ : 0 ≤ q)
    (h : q ≤ q') : quantileFunction xs q ≤ quantileFunction xs q' := by
  apply between_mono (stretch_mono hsorted) (position_nonneg hne h₀)
  exact mul_le_mul_of_nonneg_left h (sub_nonneg.mpr (one_le_length hne))

theorem exists_le_quantileFunction (hsorted : xs.Pairwise (· ≤ ·)) (hne : xs ≠ []) (h₀ : 0 ≤ q) :
    ∃ x ∈ xs, x ≤ quantileFunction xs q :=
  ⟨_, stretch_mem hne _, le_between (stretch_mono hsorted) (position_nonneg hne h₀)⟩

theorem exists_quantileFunction_le (hsorted : xs.Pairwise (· ≤ ·)) (hne : xs ≠ []) :
    ∃ x ∈ xs, quantileFunction xs q ≤ x :=
  ⟨_, stretch_mem hne _, between_le (stretch_mono hsorted)⟩

end Quantiles

section Inverse

/-- The inverse over a grid of points, to the left of it along its first segment. -/
def height (levels values : List ℚ) (c : ℚ) : ℚ :=
  match upperIndex levels c with
  | none => values.getD (levels.length - 1) 0
  | some i =>
    if levels.getD i 0 - levels.getD (i - 1) 0 ≤ 0 then values.getD i 0
    else segment (levels.getD (i - 1) 0) (values.getD (i - 1) 0) (levels.getD i 0)
      (values.getD i 0) c

variable {levels values : List ℚ} {c c' : ℚ} {i : ℕ}

theorem upperIndex_eq_some (h : upperIndex levels c = some i) :
    (1 ≤ i ∧ i < levels.length) ∧ c ≤ levels.getD i 0 ∧ ∀ j, 1 ≤ j → j <
      i → levels.getD j 0 < c := by
  obtain ⟨hle, hmem, hfirst⟩ := List.find?_range'_eq_some.mp h
  have hbounds := List.mem_range'_1.mp hmem
  refine ⟨⟨hbounds.1, by omega⟩, of_decide_eq_true hle, fun j hj hlt => ?_⟩
  simpa using hfirst j hj hlt

theorem upperIndex_eq_none (h : upperIndex levels c = none) {j : ℕ} (hj : 1 ≤ j)
    (hlt : j < levels.length) : levels.getD j 0 < c := by
  simpa using List.find?_range'_eq_none.mp h j hj (by omega)

theorem inverseEcdf_eq {transform : ColumnDistributionTransform}
    (hne : transform.quantileLevels ≠ [])
    (hlength : transform.quantileValues.length = transform.quantileLevels.length) (u clamp : ℚ) :
    inverseEcdf transform u clamp =
      .ok (height transform.quantileLevels transform.quantileValues (clampUniform clamp u)) := by
  have hvalues : transform.quantileValues ≠ [] := by
    rw [← List.length_pos_iff, hlength]
    exact List.length_pos_iff.mpr hne
  rw [inverseEcdf, height]
  dsimp only
  rw [if_neg hne]
  cases hindex : upperIndex transform.quantileLevels (clampUniform clamp u) with
  | none => rw [subscript_last hvalues, hlength]
  | some i =>
    obtain ⟨⟨hone, hlt⟩, -, -⟩ := upperIndex_eq_some hindex
    have hprevious : (i : ℤ) - 1 = ((i - 1 : ℕ) : ℤ) := by omega
    dsimp only
    rw [hprevious, subscript_natCast hlt, ok_bind, subscript_natCast (by omega), ok_bind]
    split
    · rw [subscript_natCast (by omega)]
    · rw [subscript_natCast (by omega), ok_bind, subscript_natCast (by omega), ok_bind]
      rfl

/-- A grid and the values that it is mapped to, both of them ascending. -/
structure Ascending (levels values : List ℚ) : Prop where
  grid : ∀ i j, i ≤ j → j < levels.length → levels.getD i 0 ≤ levels.getD j 0
  mapped : ∀ i j, i ≤ j → j < levels.length → values.getD i 0 ≤ values.getD j 0

variable (hgrid : Ascending levels values)

include hgrid

theorem height_le (hindex : upperIndex levels c = some i) :
    height levels values c ≤ values.getD i 0 := by
  obtain ⟨⟨hone, hlt⟩, hle, -⟩ := upperIndex_eq_some hindex
  simp only [height, hindex]
  split
  · exact le_refl _
  · next hspan =>
    exact segment_le (sub_pos.mp (not_le.mp hspan)) (hgrid.mapped _ _ (by omega) hlt) hle

theorem le_height (hindex : upperIndex levels c = some i) (h : levels.getD (i - 1) 0 ≤ c) :
    values.getD (i - 1) 0 ≤ height levels values c := by
  obtain ⟨⟨hone, hlt⟩, -, -⟩ := upperIndex_eq_some hindex
  have hvalues := hgrid.mapped (i - 1) i (by omega) hlt
  simp only [height, hindex]
  split
  · exact hvalues
  · next hspan => exact le_segment (sub_pos.mp (not_le.mp hspan)) hvalues h

theorem height_le_last (c : ℚ) :
    height levels values c ≤ values.getD (levels.length - 1) 0 := by
  cases hindex : upperIndex levels c with
  | none => simp only [height, hindex, le_refl]
  | some i =>
    obtain ⟨⟨hone, hlt⟩, -, -⟩ := upperIndex_eq_some hindex
    exact (height_le hgrid hindex).trans (hgrid.mapped _ _ (by omega) (by omega))

theorem height_mono (h : c ≤ c') : height levels values c ≤ height levels values c' := by
  cases hindex' : upperIndex levels c' with
  | none =>
    simpa only [height, hindex'] using height_le_last hgrid c
  | some i' =>
    obtain ⟨⟨hone', hlt'⟩, hle', hfirst'⟩ := upperIndex_eq_some hindex'
    cases hindex : upperIndex levels c with
    | none =>
      exact absurd (upperIndex_eq_none hindex hone' hlt') (not_lt.mpr (h.trans hle'))
    | some i =>
      obtain ⟨⟨hone, hlt⟩, hle, hfirst⟩ := upperIndex_eq_some hindex
      obtain hearlier | rfl | hlater := Nat.lt_trichotomy i i'
      · calc height levels values c ≤ values.getD i 0 := height_le hgrid hindex
          _ ≤ values.getD (i' - 1) 0 := hgrid.mapped _ _ (by omega) (by omega)
          _ ≤ height levels values c' :=
            le_height hgrid hindex' (hfirst' _ (by omega) (by omega)).le
      · simp only [height, hindex, hindex']
        split
        · exact le_refl _
        · next hspan =>
          exact segment_mono (sub_pos.mp (not_le.mp hspan)) (hgrid.mapped _ _ (by omega) hlt) h
      · exact absurd (hfirst i' hone' hlater) (not_lt.mpr (h.trans hle'))

end Inverse

section Ranges

structure QuantileGrid (levels : List ℚ) : Prop where
  ascending : levels.Pairwise (· ≤ ·)
  unit : ∀ level ∈ levels, 0 ≤ level ∧ level ≤ 1

def sorted (column : List ℚ) : List ℚ := column.insertionSort (· ≤ ·)

/-- The first segment of the grid, followed down to the least uniform draw, stays above
some value of the column. -/
def ReachesDown (levels column : List ℚ) : Prop :=
  1 < levels.length → ∃ low ∈ column,
    (quantileFunction (sorted column) (levels.getD 1 0) - quantileFunction (sorted column)
      (levels.getD 0 0)) *
        (levels.getD 0 0 - cdfClampEpsilon) ≤
      (quantileFunction (sorted column) (levels.getD 0 0) - low) *
        (levels.getD 1 0 - levels.getD 0 0)

variable {levels column : List ℚ}

theorem pairwise_sorted (column : List ℚ) : (sorted column).Pairwise (· ≤ ·) :=
  List.pairwise_insertionSort _ _

theorem sorted_ne_nil (h : column ≠ []) : sorted column ≠ [] := by
  intro hnil
  have hlength := List.length_insertionSort (· ≤ ·) column
  rw [← sorted, hnil] at hlength
  exact h (List.length_eq_zero_iff.mp hlength.symm)

theorem mem_sorted {x : ℚ} : x ∈ sorted column ↔ x ∈ column := List.mem_insertionSort _

theorem getD_map_quantile {i : ℕ} (hlt : i < levels.length) :
    (levels.map (quantileFunction (sorted column))).getD i 0 =
      quantileFunction (sorted column) (levels.getD i 0) := by
  rw [getD_eq_getElem (by rwa [List.length_map]), List.getElem_map, getD_eq_getElem hlt]

theorem exists_high {i : ℕ} (hcolumn : column ≠ []) (hlt : i < levels.length) :
    ∃ high ∈ column, (levels.map (quantileFunction (sorted column))).getD i 0 ≤ high := by
  rw [getD_map_quantile hlt]
  obtain ⟨high, hmem, hle⟩ :=
    exists_quantileFunction_le (pairwise_sorted column) (sorted_ne_nil hcolumn)
  exact ⟨high, mem_sorted.mp hmem, hle⟩

variable (hgrid : QuantileGrid levels)

include hgrid

theorem unit_getD {i : ℕ} (hlt : i < levels.length) :
    0 ≤ levels.getD i 0 ∧ levels.getD i 0 ≤ 1 := by
  rw [getD_eq_getElem hlt]
  exact hgrid.unit _ (List.getElem_mem hlt)

theorem grid_mono {i j : ℕ} (hij : i ≤ j) (hlt : j < levels.length) :
    levels.getD i 0 ≤ levels.getD j 0 := by
  rw [getD_eq_getElem (hij.trans_lt hlt), getD_eq_getElem hlt]
  obtain rfl | hne := hij.eq_or_lt
  · exact le_refl _
  · exact List.pairwise_iff_getElem.mp hgrid.ascending _ _ _ _ hne

theorem ascending_quantiles (hcolumn : column ≠ []) :
    Ascending levels (levels.map (quantileFunction (sorted column))) where
  grid _ _ hij hlt := grid_mono hgrid hij hlt
  mapped i j hij hlt := by
    rw [getD_map_quantile (hij.trans_lt hlt), getD_map_quantile hlt]
    exact quantileFunction_mono (pairwise_sorted column) (sorted_ne_nil hcolumn)
      (unit_getD hgrid (hij.trans_lt hlt)).1 (grid_mono hgrid hij hlt)

theorem exists_low {i : ℕ} (hcolumn : column ≠ []) (hlt : i < levels.length) :
    ∃ low ∈ column, low ≤ (levels.map (quantileFunction (sorted column))).getD i 0 := by
  rw [getD_map_quantile hlt]
  obtain ⟨low, hmem, hle⟩ :=
    exists_le_quantileFunction (pairwise_sorted column) (sorted_ne_nil hcolumn)
    (unit_getD hgrid hlt).1
  exact ⟨low, mem_sorted.mp hmem, hle⟩

theorem reachesDown_of_le (hcolumn : column ≠ []) (hle : levels.getD 0 0 ≤ cdfClampEpsilon) :
    ReachesDown levels column := by
  intro htwo
  obtain ⟨low, hmem, hlow⟩ := exists_low hgrid hcolumn (i := 0) (by omega)
  rw [getD_map_quantile (by omega)] at hlow
  have hstep : levels.getD 0 0 ≤ levels.getD 1 0 := grid_mono hgrid (Nat.zero_le 1) htwo
  have hrise := quantileFunction_mono (pairwise_sorted column) (sorted_ne_nil hcolumn)
    (unit_getD hgrid (by omega)).1 hstep
  refine ⟨low, hmem, le_trans (b := 0) ?_ ?_⟩
  · exact mul_nonpos_of_nonneg_of_nonpos (sub_nonneg.mpr hrise) (sub_nonpos.mpr hle)
  · exact mul_nonneg (sub_nonneg.mpr hlow) (sub_nonneg.mpr hstep)

/-- The least sample stays above some value of the column exactly when the first segment
does. -/
theorem exists_le_height_iff (hne : levels ≠ []) (hcolumn : column ≠ []) :
    (∃ low ∈ column,
      low ≤ height levels (levels.map (quantileFunction (sorted column))) cdfClampEpsilon) ↔
      ReachesDown levels column := by
  have hpos : 0 < levels.length := List.length_pos_iff.mpr hne
  have hascending := ascending_quantiles hgrid hcolumn
  have hstep (htwo : 1 < levels.length) := grid_mono hgrid (Nat.zero_le 1) htwo
  cases hindex : upperIndex levels cdfClampEpsilon with
  | none =>
    refine ⟨fun _ htwo => ?_, fun _ => ?_⟩
    · have hlt := upperIndex_eq_none hindex le_rfl htwo
      exact reachesDown_of_le hgrid hcolumn ((hstep htwo).trans hlt.le) htwo
    · simpa only [height, hindex] using exists_low hgrid hcolumn (by omega)
  | some i =>
    obtain ⟨⟨hone, hlt⟩, hle, hfirst⟩ := upperIndex_eq_some hindex
    obtain rfl | hlater := hone.eq_or_lt
    · -- the least draw is in the first interval, or to the left of it
      rw [ReachesDown, imp_iff_right hlt]
      simp only [height, hindex, Nat.sub_self, getD_map_quantile hlt, getD_map_quantile hpos]
      split
      · next hspan =>
        have heq : levels.getD 1 0 = levels.getD 0 0 :=
          le_antisymm (sub_nonpos.mp hspan) (hstep hlt)
        obtain ⟨low, hmem, hlow⟩ := exists_low hgrid hcolumn hlt
        rw [getD_map_quantile hlt] at hlow
        refine ⟨fun _ => ⟨low, hmem, ?_⟩, fun _ => ⟨low, hmem, hlow⟩⟩
        rw [heq, sub_self, sub_self, zero_mul, mul_zero]
      · next hspan =>
        simp only [le_segment_iff (sub_pos.mp (not_le.mp hspan))]
    · have habove := hfirst 1 le_rfl hlater
      refine ⟨fun _ => reachesDown_of_le hgrid hcolumn ((hstep (by omega)).trans habove.le),
        fun _ => ?_⟩
      obtain ⟨low, hmem, hlow⟩ := exists_low hgrid hcolumn (i := i - 1) (by omega)
      exact ⟨low, hmem,
        hlow.trans (le_height hascending hindex (hfirst _ (by omega) (by omega)).le)⟩

end Ranges

section Fitted

/-- The values of a feature in the training rows. -/
def columnAt (featureVectors : List (List ℚ)) (i : ℕ) : List ℚ :=
  featureVectors.map fun vector => vector.getD i 0

/-- What a transform draws is between two values of its column and grows with the draw. -/
structure StaysInside (transform : ColumnDistributionTransform) (column : List ℚ) : Prop where
  range : ∀ u, ∃ x, inverseEcdf transform u cdfClampEpsilon = .ok x ∧
    (∃ low ∈ column, low ≤ x) ∧ ∃ high ∈ column, x ≤ high
  monotone : ∀ u u' x x', u ≤ u' → inverseEcdf transform u cdfClampEpsilon = .ok x →
    inverseEcdf transform u' cdfClampEpsilon = .ok x' → x ≤ x'

theorem clampUniform_mono {u u' : ℚ} (h : u ≤ u') :
    clampUniform cdfClampEpsilon u ≤ clampUniform cdfClampEpsilon u' :=
  min_le_min le_rfl (max_le_max le_rfl h)

theorem le_clampUniform (u : ℚ) : cdfClampEpsilon ≤ clampUniform cdfClampEpsilon u :=
  le_min (by rw [cdfClampEpsilon]; norm_num) (le_max_left _ _)

theorem clampUniform_zero : clampUniform cdfClampEpsilon 0 = cdfClampEpsilon := by
  rw [clampUniform, cdfClampEpsilon]
  norm_num

variable {levels column : List ℚ}

theorem staysInside_iff (hgrid : QuantileGrid levels) (hne : levels ≠ []) (hcolumn : column ≠ [])
    (name : NonEmptyStr) (n : ℕ) :
    StaysInside ⟨name, n, levels, levels.map (quantileFunction (sorted column))⟩ column ↔
      ReachesDown levels column := by
  have hascending := ascending_quantiles hgrid hcolumn
  have hinverse (u : ℚ) := @inverseEcdf_eq
    ⟨name, n, levels, levels.map (quantileFunction (sorted column))⟩ hne (List.length_map _) u
      cdfClampEpsilon
  rw [← exists_le_height_iff hgrid hne hcolumn]
  constructor
  · rintro ⟨hrange, -⟩
    obtain ⟨x, hx, hlow, -⟩ := hrange 0
    rw [hinverse, clampUniform_zero] at hx
    exact Except.ok.inj hx ▸ hlow
  · rintro ⟨low, hmem, hlow⟩
    have hpos : 0 < levels.length := List.length_pos_iff.mpr hne
    refine ⟨fun u => ⟨_, hinverse u, ⟨low, hmem, ?_⟩, ?_⟩, fun u u' x x' hu hx hx' => ?_⟩
    · exact hlow.trans (height_mono hascending (le_clampUniform u))
    · obtain ⟨high, hmem, hhigh⟩ := @exists_high levels _ (levels.length - 1) hcolumn (by omega)
      exact ⟨high, hmem, (height_le_last hascending _).trans hhigh⟩
    · rw [hinverse] at hx hx'
      rw [← Except.ok.inj hx, ← Except.ok.inj hx']
      exact height_mono hascending (clampUniform_mono hu)

theorem quantileGrid_effective (hgrid : QuantileGrid levels) :
    QuantileGrid (effectiveLevels levels) := by
  rw [effectiveLevels]
  split
  · exact ⟨by decide +kernel, by decide +kernel⟩
  · exact hgrid

theorem effectiveLevels_ne_nil (levels : List ℚ) : effectiveLevels levels ≠ [] := by
  rw [effectiveLevels]
  split
  · decide
  · assumption

variable {featureColumns : List NonEmptyStr} {featureVectors : List (List ℚ)}

/-- The transforms of rectangular training rows. -/
theorem buildColumnTransforms_eq (hgrid : QuantileGrid levels) (hrows : featureVectors ≠ [])
    (hwidth : ∀ vector ∈ featureVectors, vector.length = featureColumns.length) :
    buildColumnTransforms featureColumns featureVectors levels =
      .ok (featureColumns.zipIdx.map
        fun item => ⟨item.1, featureVectors.length, effectiveLevels levels,
        (effectiveLevels levels).map
          (quantileFunction (sorted (columnAt featureVectors item.2)))⟩) := by
  rw [buildColumnTransforms]
  apply mapM_of_forall_ok
  intro item hitem
  have hindex : item.2 < featureColumns.length := by
    obtain ⟨-, hlt, -⟩ := List.mem_zipIdx hitem
    omega
  have hcolumn : featureVectors.mapM (fun vector => subscript vector item.2) =
      .ok (columnAt featureVectors item.2) := by
    apply mapM_of_forall_ok
    intro vector hvector
    exact subscript_natCast (by rw [hwidth vector hvector]; exact hindex)
  have hne : columnAt featureVectors item.2 ≠ [] := by
    rw [columnAt]
    exact fun hnil => hrows (List.map_eq_nil_iff.mp hnil)
  have hvalues :
      (effectiveLevels levels).mapM (quantile (sorted (columnAt featureVectors item.2))) =
        .ok ((effectiveLevels levels).map
          (quantileFunction (sorted (columnAt featureVectors item.2)))) := by
    apply mapM_of_forall_ok
    intro level hlevel
    have hunit := (quantileGrid_effective hgrid).unit level hlevel
    exact quantile_eq (sorted_ne_nil hne) hunit.1 hunit.2
  rw [buildColumnTransform, hcolumn, ok_bind]
  dsimp only
  rw [← sorted, hvalues, ok_bind, sorted, List.length_insertionSort, columnAt, List.length_map]
  rfl

/-- The samples of a feature stay between its training values exactly when the grid starts
low enough for it. -/
theorem samples_in_range_iff (hgrid : QuantileGrid levels) (hrows : featureVectors ≠ [])
    (hwidth : ∀ vector ∈ featureVectors, vector.length = featureColumns.length) :
    ∃ transforms, buildColumnTransforms featureColumns featureVectors levels = .ok transforms ∧
      transforms.length = featureColumns.length ∧ ∀ i transform, transforms[i]? = some transform →
        (StaysInside transform (columnAt featureVectors i) ↔
          ReachesDown (effectiveLevels levels) (columnAt featureVectors i)) := by
  refine ⟨_, buildColumnTransforms_eq hgrid hrows hwidth, ?_, fun i transform htransform => ?_⟩
  · rw [List.length_map, List.length_zipIdx]
  · rw [List.getElem?_map, List.getElem?_zipIdx] at htransform
    cases hname : featureColumns[i]? with
    | none => simp [hname] at htransform
    | some name =>
      rw [hname] at htransform
      obtain rfl := Option.some.inj htransform
      have hne : columnAt featureVectors i ≠ [] := fun hnil => hrows (List.map_eq_nil_iff.mp hnil)
      simpa only [Nat.zero_add] using
        staysInside_iff (quantileGrid_effective hgrid) (effectiveLevels_ne_nil levels) hne name _

/-- The grid starts at the median, where the column has its step. -/
theorem samples_in_range_halves : ∃ transforms,
    buildColumnTransforms [literal "amount"] [[0], [0], [100]] [1 / 2, 3 / 4] = .ok transforms ∧
      transforms.length = 1 ∧ ∀ i transform, transforms[i]? = some transform →
        (StaysInside transform (columnAt [[0], [0], [100]] i) ↔
          ReachesDown (effectiveLevels [1 / 2, 3 / 4]) (columnAt [[0], [0], [100]] i)) :=
  samples_in_range_iff ⟨by decide +kernel, by decide +kernel⟩ (by decide) (by decide)

/-- A draw of zero falls to almost the height of the column below it. -/
theorem sample_below_column :
    ¬ ∀ (levels column : List ℚ) (u : ℚ) (transform : ColumnDistributionTransform)
    (x : ℚ), QuantileGrid levels → column ≠ [] →
    buildColumnTransforms [literal "amount"] (column.map fun value => [value]) levels =
      .ok [transform] →
    inverseEcdf transform u cdfClampEpsilon = .ok x → ∃ low ∈ column, low ≤ x := by
  intro h
  obtain ⟨low, hmem, hlow⟩ :=
    h [1 / 2, 3 / 4] [0, 0, 100] 0 ⟨literal "amount", 3, [1 / 2, 3 / 4], [0, 50]⟩
      (-499999 / 5000) ⟨by decide +kernel, by decide +kernel⟩ (by decide) (by decide +kernel)
      (by decide +kernel)
  have hnone : ∀ value ∈ ([0, 0, 100] : List ℚ), ¬ value ≤ -499999 / 5000 := by decide +kernel
  exact hnone low hmem hlow

end Fitted

end DataForge.Plugins.Tabular.SyntheticGaussianCopula
