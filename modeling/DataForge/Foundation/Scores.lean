import DataForge.Foundation.Numbers
import DataForge.Foundation.Strings
import Mathlib.Data.Rat.Sqrt
import Mathlib.Tactic.Linarith
import Mathlib.Tactic.NormNum
import Mathlib.Tactic.Positivity
import Mathlib.Tactic.GCongr

namespace DataForge.Foundation.Scores

open DataForge.Foundation.Numbers
open FloatLike

/-- Between zero and a bound, as a field check finds it: neither comparison fails. -/
def InRange {F : Type} [FloatLike F] (bound : Int) (x : F) : Prop :=
  lt x (ofInt 0) = false ∧ lt (ofInt bound) x = false

instance {F : Type} [FloatLike F] (bound : Int) (x : F) : Decidable (InRange bound x) :=
  inferInstanceAs (Decidable (_ ∧ _))

/-- Floats with decimal fractions and rounding to them. The laws are those that keep
a bounded number bounded. -/
class ScoreLike (F : Type) extends FloatLike F where
  le : F → F → Bool
  /-- The number `mantissa / 10 ^ digits` as it is written in decimals. -/
  decimal : Int → Nat → F
  roundTo : Nat → F → F
  lt_asymm : ∀ {x y : F}, lt x y = true → lt y x = false
  lt_ofInt : ∀ a b : Int, a.natAbs < 2 ^ 53 → b.natAbs < 2 ^ 53 →
    lt (ofInt a : F) (ofInt b) = decide (a < b)
  inRange_decimal : ∀ m digits : Nat, m ≤ 10 ^ digits → InRange 1 (decimal m digits : F)
  inRange_roundTo : ∀ {bound : Int} {x : F} (digits : Nat), InRange bound x →
    InRange bound (roundTo digits x)
  inRange_percent : ∀ {x : F}, InRange 100 x → InRange 1 (div x (ofInt 100))
  inRange_ratio : ∀ {k n : Nat}, k ≤ n → 0 < n → InRange 1 (div (ofInt k) (ofInt n) : F)

/-- Floats on which the short decimal fractions stay below one. -/
class FractionLike (F : Type) extends ScoreLike F where
  lt_decimal_one : ∀ m digits : Nat, digits ≤ 15 → m < 10 ^ digits →
    lt (decimal m digits) (ofInt 1) = true

open ScoreLike

section Clamp

variable {F : Type} [ScoreLike F]

/-- `min(x, y)`: the first argument unless the second is smaller. -/
def min (x y : F) : F := if lt y x then y else x

def clamp (bound : Int) (x : F) : F := min (ofInt bound) (FloatLike.max (ofInt 0) x)

theorem inRange_ofInt {a bound : Int} (ha : 0 ≤ a) (hb : a ≤ bound) (hbound : bound < 2 ^ 53) :
    InRange bound (ofInt a : F) := by
  constructor
  · rw [lt_ofInt a 0 (by omega) (by omega), decide_eq_false_iff_not]
    omega
  · rw [lt_ofInt bound a (by omega) (by omega), decide_eq_false_iff_not]
    omega

/-- Whatever is clamped, a number that compares with nothing too, ends in the range. -/
theorem inRange_clamp {bound : Int} (h : 0 < bound) (hbound : bound < 2 ^ 53) (x : F) :
    InRange bound (clamp bound x) := by
  have hzero : InRange bound (ofInt 0 : F) := inRange_ofInt (le_refl 0) h.le hbound
  have hmax : InRange bound (ofInt bound : F) := inRange_ofInt h.le (le_refl bound) hbound
  rw [clamp, min, FloatLike.max]
  cases hx : lt (ofInt 0) x with
  | false =>
    simp only [Bool.false_eq_true, if_false]
    rwa [lt_ofInt 0 bound (by omega) (by omega), if_pos (by simpa using h)]
  | true =>
    simp only [if_true]
    cases hy : lt x (ofInt bound) with
    | false => exact hmax
    | true => exact ⟨lt_asymm hx, lt_asymm hy⟩

end Clamp

/-- A score, as the field constraint accepts it. -/
abbrev Score (F : Type) [FloatLike F] := { x : F // InRange 1 x }

section Score

variable {F : Type} [ScoreLike F]

def Score.zero : Score F := ⟨ofInt 0, inRange_ofInt (le_refl 0) zero_le_one (by decide)⟩

def Score.one : Score F := ⟨ofInt 1, inRange_ofInt zero_le_one (le_refl 1) (by decide)⟩

theorem half_fits : 5 ≤ 10 ^ 1 := by decide

theorem seven_tenths_fit : 7 ≤ 10 ^ 1 := by decide

theorem three_quarters_fit : 75 ≤ 10 ^ 2 := by decide

def Score.fraction (m digits : Nat)
    (h : m ≤ 10 ^ digits := by
      first | exact half_fits | exact seven_tenths_fit | exact three_quarters_fit | decide) :
    Score F :=
  ⟨decimal m digits, inRange_decimal m digits h⟩

theorem Score.one_ne_of_lt {x : Score F} (h : lt x.1 (ofInt 1) = true) : x ≠ Score.one := by
  rintro rfl
  have hirrefl : lt (ofInt 1 : F) (ofInt 1) = false := by
    rw [lt_ofInt 1 1 (by decide) (by decide)]
    decide
  exact absurd h (Bool.eq_false_iff.mp hirrefl)

def Score.clamped (x : F) : Score F := ⟨clamp 1 x, inRange_clamp Int.one_pos (by decide) x⟩

/-- `min(1.0, max(0.0, round(x, 6)))`. -/
def Score.rounded (x : F) : Score F := Score.clamped (roundTo 6 x)

end Score

section Rational

theorem inRange_rat {bound : Int} {q : ℚ} : InRange bound q ↔ 0 ≤ q ∧ q ≤ bound := by
  change decide (q < ((0 : Int) : ℚ)) = false ∧ decide ((bound : ℚ) < q) = false ↔ _
  simp

def decimalRat (m : Int) (digits : Nat) : ℚ := m / 10 ^ digits

def roundToRat (digits : Nat) (q : ℚ) : ℚ := decimalRat (roundHalfEven (q * 10 ^ digits)) digits

theorem roundHalfEven_between {a b : Int} {q : ℚ} (ha : (a : ℚ) ≤ q) (hb : q ≤ b) :
    a ≤ roundHalfEven q ∧ roundHalfEven q ≤ b := by
  have hfloor : a ≤ ⌊q⌋ := Int.le_floor.mpr ha
  have hle : ⌊q⌋ ≤ b := by exact_mod_cast (Int.floor_le q).trans hb
  rw [roundHalfEven]
  split
  · exact ⟨hfloor, hle⟩
  · next hcase =>
    refine ⟨by omega, ?_⟩
    -- rounding up happens below the bound only, for the bound is an integer
    have hne : ⌊q⌋ ≠ b := by
      intro heq
      have hq : q = ⌊q⌋ := le_antisymm (heq ▸ hb) (Int.floor_le q)
      apply hcase
      left
      linarith
    omega

theorem inRange_roundToRat {bound : Int} {q : ℚ} (digits : Nat) (h : InRange bound q) :
    InRange bound (roundToRat digits q) := by
  rw [inRange_rat] at h ⊢
  have hpos : (0 : ℚ) < 10 ^ digits := by positivity
  have hlow : ((0 : Int) : ℚ) ≤ q * 10 ^ digits := by
    rw [Int.cast_zero]
    exact mul_nonneg h.1 hpos.le
  have hhigh : q * 10 ^ digits ≤ ((bound * 10 ^ digits : Int) : ℚ) := by
    push_cast
    exact mul_le_mul_of_nonneg_right h.2 hpos.le
  obtain ⟨hzero, hbound⟩ := roundHalfEven_between hlow hhigh
  rw [roundToRat, decimalRat]
  refine ⟨div_nonneg (by exact_mod_cast hzero) hpos.le, ?_⟩
  rw [div_le_iff₀ hpos]
  exact_mod_cast hbound

instance : ScoreLike ℚ where
  le x y := decide (x ≤ y)
  decimal := decimalRat
  roundTo := roundToRat
  lt_asymm {x y} h := by
    have hlt : x < y := of_decide_eq_true h
    exact decide_eq_false hlt.le.not_gt
  lt_ofInt a b _ _ := by
    change decide ((a : ℚ) < b) = decide (a < b)
    simp
  inRange_decimal m digits h := by
    have hpos : (0 : ℚ) < 10 ^ digits := by positivity
    rw [inRange_rat, decimalRat]
    refine ⟨by positivity, ?_⟩
    rw [div_le_iff₀ hpos, Int.cast_one, one_mul]
    exact_mod_cast h
  inRange_roundTo digits h := inRange_roundToRat digits h
  inRange_percent {x} h := by
    rw [inRange_rat] at h ⊢
    change 0 ≤ x / ((100 : Int) : ℚ) ∧ x / ((100 : Int) : ℚ) ≤ ((1 : Int) : ℚ)
    push_cast at h ⊢
    constructor <;> linarith
  inRange_ratio {k n} h hn := by
    rw [inRange_rat]
    change 0 ≤ (((k : Int) : ℚ)) / ((n : Int) : ℚ) ∧ (((k : Int) : ℚ)) / ((n : Int) : ℚ) ≤
        ((1 : Int) : ℚ)
    have hpos : (0 : ℚ) < n := by exact_mod_cast hn
    push_cast
    refine ⟨by positivity, ?_⟩
    rw [div_le_one hpos]
    exact_mod_cast h

instance : FractionLike ℚ where
  lt_decimal_one m digits _ h := by
    apply decide_eq_true
    show ((m : Int) : ℚ) / 10 ^ digits < ((1 : Int) : ℚ)
    rw [div_lt_iff₀ (by positivity), Int.cast_one, one_mul]
    exact_mod_cast h

end Rational

section Metrics

open DataForge.Foundation.Strings

/-- Floats that are read from texts and measure distances. -/
class MetricLike (F : Type) extends ScoreLike F where
  /-- `float(text)`, where it does not raise. -/
  parse : Text → Option F
  inf : F
  isInf : F → Bool
  sqrt : F → F

/-- Digits alone, which is all that the rational numbers are read from here. -/
def parseRat (s : Text) : Option ℚ :=
  if s ≠ [] ∧ (s.all Char.isDigit) = true then
    some (s.foldl (fun n c => 10 * n + (c.toNat - '0'.toNat)) 0 : Nat)
  else none

/-- The first power of two above every double stands in for infinity. -/
instance : MetricLike ℚ where
  parse := parseRat
  inf := 2 ^ 1024
  isInf x := decide (x = 2 ^ 1024)
  sqrt := Rat.sqrt

end Metrics

section Signs

/-- Floats on which nothing negative is made of numbers that are not. -/
class SignLike (F : Type) extends MetricLike F where
  ofInt_nonneg : ∀ n : Nat, lt (ofInt n) (ofInt 0) = false
  add_nonneg : ∀ {x y : F}, lt x (ofInt 0) = false → lt y (ofInt 0) = false →
    lt (add x y) (ofInt 0) = false
  mul_nonneg : ∀ {x y : F}, lt x (ofInt 0) = false → lt y (ofInt 0) = false →
    lt (mul x y) (ofInt 0) = false
  div_nonneg : ∀ {x y : F}, lt x (ofInt 0) = false → lt y (ofInt 1) = false →
    lt (div x y) (ofInt 0) = false

theorem sum_nonneg {F : Type} [SignLike F] {xs : List F} (h : ∀ x ∈ xs, lt x (ofInt 0) = false) :
    lt (FloatLike.sum xs) (ofInt 0) = false := by
  have hfold : ∀ acc : F, lt acc (ofInt 0) = false → lt (xs.foldl add acc) (ofInt 0) = false := by
    induction xs with
    | nil => exact fun acc hacc => hacc
    | cons x xs ih =>
      obtain ⟨hx, hxs⟩ := List.forall_mem_cons.mp h
      exact fun acc hacc => ih hxs _ (SignLike.add_nonneg hacc hx)
  exact hfold _ (by simpa using SignLike.ofInt_nonneg (F := F) 0)

instance : SignLike ℚ where
  ofInt_nonneg n := by
    change decide (((n : Int) : ℚ) < ((0 : Int) : ℚ)) = false
    simp
  add_nonneg {x y} hx hy := by
    change decide (x < ((0 : Int) : ℚ)) = false at hx
    change decide (y < ((0 : Int) : ℚ)) = false at hy
    change decide (x + y < ((0 : Int) : ℚ)) = false
    simp only [Int.cast_zero, decide_eq_false_iff_not, not_lt] at hx hy ⊢
    positivity
  mul_nonneg {x y} hx hy := by
    change decide (x < ((0 : Int) : ℚ)) = false at hx
    change decide (y < ((0 : Int) : ℚ)) = false at hy
    change decide (x * y < ((0 : Int) : ℚ)) = false
    simp only [Int.cast_zero, decide_eq_false_iff_not, not_lt] at hx hy ⊢
    positivity
  div_nonneg {x y} hx hy := by
    change decide (x < ((0 : Int) : ℚ)) = false at hx
    change decide (y < ((1 : Int) : ℚ)) = false at hy
    change decide (x / y < ((0 : Int) : ℚ)) = false
    simp only [Int.cast_zero, Int.cast_one, decide_eq_false_iff_not, not_lt] at hx hy ⊢
    have hpos : 0 ≤ y := zero_le_one.trans hy
    positivity

end Signs

end DataForge.Foundation.Scores
