import DataForge.Foundation.Numbers
import Mathlib.Data.Int.Log
import Mathlib.Tactic.FieldSimp
import Mathlib.Tactic.Linarith
import Mathlib.Tactic.Positivity
import Mathlib.Tactic.Ring

namespace DataForge.Foundation.Rounding

open DataForge.Foundation.Numbers

section HalfEven

theorem roundHalfEven_intCast (n : ℤ) : roundHalfEven n = n := by
  rw [roundHalfEven, Int.floor_intCast, if_pos]
  left
  norm_num

theorem abs_roundHalfEven_sub_le (q : ℚ) : |roundHalfEven q - q| ≤ 1 / 2 := by
  have hlow := Int.floor_le q
  have hhigh := Int.lt_floor_add_one q
  rw [roundHalfEven, abs_le]
  split
  · next h =>
    have hhalf : q - ⌊q⌋ ≤ 1 / 2 := h.elim le_of_lt fun h => h.1.le
    constructor <;> linarith
  · next h =>
    have hhalf : 1 / 2 ≤ q - ⌊q⌋ := not_lt.mp (not_or.mp h).1
    push_cast
    constructor <;> linarith

/-- A number rounds to the integer that is less than a half away. -/
theorem roundHalfEven_eq {q : ℚ} {n : ℤ} (h : |q - n| < 1 / 2) : roundHalfEven q = n := by
  have hround := abs_le.mp (abs_roundHalfEven_sub_le q)
  have hnear := abs_lt.mp h
  have hlow : (roundHalfEven q : ℚ) < n + 1 := by linarith [hround.2, hnear.2]
  have hhigh : (n : ℚ) < roundHalfEven q + 1 := by linarith [hround.1, hnear.1]
  have hlow' : roundHalfEven q < n + 1 := by exact_mod_cast hlow
  have hhigh' : n < roundHalfEven q + 1 := by exact_mod_cast hhigh
  omega

end HalfEven

/-- The numbers with so many digits in a radix, between a least last and a greatest first
exponent. -/
structure Format where
  radix : ℕ
  precision : ℕ
  minExponent : ℤ
  maxExponent : ℤ
  two_le_radix : 2 ≤ radix
  precision_pos : 0 < precision

namespace Format

variable (f : Format)

/-- The exponent of the last digit that is kept of a number. -/
def lastExponent (x : ℚ) : ℤ := max (Int.log f.radix |x| - f.precision + 1) f.minExponent

def coefficient (x : ℚ) : ℤ := roundHalfEven (x / f.radix ^ f.lastExponent x)

/-- The nearest number of the format, the one with the even last digit of two, if there
were no greatest exponent. -/
def rounded (x : ℚ) : ℚ := f.coefficient x * f.radix ^ f.lastExponent x

/-- Rounding, where it does not overflow. -/
def round (x : ℚ) : Option ℚ :=
  if Int.log f.radix |f.rounded x| ≤ f.maxExponent then some (f.rounded x) else none

def Representable (x : ℚ) : Prop :=
  ∃ c e : ℤ, |c| < f.radix ^ f.precision ∧ f.minExponent ≤ e ∧ x = c * f.radix ^ e

/-- A number of the format that is not too large for it. -/
def Fits (x : ℚ) : Prop := f.Representable x ∧ Int.log f.radix |x| ≤ f.maxExponent

section Powers

theorem one_lt_radix : 1 < f.radix := f.two_le_radix

theorem radix_pos : (0 : ℚ) < f.radix := by
  exact_mod_cast Nat.zero_lt_of_lt f.one_lt_radix

theorem two_le_radix' : (2 : ℚ) ≤ f.radix := by exact_mod_cast f.two_le_radix

theorem zpow_radix_pos (e : ℤ) : (0 : ℚ) < (f.radix : ℚ) ^ e := zpow_pos f.radix_pos e

theorem zpow_radix_le {d e : ℤ} (h : d ≤ e) : (f.radix : ℚ) ^ d ≤ (f.radix : ℚ) ^ e :=
  zpow_le_zpow_right₀ (by linarith [f.two_le_radix']) h

/-- A step down divides by two at least. -/
theorem two_mul_zpow_le {d e : ℤ} (h : d < e) : 2 * (f.radix : ℚ) ^ d ≤ (f.radix : ℚ) ^ e := by
  have hstep : (f.radix : ℚ) ^ (d + 1) = f.radix * (f.radix : ℚ) ^ d := by
    rw [zpow_add_one₀ f.radix_pos.ne', mul_comm]
  have hle := f.zpow_radix_le (show d + 1 ≤ e by omega)
  rw [hstep] at hle
  exact (mul_le_mul_of_nonneg_right f.two_le_radix' (f.zpow_radix_pos d).le).trans hle

/-- A multiple of a power is one of every lower power. -/
theorem exists_mul_zpow {d e : ℤ} (h : d ≤ e) (c : ℤ) :
    ∃ n : ℤ, (c : ℚ) * (f.radix : ℚ) ^ e = n * (f.radix : ℚ) ^ d := by
  refine ⟨c * (f.radix : ℤ) ^ (e - d).toNat, ?_⟩
  have hsplit : (f.radix : ℚ) ^ e = (f.radix : ℚ) ^ (e - d).toNat * (f.radix : ℚ) ^ d := by
    rw [← zpow_natCast, ← zpow_add₀ f.radix_pos.ne']
    congr 1
    omega
  rw [hsplit]
  push_cast
  ring

end Powers

section Rounded

variable {f} {x y : ℚ}

theorem abs_lt_zpow (x : ℚ) : |x| < (f.radix : ℚ) ^ (f.lastExponent x + f.precision) := by
  refine (Int.lt_zpow_succ_log_self f.one_lt_radix |x|).trans_le (f.zpow_radix_le ?_)
  have := le_max_left (Int.log f.radix |x| - f.precision + 1) f.minExponent
  rw [lastExponent]
  omega

theorem lastExponent_le {e : ℤ} (hx : x ≠ 0) (hmin : f.minExponent ≤ e)
    (h : |x| < (f.radix : ℚ) ^ (e + f.precision)) : f.lastExponent x ≤ e := by
  have hlog := (Int.lt_zpow_iff_log_lt f.one_lt_radix (abs_pos.mpr hx)).mp h
  rw [lastExponent]
  omega

theorem abs_rounded_sub_le (x : ℚ) :
    |f.rounded x - x| ≤ (f.radix : ℚ) ^ f.lastExponent x / 2 := by
  have hpos := f.zpow_radix_pos (f.lastExponent x)
  have hsplit : f.rounded x - x =
      (f.coefficient x - x / (f.radix : ℚ) ^ f.lastExponent x) * (f.radix : ℚ) ^
        f.lastExponent x := by
    rw [sub_mul, div_mul_cancel₀ x hpos.ne', rounded]
  have hhalf : |f.coefficient x - x / (f.radix : ℚ) ^ f.lastExponent x| ≤ 1 / 2 :=
    abs_roundHalfEven_sub_le _
  rw [hsplit, abs_mul, abs_of_pos hpos]
  linarith [mul_le_mul_of_nonneg_right hhalf hpos.le]

/-- A multiple of the last unit that is less than half of it away is the result. -/
theorem rounded_eq {n : ℤ} (hy : y = n * (f.radix : ℚ) ^ f.lastExponent x)
    (h : |x - y| < (f.radix : ℚ) ^ f.lastExponent x / 2) : f.rounded x = y := by
  have hpos := f.zpow_radix_pos (f.lastExponent x)
  have hnear : |x / (f.radix : ℚ) ^ f.lastExponent x - n| < 1 / 2 := by
    have hdiv : x / (f.radix : ℚ) ^ f.lastExponent x - n =
        (x - y) / (f.radix : ℚ) ^ f.lastExponent x := by
      rw [sub_div, hy, mul_div_cancel_right₀ _ hpos.ne']
    rw [hdiv, abs_div, abs_of_pos hpos, div_lt_iff₀ hpos]
    linarith
  rw [rounded, coefficient, roundHalfEven_eq hnear, hy]

theorem rounded_zero : f.rounded 0 = 0 := by
  have hzero : roundHalfEven (0 : ℚ) = 0 := by exact_mod_cast roundHalfEven_intCast 0
  rw [rounded, coefficient, zero_div, hzero, Int.cast_zero, zero_mul]

theorem rounded_of_representable (h : f.Representable x) : f.rounded x = x := by
  by_cases hx : x = 0
  · rw [hx, rounded_zero]
  · obtain ⟨c, e, hc, hmin, hxc⟩ := h
    have hbound : |x| < (f.radix : ℚ) ^ (e + f.precision) := by
      have hc' : (|c| : ℚ) < (f.radix : ℚ) ^ f.precision := by exact_mod_cast hc
      rw [hxc, abs_mul, abs_of_pos (f.zpow_radix_pos e), zpow_add₀ f.radix_pos.ne', zpow_natCast,
        mul_comm ((f.radix : ℚ) ^ e)]
      exact mul_lt_mul_of_pos_right hc' (f.zpow_radix_pos e)
    obtain ⟨n, hn⟩ := f.exists_mul_zpow (lastExponent_le hx hmin hbound) c
    refine rounded_eq (hxc.trans hn) ?_
    rw [sub_self, abs_zero]
    exact half_pos (f.zpow_radix_pos _)

theorem abs_coefficient_le (x : ℚ) : |f.coefficient x| ≤ f.radix ^ f.precision := by
  have hpos := f.zpow_radix_pos (f.lastExponent x)
  have hquotient : |x / (f.radix : ℚ) ^ f.lastExponent x| < (f.radix : ℚ) ^ f.precision := by
    rw [abs_div, abs_of_pos hpos, div_lt_iff₀ hpos, ← zpow_natCast, ← zpow_add₀ f.radix_pos.ne',
      add_comm]
    exact abs_lt_zpow x
  have hround := abs_le.mp (abs_roundHalfEven_sub_le (x / (f.radix : ℚ) ^ f.lastExponent x))
  have hq := abs_lt.mp hquotient
  have hlow : (-(f.radix ^ f.precision : ℤ) - 1 : ℚ) < f.coefficient x := by
    rw [coefficient]
    push_cast
    linarith [hround.1, hq.1]
  have hhigh : (f.coefficient x : ℚ) < (f.radix ^ f.precision : ℤ) + 1 := by
    rw [coefficient]
    push_cast
    linarith [hround.2, hq.2]
  have hlow' : -(f.radix ^ f.precision : ℤ) - 1 < f.coefficient x := by exact_mod_cast hlow
  have hhigh' : f.coefficient x < (f.radix ^ f.precision : ℤ) + 1 := by exact_mod_cast hhigh
  rw [abs_le]
  constructor <;> omega

theorem representable_rounded (x : ℚ) : f.Representable (f.rounded x) := by
  have hmin : f.minExponent ≤ f.lastExponent x := le_max_right _ _
  rcases (abs_coefficient_le (f := f) x).lt_or_eq with h | h
  · exact ⟨f.coefficient x, f.lastExponent x, h, hmin, rfl⟩
  · -- the carry into a further digit leaves a power of the radix
    obtain ⟨p, hp⟩ := Nat.exists_eq_succ_of_ne_zero f.precision_pos.ne'
    have hcarry : |f.coefficient x| = (f.radix : ℤ) ^ p * f.radix := by rw [h, hp, pow_succ]
    have hsign : ∃ s : ℤ, |s| ≤ 1 ∧ f.coefficient x = s * ((f.radix : ℤ) ^ p * f.radix) := by
      rcases abs_cases (f.coefficient x) with ⟨hc, -⟩ | ⟨hc, -⟩
      · exact ⟨1, by norm_num, by rw [one_mul, ← hcarry, hc]⟩
      · exact ⟨-1, by norm_num, by rw [neg_one_mul, ← hcarry, hc, neg_neg]⟩
    obtain ⟨s, hs, hc⟩ := hsign
    refine ⟨s * (f.radix : ℤ) ^ p, f.lastExponent x + 1, ?_, by omega, ?_⟩
    · have hpow : (f.radix : ℤ) ^ p < (f.radix : ℤ) ^ f.precision := by
        rw [hp]
        exact pow_lt_pow_right₀ (by exact_mod_cast f.one_lt_radix) (Nat.lt_succ_self p)
      rw [abs_mul, abs_of_nonneg (by positivity : (0 : ℤ) ≤ (f.radix : ℤ) ^ p)]
      exact (mul_le_of_le_one_left (by positivity) hs).trans_lt hpow
    · rw [rounded, hc, zpow_add_one₀ f.radix_pos.ne']
      push_cast
      ring

end Rounded

section Near

variable {f} {x y : ℚ}

theorem zpow_log_le (hx : x ≠ 0) : (f.radix : ℚ) ^ Int.log f.radix |x| ≤ |x| :=
  Int.zpow_log_le_self f.one_lt_radix (abs_pos.mpr hx)

theorem lt_zpow_log (x : ℚ) : |x| < (f.radix : ℚ) ^ (Int.log f.radix |x| + 1) :=
  Int.lt_zpow_succ_log_self f.one_lt_radix |x|

/-- A number of the format is a multiple of its last unit, which is not above its first one. -/
theorem Representable.multiple (h : f.Representable y) (hy : y ≠ 0) :
    (∃ n : ℤ, y = n * (f.radix : ℚ) ^ f.lastExponent y) ∧ f.lastExponent y ≤
      Int.log f.radix |y| := by
  refine ⟨⟨f.coefficient y, (rounded_of_representable h).symm⟩, ?_⟩
  obtain ⟨n, hn⟩ : ∃ n : ℤ, y = n * (f.radix : ℚ) ^ f.lastExponent y :=
    ⟨f.coefficient y, (rounded_of_representable h).symm⟩
  have hn0 : n ≠ 0 := by
    rintro rfl
    exact hy (by rw [hn, Int.cast_zero, zero_mul])
  have hone : (1 : ℚ) ≤ |(n : ℚ)| := by exact_mod_cast Int.one_le_abs hn0
  rw [← Int.zpow_le_iff_le_log f.one_lt_radix (abs_pos.mpr hy)]
  nth_rewrite 2 [hn]
  rw [abs_mul, abs_of_pos (f.zpow_radix_pos _)]
  exact le_mul_of_one_le_left (f.zpow_radix_pos _).le hone

/-- Below a power of the radix a multiple of a smaller one leaves a gap. -/
theorem gap {n d e : ℤ} (hde : d ≤ e) (h : |(n : ℚ) * (f.radix : ℚ) ^ d| < (f.radix : ℚ) ^ e) :
    |(n : ℚ) * (f.radix : ℚ) ^ d| + (f.radix : ℚ) ^ d ≤ (f.radix : ℚ) ^ e := by
  have hpos := f.zpow_radix_pos d
  obtain ⟨m, hm⟩ := f.exists_mul_zpow hde 1
  rw [Int.cast_one, one_mul] at hm
  rw [abs_mul, abs_of_pos hpos, hm] at h ⊢
  have hlt : (|n| : ℚ) < m := lt_of_mul_lt_mul_right h hpos.le
  have hle : |n| + 1 ≤ m := by exact_mod_cast hlt
  have hle' : (|n| : ℚ) + 1 ≤ m := by exact_mod_cast hle
  linarith [mul_le_mul_of_nonneg_right hle' hpos.le]

/-- A number that is close to one of the format, by more digits than the format has, rounds
to it. -/
theorem rounded_of_near (h : f.Representable y) (hy : y ≠ 0)
    (hnear : |x - y| ≤ |y| * (f.radix : ℚ) ^ (-(f.precision : ℤ) - 2)) : f.rounded x = y := by
  obtain ⟨⟨n, hn⟩, hlast⟩ := h.multiple hy
  have hp : (1 : ℤ) ≤ f.precision := by exact_mod_cast f.precision_pos
  have hlow := zpow_log_le (f := f) hy
  have hhigh := lt_zpow_log (f := f) y
  set L := Int.log f.radix |y| with hL
  have hdist : |x - y| < (f.radix : ℚ) ^ (L - f.precision - 1) := by
    have hmul := mul_lt_mul_of_pos_right hhigh (f.zpow_radix_pos (-(f.precision : ℤ) - 2))
    rw [← zpow_add₀ f.radix_pos.ne'] at hmul
    have he : L + 1 + (-(f.precision : ℤ) - 2) = L - f.precision - 1 := by ring
    rw [he] at hmul
    exact hnear.trans_lt hmul
  have hfirst : L - f.precision + 1 ≤ f.lastExponent y := le_max_left _ _
  have hmin : f.minExponent ≤ f.lastExponent y := le_max_right _ _
  have hxy : |y| - |x| ≤ |x - y| := by
    rw [abs_sub_comm x y]
    exact abs_sub_abs_le_abs_sub y x
  have hyx : |x| - |y| ≤ |x - y| := abs_sub_abs_le_abs_sub x y
  have hbelow : (f.radix : ℚ) ^ (L - 1) ≤ |x| := by
    have htwo := f.two_mul_zpow_le (show L - 1 < L by omega)
    have hsmall := f.zpow_radix_le (show L - f.precision - 1 ≤ L - 1 by omega)
    linarith
  have habove : |x| < (f.radix : ℚ) ^ (L + 1) := by
    have hy' : |(n : ℚ) * (f.radix : ℚ) ^ f.lastExponent y| < (f.radix : ℚ) ^ (L + 1) := hn ▸ hhigh
    have hgap := gap (by omega) hy'
    have hunit := f.zpow_radix_le (show L - f.precision - 1 ≤ f.lastExponent y by omega)
    rw [← hn] at hgap
    linarith
  have hx : x ≠ 0 := by
    rintro rfl
    rw [abs_zero] at hbelow
    exact absurd hbelow (not_le.mpr (f.zpow_radix_pos _))
  have hlogLow := (Int.zpow_le_iff_le_log f.one_lt_radix (abs_pos.mpr hx)).mp hbelow
  have hlogHigh := (Int.lt_zpow_iff_log_lt f.one_lt_radix (abs_pos.mpr hx)).mp habove
  have hexponent : f.lastExponent x ≤ f.lastExponent y := by
    rw [lastExponent, lastExponent, ← hL]
    omega
  have hunit : L - f.precision ≤ f.lastExponent x := by
    rw [lastExponent]
    omega
  obtain ⟨m, hm⟩ := f.exists_mul_zpow hexponent n
  refine rounded_eq (hn.trans hm) ?_
  have htwo := f.two_mul_zpow_le (show L - f.precision - 1 < f.lastExponent x by omega)
  linarith

/-- How far a number is moved, where it has all its digits. -/
theorem abs_rounded_sub_le_mul (hx : x ≠ 0)
    (hmin : f.minExponent ≤ Int.log f.radix |x| - f.precision + 1) :
    |f.rounded x - x| ≤ |x| * (f.radix : ℚ) ^ (1 - (f.precision : ℤ)) / 2 := by
  refine (abs_rounded_sub_le x).trans ?_
  have hlast : f.lastExponent x = Int.log f.radix |x| + (1 - f.precision) := by
    rw [lastExponent, max_eq_left hmin]
    ring
  rw [hlast, zpow_add₀ f.radix_pos.ne']
  linarith [mul_le_mul_of_nonneg_right (zpow_log_le (f := f) hx)
    (f.zpow_radix_pos (1 - (f.precision : ℤ))).le]

end Near

section Half

variable {f}

/-- In an even radix a number is halved exactly only where it was rounded exactly. -/
theorem rounded_eq_of_half {k : ℕ} (heven : f.radix = 2 * k) {t : ℚ}
    (h : f.rounded (f.rounded t / 2) = t / 2) : f.rounded t = t := by
  by_contra hne
  have hpos := f.zpow_radix_pos (f.lastExponent t)
  have hmoved := abs_rounded_sub_le (f := f) t
  have hs : f.rounded t = f.coefficient t * (f.radix : ℚ) ^ f.lastExponent t := rfl
  rcases lt_or_ge (f.lastExponent (f.rounded t / 2)) (f.lastExponent t) with hlast | hlast
  · -- the half has its last digit one place further at most, where it is exact
    have hstep :
        (f.radix : ℚ) ^ f.lastExponent t = 2 * k * (f.radix : ℚ) ^ (f.lastExponent t - 1) := by
      have hradix : (f.radix : ℚ) = 2 * k := by exact_mod_cast heven
      rw [← hradix, mul_comm, ← zpow_add_one₀ f.radix_pos.ne', sub_add_cancel]
    have hhalf : f.rounded t / 2 =
        ((f.coefficient t * k : ℤ) : ℚ) * (f.radix : ℚ) ^ (f.lastExponent t - 1) := by
      rw [hs, hstep]
      push_cast
      ring
    have hlast' : f.lastExponent (f.rounded t / 2) ≤ f.lastExponent t - 1 := by omega
    obtain ⟨n, hn⟩ := f.exists_mul_zpow hlast' (f.coefficient t * k)
    have hexact : f.rounded (f.rounded t / 2) = f.rounded t / 2 := by
      refine rounded_eq (hhalf.trans hn) ?_
      rw [sub_self, abs_zero]
      exact half_pos (f.zpow_radix_pos _)
    exact hne (by linarith)
  · obtain ⟨n, hn⟩ := f.exists_mul_zpow hlast (f.coefficient (f.rounded t / 2))
    have ht : t / 2 = n * (f.radix : ℚ) ^ f.lastExponent t := by rw [← h, ← hn, rounded]
    have hdiff : f.rounded t - t =
        ((f.coefficient t - 2 * n : ℤ) : ℚ) * (f.radix : ℚ) ^ f.lastExponent t := by
      push_cast
      linarith
    have hne' : f.coefficient t - 2 * n ≠ 0 := by
      intro hzero
      rw [hzero, Int.cast_zero, zero_mul, sub_eq_zero] at hdiff
      exact hne hdiff
    have hone :
        (1 : ℚ) ≤ |((f.coefficient t - 2 * n : ℤ) : ℚ)| := by exact_mod_cast Int.one_le_abs hne'
    rw [hdiff, abs_mul, abs_of_pos hpos] at hmoved
    linarith [mul_le_mul_of_nonneg_right hone hpos.le]

end Half

section Fits

variable {f} {x y : ℚ}

theorem round_of_fits (h : f.Fits x) : f.round x = some x := by
  rw [round, rounded_of_representable h.1, if_pos h.2]

theorem round_eq_some :
    f.round x = some y ↔ f.rounded x = y ∧ Int.log f.radix |y| ≤ f.maxExponent := by
  rw [round]
  split
  · next h =>
    rw [Option.some.injEq]
    exact ⟨fun he => ⟨he, he ▸ h⟩, And.left⟩
  · next h => exact ⟨fun he => (nomatch he), fun he => absurd (he.1 ▸ he.2) h⟩

theorem fits_of_round (h : f.round x = some y) : f.Fits y := by
  obtain ⟨rfl, hmax⟩ := round_eq_some.mp h
  exact ⟨representable_rounded x, hmax⟩

/-- A number is shown as it is exactly when it fits. -/
theorem round_eq_self_iff : f.round x = some x ↔ f.Fits x :=
  ⟨fits_of_round, round_of_fits⟩

end Fits

section Nearest

variable {f} {x y : ℚ}

/-- Rounding takes a multiple of the last digit that is nearest. -/
theorem abs_rounded_sub_le_of_multiple (n : ℤ) :
    |f.rounded x - x| ≤ |n * (f.radix : ℚ) ^ f.lastExponent x - x| := by
  have hpos := f.zpow_radix_pos (f.lastExponent x)
  by_cases hn : (n : ℚ) = f.coefficient x
  · rw [hn, rounded]
  have hone : 1 ≤ |n - f.coefficient x| := by
    have hne : n - f.coefficient x ≠ 0 := fun h => hn (by exact_mod_cast sub_eq_zero.mp h)
    exact Int.one_le_abs hne
  have hfar : (f.radix : ℚ) ^ f.lastExponent x ≤
      |n * (f.radix : ℚ) ^ f.lastExponent x - f.rounded x| := by
    have hone' : (1 : ℚ) ≤ |(n : ℚ) - f.coefficient x| := by exact_mod_cast hone
    rw [rounded, ← sub_mul, abs_mul, abs_of_pos hpos]
    exact le_mul_of_one_le_left hpos.le hone'
  have hnear := abs_rounded_sub_le (f := f) x
  have htriangle := abs_sub_le (n * (f.radix : ℚ) ^ f.lastExponent x) x (f.rounded x)
  rw [abs_sub_comm x] at htriangle
  linarith

/-- No number of the format is nearer. -/
theorem abs_rounded_sub_le_of_representable (hy : f.Representable y) :
    |f.rounded x - x| ≤ |y - x| := by
  by_cases hx : x = 0
  · rw [hx, rounded_zero, sub_zero, abs_zero]
    exact abs_nonneg _
  obtain ⟨c, e, hc, he, rfl⟩ := hy
  by_cases hle : f.lastExponent x ≤ e
  · obtain ⟨n, hn⟩ := f.exists_mul_zpow hle c
    rw [hn]
    exact abs_rounded_sub_le_of_multiple n
  -- The format is finer around `y`: a power of the radix lies between `y` and `x`.
  have hlast : f.lastExponent x = Int.log f.radix |x| - f.precision + 1 := by
    rw [lastExponent] at hle ⊢
    omega
  have hprecision := f.precision_pos
  obtain ⟨n, hn⟩ := f.exists_mul_zpow
    (show f.lastExponent x ≤ Int.log f.radix |x| by omega) 1
  rw [Int.cast_one, one_mul] at hn
  have hpower := zpow_log_le (f := f) hx
  have hsmall : |(c : ℚ) * (f.radix : ℚ) ^ e| ≤ (f.radix : ℚ) ^ Int.log f.radix |x| := by
    have hc' : |(c : ℚ)| ≤ (f.radix : ℚ) ^ (f.precision : ℤ) := by
      rw [zpow_natCast]
      exact_mod_cast hc.le
    have he' := f.zpow_radix_pos e
    rw [abs_mul, abs_of_pos he']
    refine (mul_le_mul_of_nonneg_right hc' he'.le).trans ?_
    rw [← zpow_add₀ f.radix_pos.ne']
    exact f.zpow_radix_le (by omega)
  have hbetween := abs_sub_abs_le_abs_sub x ((c : ℚ) * (f.radix : ℚ) ^ e)
  rw [abs_sub_comm x] at hbetween
  rcases abs_cases x with ⟨habs, hsign⟩ | ⟨habs, hsign⟩
  · refine (abs_rounded_sub_le_of_multiple n).trans ?_
    rw [← hn, abs_sub_comm, abs_of_nonneg (by linarith)]
    linarith
  · refine (abs_rounded_sub_le_of_multiple (-n)).trans ?_
    rw [Int.cast_neg, neg_mul, ← hn, abs_of_nonneg (by linarith)]
    linarith

theorem rounded_le (hy : f.Representable y) (h : x ≤ y) : f.rounded x ≤ y := by
  have hnear := abs_rounded_sub_le_of_representable (x := x) hy
  rw [abs_of_nonneg (sub_nonneg.mpr h)] at hnear
  linarith [le_abs_self (f.rounded x - x)]

theorem le_rounded (hy : f.Representable y) (h : y ≤ x) : y ≤ f.rounded x := by
  have hnear := abs_rounded_sub_le_of_representable (x := x) hy
  rw [abs_of_nonpos (sub_nonpos.mpr h)] at hnear
  linarith [neg_abs_le (f.rounded x - x)]

theorem Representable.neg (h : f.Representable y) : f.Representable (-y) := by
  obtain ⟨c, e, hc, he, rfl⟩ := h
  exact ⟨-c, e, by rwa [abs_neg], he, by push_cast; ring⟩

end Nearest

end Format

end DataForge.Foundation.Rounding
