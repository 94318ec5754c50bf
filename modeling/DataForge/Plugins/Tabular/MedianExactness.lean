import DataForge.Foundation.DecimalText
import DataForge.Foundation.Failures
import DataForge.Plugins.Tabular.Imputation

namespace DataForge.Plugins.Tabular.MedianExactness

open DataForge.Foundation.Strings
open DataForge.Foundation.Outcome
open DataForge.Foundation.Decimals
open DataForge.Foundation.DecimalText
open DataForge.Foundation.Failures
open DataForge.Foundation.Features
open DataForge.Foundation.Rounding
open DataForge.Domain.Common
open DataForge.Plugins.Tabular.Imputation

section Numbers

/-- An integer that a double holds. -/
def WholeDouble (x : ℚ) : Prop := x.den = 1 ∧ binary64.Fits x

/-- The nearest double is finite and whole. -/
def NearWhole (x : ℚ) : Prop := ∃ n, wholeDouble x = some n

/-- A number whose text denotes it. -/
def ShownExactly (x : ℚ) : Prop := WholeDouble x ∨ (¬ NearWhole x ∧ context.Fits x)

/-- Two numbers whose mean is computed and shown exactly. -/
def MeanShownExactly (x y : ℚ) : Prop :=
  WholeDouble ((x + y) / 2) ∨
    (¬ NearWhole ((x + y) / 2) ∧ context.Fits (x + y) ∧ context.Fits ((x + y) / 2))

theorem num_of_whole {x : ℚ} (h : x.den = 1) : ((x.num : ℤ) : ℚ) = x := by
  conv_rhs => rw [← Rat.num_div_den x, h, Nat.cast_one, div_one]

theorem wholeDouble_eq_some {x : ℚ} {n : ℤ} :
    wholeDouble x = some n ↔ binary64.round x = some (n : ℚ) := by
  rw [wholeDouble, Option.bind_eq_some_iff]
  constructor
  · rintro ⟨y, hy, hn⟩
    split at hn
    · next hden =>
      obtain rfl := Option.some.inj hn
      rw [hy, num_of_whole hden]
    · cases hn
  · intro h
    refine ⟨n, h, ?_⟩
    rw [if_pos (Rat.den_intCast n), Rat.num_intCast]

theorem wholeDouble_self_iff {x : ℚ} :
    (∃ n, wholeDouble x = some n ∧ (n : ℚ) = x) ↔ WholeDouble x := by
  constructor
  · rintro ⟨n, hn, rfl⟩
    exact ⟨Rat.den_intCast n, Format.round_eq_self_iff.mp (wholeDouble_eq_some.mp hn)⟩
  · rintro ⟨hden, hfits⟩
    refine ⟨x.num, wholeDouble_eq_some.mpr ?_, num_of_whole hden⟩
    rw [num_of_whole hden, Format.round_of_fits hfits]

theorem not_nearWhole_iff {x : ℚ} : ¬ NearWhole x ↔ wholeDouble x = none := by
  rw [NearWhole, Option.eq_none_iff_forall_ne_some, not_exists]

/-- The text of a number denotes the whole double that it is taken for, or else the number
as the context rounds it. -/
theorem formatDecimal_denotes_iff {x q : ℚ} :
    (∃ text, formatDecimal (Decimal.finite x) = some text ∧ Denotes text q) ↔
      (∃ n, wholeDouble x = some n ∧ (n : ℚ) = q) ∨
        (wholeDouble x = none ∧ context.round x = some q) := by
  have hsome : ∀ n, DecimalLike.whole (Decimal.finite x) = some n →
      formatDecimal (Decimal.finite x) = some (decimalText n) := by
    intro n hn
    rw [formatDecimal, hn]
  have hnone : DecimalLike.whole (Decimal.finite x) = none → formatDecimal (Decimal.finite x) =
      (context.round x).map fun y =>
        plainText (context.coefficient y) (context.lastExponent y) := by
    intro hn
    rw [formatDecimal, hn]
    rfl
  cases hwhole : wholeDouble x with
  | some n =>
    rw [hsome n hwhole]
    constructor
    · rintro ⟨text, htext, hq⟩
      obtain rfl := Option.some.inj htext
      exact .inl ⟨n, rfl, (denotes_decimalText n).unique hq⟩
    · rintro (⟨m, hm, rfl⟩ | ⟨hnone, -⟩)
      · obtain rfl := Option.some.inj hm
        exact ⟨_, rfl, denotes_decimalText n⟩
      · cases hnone
  | none =>
    rw [hnone hwhole]
    have hshown : ∀ y, context.round x = some y →
        Denotes (plainText (context.coefficient y) (context.lastExponent y)) y := by
      intro y hy
      have h := denotes_plainText (context.coefficient y) (context.lastExponent y)
      have hvalue : (context.coefficient y : ℚ) * 10 ^ context.lastExponent y = y :=
        Format.rounded_of_representable (Format.fits_of_round hy).1
      rwa [hvalue] at h
    constructor
    · rintro ⟨text, htext, hq⟩
      obtain ⟨y, hy, rfl⟩ := Option.map_eq_some_iff.mp htext
      exact .inr ⟨rfl, by rw [hy, (hshown y hy).unique hq]⟩
    · rintro (⟨n, hn, -⟩ | ⟨-, hq⟩)
      · cases hn
      · refine ⟨_, ?_, hshown q hq⟩
        simp only [hq, Option.map_some]

theorem format_exact_iff {x : ℚ} :
    (∃ text, formatDecimal (Decimal.finite x) = some text ∧ Denotes text x) ↔ ShownExactly x := by
  rw [formatDecimal_denotes_iff, wholeDouble_self_iff, ← not_nearWhole_iff,
    Format.round_eq_self_iff, ShownExactly]

end Numbers

section Mean

/-- The context moves a number that is not tiny by less than one part in `10 ^ 27`. -/
theorem abs_context_rounded_sub_le {x : ℚ} (h : (10 : ℚ) ^ (-1 : ℤ) ≤ |x|) :
    |context.rounded x - x| ≤ |x| / 10 ^ 27 := by
  have hx : x ≠ 0 := by
    rintro rfl
    rw [abs_zero] at h
    exact absurd h (by norm_num)
  have hlog : -1 ≤ Int.log 10 |x| :=
    (Int.zpow_le_iff_le_log (by decide) (abs_pos.mpr hx)).mp (by exact_mod_cast h)
  have hmoved := Format.abs_rounded_sub_le_mul (f := context) hx (by
    show (-1000026 : ℤ) ≤ Int.log 10 |x| - 28 + 1
    omega)
  have hscale : ((context.radix : ℕ) : ℚ) ^ (1 - (context.precision : ℤ)) = 1 / 10 ^ 27 := by
    show ((10 : ℕ) : ℚ) ^ (1 - ((28 : ℕ) : ℤ)) = _
    norm_num
  rw [hscale] at hmoved
  have hpos := abs_nonneg x
  refine hmoved.trans ?_
  rw [mul_one_div, div_le_iff₀ (by norm_num)]
  have hdiv : 0 ≤ |x| / 10 ^ 27 := by positivity
  linarith

theorem log_le_maxExponent {x : ℚ} (h : |x| < (2 : ℚ) ^ (1026 : ℕ)) :
    Int.log 10 |x| ≤ 999999 := by
  by_cases hx : x = 0
  · rw [hx, abs_zero, Int.log_of_right_le_zero 10 le_rfl]
    decide
  · have hpow : (2 : ℚ) ^ (1026 : ℕ) ≤ ((10 : ℕ) : ℚ) ^ ((1026 : ℕ) : ℤ) := by
      rw [zpow_natCast]
      exact pow_le_pow_left₀ (by norm_num) (by norm_num) 1026
    have hlog := (Int.lt_zpow_iff_log_lt (by decide) (abs_pos.mpr hx)).mp (h.trans_le hpow)
    omega

theorem abs_lt_of_fits {x : ℚ} (h : binary64.Fits x) : |x| < (2 : ℚ) ^ (1024 : ℕ) := by
  refine (Int.lt_zpow_succ_log_self (b := 2) (by decide) |x|).trans_le ?_
  have hle : Int.log 2 |x| + 1 ≤ ((1024 : ℕ) : ℤ) := by
    have hmax : Int.log 2 |x| ≤ 1023 := h.2
    omega
  have hpow := zpow_le_zpow_right₀ (show (1 : ℚ) ≤ ((2 : ℕ) : ℚ) by norm_num) hle
  rwa [zpow_natCast] at hpow

/-- The mean of two numbers, where it is an integer that a double holds, is taken for it
whatever the context rounds on the way. -/
theorem mean_of_wholeDouble {t : ℚ} (h : WholeDouble (t / 2)) :
    ∃ s r, context.round t = some s ∧ context.round (s / 2) = some r ∧
      binary64.round r = some (t / 2) := by
  by_cases ht : t = 0
  · subst ht
    have hzero : context.round 0 = some 0 :=
      Format.round_eq_some.mpr ⟨Format.rounded_zero, by
        rw [abs_zero]
        exact (Int.log_of_right_le_zero 10 le_rfl).le.trans (by decide)⟩
    refine ⟨0, 0, hzero, by rw [zero_div, hzero], ?_⟩
    rw [zero_div] at h ⊢
    exact Format.round_of_fits h.2
  · have hm : t / 2 ≠ 0 := div_ne_zero ht two_ne_zero
    have hone : 1 ≤ |t / 2| := by
      rw [← num_of_whole h.1, ← Int.cast_abs]
      exact_mod_cast Int.one_le_abs (Rat.num_ne_zero.mpr hm)
    have hbig := abs_lt_of_fits h.2
    have hpow : (2 : ℚ) ^ (1026 : ℕ) = 4 * 2 ^ (1024 : ℕ) := by rw [pow_add 2 1024 2, mul_comm]; rfl
    generalize (2 : ℚ) ^ (1024 : ℕ) = bound at hbig hpow
    have hdouble : |t| = 2 * |t / 2| := by rw [abs_div, abs_two, mul_div_cancel₀ _ two_ne_zero]
    have hsum := abs_context_rounded_sub_le (x := t) (by norm_num; linarith)
    set s := context.rounded t with hs
    have hlow := abs_sub_abs_le_abs_sub t s
    have hhigh := abs_sub_abs_le_abs_sub s t
    rw [abs_sub_comm t s] at hlow
    have hhalf : |s / 2| = |s| / 2 := by rw [abs_div, abs_two]
    have hmean := abs_context_rounded_sub_le (x := s / 2) (by
      rw [hhalf]
      norm_num
      norm_num at hsum
      linarith)
    set r := context.rounded (s / 2) with hr
    have hhigh' := abs_sub_abs_le_abs_sub r (s / 2)
    have hdist : |r - t / 2| ≤ |r - s / 2| + |s / 2 - t / 2| := abs_sub_le _ _ _
    have hshift : |s / 2 - t / 2| = |s - t| / 2 := by rw [← sub_div, abs_div, abs_two]
    norm_num at hsum hmean
    have hmaxS : |s| < (2 : ℚ) ^ (1026 : ℕ) := by
      rw [hpow]
      linarith only [hhigh, hsum, hdouble, hbig, hone]
    have hmaxR : |r| < (2 : ℚ) ^ (1026 : ℕ) := by
      rw [hpow]
      linarith only [hhigh, hsum, hdouble, hbig, hone, hhigh', hmean, hhalf]
    refine ⟨s, r, Format.round_eq_some.mpr ⟨hs.symm, log_le_maxExponent hmaxS⟩,
      Format.round_eq_some.mpr ⟨hr.symm, log_le_maxExponent hmaxR⟩,
      Format.round_eq_some.mpr ⟨?_, h.2.2⟩⟩
    refine Format.rounded_of_near h.2.1 hm ?_
    have hscale : ((binary64.radix : ℕ) : ℚ) ^ (-(binary64.precision : ℤ) - 2) = 1 / 2 ^ 55 := by
      show ((2 : ℕ) : ℚ) ^ (-((53 : ℕ) : ℤ) - 2) = _
      norm_num
    rw [hscale]
    norm_num
    linarith only [hdist, hshift, hsum, hmean, hhigh, hhalf, hdouble, hone]

/-- The mean of the middle two as the code computes and writes it. -/
theorem mean_exact_iff {x y : ℚ} :
    (∃ text, (DecimalLike.midpoint (Decimal.finite x) (.finite y)).bind formatDecimal = some text ∧
        Denotes text ((x + y) / 2)) ↔ MeanShownExactly x y := by
  have hmidpoint : DecimalLike.midpoint (Decimal.finite x) (.finite y) =
      (context.round (x + y)).bind fun s => (context.round (s / 2)).map Decimal.finite := rfl
  have hstages : (∃ text, (DecimalLike.midpoint (Decimal.finite x) (.finite y)).bind formatDecimal =
      some text ∧ Denotes text ((x + y) / 2)) ↔
      ∃ s r, context.round (x + y) = some s ∧ context.round (s / 2) = some r ∧
        ∃ text, formatDecimal (Decimal.finite r) = some text ∧ Denotes text ((x + y) / 2) := by
    rw [hmidpoint]
    simp only [Option.bind_eq_some_iff, Option.map_eq_some_iff]
    constructor
    · rintro ⟨text, ⟨d, ⟨s, hs, r, hr, rfl⟩, htext⟩, hdenotes⟩
      exact ⟨s, r, hs, hr, text, htext, hdenotes⟩
    · rintro ⟨s, r, hs, hr, text, htext, hdenotes⟩
      exact ⟨text, ⟨_, ⟨s, hs, r, hr, rfl⟩, htext⟩, hdenotes⟩
  rw [hstages]
  constructor
  · rintro ⟨s, r, hs, hr, htext⟩
    rcases formatDecimal_denotes_iff.mp htext with ⟨n, hn, hmean⟩ | ⟨hnone, hround⟩
    · left
      rw [← hmean]
      exact ⟨Rat.den_intCast n, Format.fits_of_round (wholeDouble_eq_some.mp hn)⟩
    · right
      have hfits := Format.fits_of_round hr
      rw [Format.round_of_fits hfits] at hround
      obtain rfl := Option.some.inj hround
      obtain ⟨hs', -⟩ := Format.round_eq_some.mp hs
      obtain ⟨hr', -⟩ := Format.round_eq_some.mp hr
      have hexact : context.rounded (x + y) = x + y :=
        Format.rounded_eq_of_half (k := 5) rfl (by rw [hs', hr'])
      rw [← hs', hexact] at hs
      exact ⟨not_nearWhole_iff.mpr hnone, Format.fits_of_round hs, hfits⟩
  · rintro (hwhole | ⟨hnear, hsum, hmean⟩)
    · obtain ⟨s, r, hs, hr, hround⟩ := mean_of_wholeDouble hwhole
      refine ⟨s, r, hs, hr, formatDecimal_denotes_iff.mpr (.inl ⟨((x + y) / 2).num, ?_, ?_⟩)⟩
      · rw [wholeDouble_eq_some, num_of_whole hwhole.1, hround]
      · exact num_of_whole hwhole.1
    · refine ⟨x + y, (x + y) / 2, Format.round_of_fits hsum, Format.round_of_fits hmean, ?_⟩
      exact formatDecimal_denotes_iff.mpr
        (.inr ⟨not_nearWhole_iff.mp hnear, Format.round_of_fits hmean⟩)

end Mean

section Median

variable {values : List Text} {numbers : List ℚ}

def sorted (numbers : List ℚ) : List ℚ := numbers.insertionSort (· ≤ ·)

/-- A number with at most so many significant digits. -/
def Digits (n : Nat) (x : ℚ) : Prop := ∃ c e : ℤ, |c| < 10 ^ n ∧ x = c * 10 ^ e

theorem parseDecimal_of_denotes {text : Text} {q : ℚ} (h : Denotes text q) :
    parseDecimal Decimal text = .ok (.finite q) := by
  have hparse : (DecimalLike.parse text : Option Decimal) = some (.finite q) := h
  rw [parseDecimal, hparse]
  rfl

theorem sortedDecimals_finite (numbers : List ℚ) :
    sortedDecimals (numbers.map Decimal.finite) = (sorted numbers).map Decimal.finite := by
  refine (List.map_insertionSort _ _ _ _ fun x _ y _ => ?_).symm
  show x ≤ y ↔ decide (x ≤ y) = true
  rw [decide_eq_true_eq]

/-- The median of texts that denote numbers. -/
theorem median_eq_ok_iff (h : List.Forall₂ Denotes values numbers) {text : Text} :
    median Decimal values = .ok text ↔
      (middle ((sorted numbers).map Decimal.finite)).bind formatDecimal = some text := by
  have hparsed : values.mapM (parseDecimal Decimal) = .ok (numbers.map Decimal.finite) := by
    rw [mapM_eq_ok_iff_forall₂, List.forall₂_map_right_iff]
    exact h.imp fun _ _ hvalue => parseDecimal_of_denotes hvalue
  rw [median, hparsed, ok_bind, check_bind_eq_ok, guardOk_eq_ok, sortedDecimals_finite]
  cases hmiddle : (middle ((sorted numbers).map Decimal.finite)).bind formatDecimal with
  | none =>
    simp
  | some shown =>
    have hne : (numbers.map Decimal.finite).length ≠ 0 := by
      intro hlength
      obtain rfl : numbers = [] := by simpa using hlength
      cases hmiddle
    simp only [Except.ok.injEq, Option.some.injEq]
    exact and_iff_right hne

theorem length_sorted : (sorted numbers).length = numbers.length := List.length_insertionSort _ _

theorem median_odd_iff (h : List.Forall₂ Denotes values numbers)
    (hodd : numbers.length % 2 = 1) {x : ℚ} (hx : (sorted numbers)[numbers.length / 2]? = some x) :
    (∃ text, median Decimal values = .ok text ∧ Denotes text x) ↔ ShownExactly x := by
  have hmiddle : middle ((sorted numbers).map Decimal.finite) = some (.finite x) := by
    rw [middle, List.length_map, length_sorted, if_pos hodd, List.getElem?_map, hx, Option.map_some]
  simp only [median_eq_ok_iff h, hmiddle, Option.bind_some]
  exact format_exact_iff

theorem median_even_iff (h : List.Forall₂ Denotes values numbers) (heven : numbers.length % 2 = 0)
    {low high : ℚ} (hlow : (sorted numbers)[numbers.length / 2 - 1]? = some low)
    (hhigh : (sorted numbers)[numbers.length / 2]? = some high) :
    (∃ text, median Decimal values = .ok text ∧ Denotes text ((low + high) / 2)) ↔
      MeanShownExactly low high := by
  have hmiddle : middle ((sorted numbers).map Decimal.finite) =
      DecimalLike.midpoint (Decimal.finite low) (.finite high) := by
    rw [middle, List.length_map, length_sorted, if_neg (by omega), List.getElem?_map, hlow,
      List.getElem?_map, hhigh]
    rfl
  simp only [median_eq_ok_iff h, hmiddle]
  exact mean_exact_iff

/-- The median of a list of numbers as the list is written: the middle one of an odd number,
and the mean of the middle two of at most 27 digits. -/
structure ExactMedian (values : List Text) (numbers : List ℚ) : Prop where
  odd : ∀ x, numbers.length % 2 = 1 → (sorted numbers)[numbers.length / 2]? = some x →
    x ∈ numbers ∧ ∃ text, median Decimal values = .ok text ∧ Denotes text x
  even : ∀ low high, numbers.length % 2 = 0 → (sorted numbers)[numbers.length / 2 - 1]? = some low →
    (sorted numbers)[numbers.length / 2]? = some high → Digits 27 low → Digits 27 high →
    ∃ text, median Decimal values = .ok text ∧ Denotes text ((low + high) / 2)

structure MedianShown (numbers : List ℚ) : Prop where
  odd : ∀ x, numbers.length % 2 = 1 → (sorted numbers)[numbers.length / 2]? =
    some x → ShownExactly x
  even : ∀ low high, numbers.length % 2 = 0 → (sorted numbers)[numbers.length / 2 - 1]? = some low →
    (sorted numbers)[numbers.length / 2]? = some high → Digits 27 low → Digits 27 high →
    MeanShownExactly low high

/-- The median is exact exactly where the float test and the context leave it as it is. -/
theorem median_exact_iff (h : List.Forall₂ Denotes values numbers) :
    ExactMedian values numbers ↔ MedianShown numbers := by
  constructor
  · intro hexact
    refine ⟨fun x hodd hx => ?_, fun low high heven hlow hhigh hdigits hdigits' => ?_⟩
    · exact (median_odd_iff h hodd hx).mp (hexact.odd x hodd hx).2
    · exact (median_even_iff h heven hlow hhigh).mp
        (hexact.even low high heven hlow hhigh hdigits hdigits')
  · intro hshown
    refine ⟨fun x hodd hx => ⟨?_, ?_⟩, fun low high heven hlow hhigh hdigits hdigits' => ?_⟩
    · exact (List.mem_insertionSort _).mp (List.mem_of_getElem? hx)
    · exact (median_odd_iff h hodd hx).mpr (hshown.odd x hodd hx)
    · exact (median_even_iff h heven hlow hhigh).mpr
        (hshown.even low high heven hlow hhigh hdigits hdigits')

end Median

section Example

theorem denotes_one : Denotes "1".toList 1 := by
  have h := denotes_decimalText 1
  rwa [Int.cast_one] at h

theorem median_exact_one : ExactMedian ["1".toList] [1] ↔ MedianShown [1] :=
  median_exact_iff (.cons denotes_one .nil)

def nearOne : ℚ := (100000000000000001 : ℤ) * 10 ^ (-17 : ℤ)

theorem denotes_nearOne : Denotes "1.00000000000000001".toList nearOne := by
  have htext : "1.00000000000000001".toList =
      plainText 100000000000000001 (-17) := by decide +kernel
  rw [htext]
  exact denotes_plainText _ _

/-- A number so close to one is written as one. -/
theorem not_shownExactly_nearOne : ¬ ShownExactly nearOne := by
  have hone : binary64.Fits 1 := by
    refine ⟨⟨1, 0, ?_, by decide, by simp⟩, ?_⟩
    · show |(1 : ℤ)| < ((2 : ℕ) : ℤ) ^ 53
      norm_num
    · show Int.log 2 |(1 : ℚ)| ≤ 1023
      rw [abs_one, Int.log_one_right]
      decide
  have hrounded : binary64.rounded nearOne = 1 := by
    refine Format.rounded_of_near hone.1 one_ne_zero ?_
    have hscale : ((binary64.radix : ℕ) : ℚ) ^ (-(binary64.precision : ℤ) - 2) = 1 / 2 ^ 55 := by
      show ((2 : ℕ) : ℚ) ^ (-((53 : ℕ) : ℤ) - 2) = _
      norm_num
    rw [hscale, nearOne]
    norm_num [abs_of_pos]
  rintro (⟨hden, -⟩ | ⟨hnear, -⟩)
  · have hscaled : ((nearOne.num * 10 ^ 17 : ℤ) : ℚ) = (100000000000000001 : ℤ) := by
      rw [Int.cast_mul, num_of_whole hden, nearOne]
      norm_num
    have hinteger : nearOne.num * 10 ^ 17 = 100000000000000001 := by exact_mod_cast hscaled
    omega
  · exact hnear
      ⟨1, wholeDouble_eq_some.mpr (Format.round_eq_some.mpr ⟨by rw [hrounded, Int.cast_one],
      by rw [Int.cast_one]; exact hone.2⟩)⟩

theorem nearOne_inexact : ¬ ∀ (values : List Text) (numbers : List ℚ), values ≠ [] →
    List.Forall₂ Denotes values numbers → ExactMedian values numbers := by
  intro h
  have hdenotes : List.Forall₂ Denotes ["1.00000000000000001".toList] [nearOne] :=
    .cons denotes_nearOne .nil
  have hexact := (h _ _ (List.cons_ne_nil _ _) hdenotes).odd nearOne rfl rfl
  exact not_shownExactly_nearOne ((median_odd_iff hdenotes rfl rfl).mp hexact.2)

end Example

end DataForge.Plugins.Tabular.MedianExactness
