import DataForge.Foundation.Scores

namespace DataForge.Foundation.OrderedScores

open DataForge.Foundation.Numbers
open DataForge.Foundation.Scores
open FloatLike ScoreLike

/-- Floats whose comparisons order all of them but those that are no numbers, and on which
rounding and the complement of a score follow that order. -/
class OrderedLike (F : Type) extends ScoreLike F where
  isNan : F → Bool
  lt_of_isNan : ∀ {x y : F}, isNan x = true ∨ isNan y = true → lt x y = false
  isNan_ofInt : ∀ n : Int, isNan (ofInt n : F) = false
  isNan_decimal : ∀ (mantissa : Int) (digits : Nat), isNan (decimal mantissa digits : F) = false
  not_lt_trans : ∀ {x y z : F}, isNan y = false → lt y x = false → lt z y = false → lt z x = false
  beq_iff : ∀ {x y : F}, beq x y = true ↔
    isNan x = false ∧ isNan y = false ∧ lt x y = false ∧ lt y x = false
  isNan_roundTo : ∀ (digits : Nat) (x : F), isNan (roundTo digits x) = isNan x
  roundTo_mono : ∀ {x y : F} (digits : Nat), lt y x = false →
    lt (roundTo digits y) (roundTo digits x) = false
  isNan_complement : ∀ x : F, isNan (sub (ofInt 1) x) = isNan x
  complement_anti : ∀ {x y : F}, lt y x = false → lt (sub (ofInt 1) x) (sub (ofInt 1) y) = false
  inRange_complement : ∀ {x : F}, InRange 1 x → InRange 1 (sub (ofInt 1) x)
  complement_one : sub (ofInt 1) (ofInt 1) = (ofInt 0 : F)

open OrderedLike

variable {F : Type} [OrderedLike F] {x y z : F} {xs ys : List F}

/-- Not above, and a number exactly if the other one is. -/
def Below (x y : F) : Prop := isNan x = isNan y ∧ lt y x = false

instance : Decidable (Below x y) := inferInstanceAs (Decidable (_ ∧ _))

theorem lt_irrefl (x : F) : lt x x = false := by
  rw [Bool.eq_false_iff]
  intro h
  rw [lt_asymm h] at h
  cases h

namespace Below

theorem refl (x : F) : Below x x := ⟨rfl, lt_irrefl x⟩

theorem trans (hxy : Below x y) (hyz : Below y z) : Below x z := by
  refine ⟨hxy.1.trans hyz.1, ?_⟩
  cases hnan : isNan y with
  | true => exact lt_of_isNan (.inl (hyz.1.symm.trans hnan))
  | false => exact not_lt_trans hnan hxy.2 hyz.2

theorem of_lt (h : lt x y = true) : Below x y := by
  have hnumber : ∀ z, isNan z = true → z = x ∨ z = y → False := by
    rintro z hz (rfl | rfl)
    · rw [lt_of_isNan (.inl hz)] at h
      cases h
    · rw [lt_of_isNan (.inr hz)] at h
      cases h
  refine ⟨?_, lt_asymm h⟩
  rw [Bool.eq_false_iff.mpr fun hx => hnumber x hx (.inl rfl),
    Bool.eq_false_iff.mpr fun hy => hnumber y hy (.inr rfl)]

theorem trans_lt (hxy : Below x y) (hyz : FloatLike.lt y z = true) : FloatLike.lt x z = true := by
  cases hxz : FloatLike.lt x z with
  | true => rfl
  | false =>
    have hzx : Below z x := ⟨(hxy.1.trans (of_lt hyz).1).symm, hxz⟩
    exact (hzx.trans hxy).2.symm.trans hyz

theorem lt_trans (hxy : FloatLike.lt x y = true) (hyz : Below y z) : FloatLike.lt x z = true := by
  cases hxz : FloatLike.lt x z with
  | true => rfl
  | false =>
    have hzx : Below z x := ⟨((of_lt hxy).1.trans hyz.1).symm, hxz⟩
    exact (hyz.trans hzx).2.symm.trans hxy

theorem max {x' y' : F} (hx : Below x x') (hy : Below y y') :
    Below (max x y) (FloatLike.max x' y') := by
  rw [FloatLike.max, FloatLike.max]
  cases hlt : lt x y with
  | true =>
    -- the larger of the two on the left is below its partner, and so below the larger there
    rw [if_pos rfl]
    split
    · exact hy
    · next hlt' =>
      rw [Bool.not_eq_true] at hlt'
      have hnumbers : isNan x' = isNan y' := hx.1.symm.trans ((of_lt hlt).1.trans hy.1)
      exact hy.trans ⟨hnumbers.symm, hlt'⟩
  | false =>
    rw [if_neg Bool.false_ne_true]
    split
    · next hlt' => exact hx.trans (of_lt hlt')
    · exact hx

theorem min {x' y' : F} (hx : Below x x') (hy : Below y y') :
    Below (Scores.min x y) (Scores.min x' y') := by
  rw [Scores.min, Scores.min]
  cases hlt : lt y' x' with
  | true =>
    rw [if_pos rfl]
    split
    · exact hy
    · next hlt' =>
      rw [Bool.not_eq_true] at hlt'
      have hnumbers : isNan x = isNan y := hx.1.trans ((of_lt hlt).1.symm.trans hy.1.symm)
      exact trans ⟨hnumbers, hlt'⟩ hy
  | false =>
    rw [if_neg Bool.false_ne_true]
    split
    · next hlt' => exact (of_lt hlt').trans hx
    · exact hx

theorem roundTo (digits : Nat) (h : Below x y) :
    Below (roundTo digits x) (ScoreLike.roundTo digits y) :=
  ⟨by rw [isNan_roundTo, isNan_roundTo, h.1], roundTo_mono digits h.2⟩

theorem complement (h : Below x y) : Below (sub (ofInt 1) y) (sub (ofInt 1) x) :=
  ⟨by rw [isNan_complement, isNan_complement, h.1], complement_anti h.2⟩

theorem clamp (bound : Int) (h : Below x y) : Below (clamp bound x) (Scores.clamp bound y) :=
  (refl _).min ((refl _).max h)

theorem foldl_max (h : List.Forall₂ Below xs ys) (hxy : Below x y) :
    Below (xs.foldl FloatLike.max x) (ys.foldl FloatLike.max y) := by
  induction h generalizing x y with
  | nil => exact hxy
  | cons hhead _ ih => exact ih (hxy.max hhead)

end Below

section Maximum

/-- `max(values, default=x)`: the first of the greatest values. -/
def maximum (x : F) : List F → F
  | [] => x
  | y :: ys => ys.foldl FloatLike.max y

theorem below_maximum (h : List.Forall₂ Below xs ys) : Below (maximum x xs) (maximum x ys) := by
  cases h with
  | nil => exact .refl x
  | cons hhead htail => exact Below.foldl_max htail hhead

theorem foldl_max_of_isNan (h : isNan x = true) : xs.foldl FloatLike.max x = x := by
  induction xs with
  | nil => rfl
  | cons y xs ih =>
    rw [List.foldl_cons, FloatLike.max, lt_of_isNan (.inl h), if_neg Bool.false_ne_true]
    exact ih

/-- A maximum that starts with a number is the greatest of the numbers. -/
theorem foldl_max_spec (h : isNan x = false) :
    (xs.foldl FloatLike.max x ∈ x :: xs ∧ isNan (xs.foldl FloatLike.max x) = false) ∧
      ∀ y ∈ x :: xs, isNan y = false → Below y (xs.foldl FloatLike.max x) := by
  induction xs generalizing x with
  | nil => exact ⟨⟨List.mem_singleton.mpr rfl, h⟩, fun y hy _ => List.mem_singleton.mp hy ▸ .refl x⟩
  | cons z xs ih =>
    rw [List.foldl_cons, FloatLike.max]
    split
    · next hlt =>
      have hz : isNan z = false := (Below.of_lt hlt).1.symm.trans h
      obtain ⟨⟨hmem, hnumber⟩, hle⟩ := ih hz
      refine ⟨⟨List.mem_cons_of_mem x hmem, hnumber⟩, fun y hy hy' => ?_⟩
      rcases List.mem_cons.mp hy with rfl | hy
      · exact (Below.of_lt hlt).trans (hle z List.mem_cons_self hz)
      · exact hle y hy hy'
    · next hlt =>
      rw [Bool.not_eq_true] at hlt
      obtain ⟨⟨hmem, hnumber⟩, hle⟩ := ih h
      have hx := hle x List.mem_cons_self h
      refine ⟨⟨?_, hnumber⟩, fun y hy hy' => ?_⟩
      · rcases List.mem_cons.mp hmem with heq | hmem
        · rw [heq]
          exact List.mem_cons_self
        · exact List.mem_cons_of_mem x (List.mem_cons_of_mem z hmem)
      · rcases List.mem_cons.mp hy with rfl | hy
        · exact hx
        · rcases List.mem_cons.mp hy with rfl | hy
          · exact Below.trans ⟨hy'.trans h.symm, hlt⟩ hx
          · exact hle y (List.mem_cons_of_mem x hy) hy'

end Maximum

section Rounded

/-- A number in the range stays what it is, as far as comparisons tell. -/
theorem below_clamp (hx : InRange 1 x) (h : isNan x = false) :
    Below (clamp 1 x) x ∧ Below x (clamp 1 x) := by
  have hzero : Below (ofInt 0) x := ⟨(isNan_ofInt 0).trans h.symm, hx.1⟩
  have hone : Below x (ofInt 1) := ⟨h.trans (isNan_ofInt 1).symm, hx.2⟩
  rw [clamp, FloatLike.max, Scores.min]
  cases hlt : lt (ofInt 0) x with
  | true =>
    rw [if_pos rfl]
    split
    · exact ⟨.refl x, .refl x⟩
    · next hlt' =>
      rw [Bool.not_eq_true] at hlt'
      exact ⟨⟨hone.1.symm, hlt'⟩, hone⟩
  | false =>
    have hsmall : lt (ofInt 0 : F) (ofInt 1) = true := by
      rw [lt_ofInt 0 1 (by decide) (by decide)]
      rfl
    rw [if_neg Bool.false_ne_true, if_pos hsmall]
    exact ⟨hzero, ⟨hzero.1.symm, hlt⟩⟩

theorem isNan_clamp (bound : Int) (x : F) : isNan (clamp bound x) = false := by
  have hmax : isNan (FloatLike.max (ofInt 0) x) = false := by
    rw [FloatLike.max]
    split
    · next h => exact (Below.of_lt h).1.symm.trans (isNan_ofInt 0)
    · exact isNan_ofInt 0
  rw [clamp, Scores.min]
  split
  · exact hmax
  · exact isNan_ofInt bound

theorem below_rounded (h : Below x y) : Below (Score.rounded x).1 (Score.rounded y).1 :=
  (h.roundTo 6).clamp 1

/-- A greatest one of the numbers of a list. -/
structure IsGreatest (x : F) (xs : List F) : Prop where
  mem : x ∈ xs
  number : isNan x = false
  le : ∀ y ∈ xs, isNan y = false → Below y x

theorem isGreatest_maximum {fallback : F} (hne : xs ≠ []) (h : ∀ y ∈ xs.head?, isNan y = false) :
    IsGreatest (maximum fallback xs) xs := by
  cases xs with
  | nil => exact absurd rfl hne
  | cons x xs =>
    have hspec : (xs.foldl FloatLike.max x ∈ x :: xs ∧ isNan (xs.foldl FloatLike.max x) = false) ∧
        ∀ y ∈ x :: xs, isNan y = false → Below y (xs.foldl FloatLike.max x) :=
          foldl_max_spec (h x rfl)
    exact ⟨hspec.1.1, hspec.1.2, hspec.2⟩

theorem below_rounded_iff (hx : InRange 1 x) (hy : InRange 1 y) (hx' : isNan x = false)
    (hy' : isNan y = false) : lt (Score.rounded y).1 (Score.rounded x).1 = false ↔
      Below (roundTo 6 x) (roundTo 6 y) := by
  have hclamp := below_clamp (inRange_roundTo 6 hx) ((isNan_roundTo 6 x).trans hx')
  have hclamp' := below_clamp (inRange_roundTo 6 hy) ((isNan_roundTo 6 y).trans hy')
  have hnumbers : isNan (Score.rounded x).1 = isNan (Score.rounded y).1 := by
    rw [Score.rounded, Score.clamped, Score.rounded, Score.clamped, hclamp.1.1, hclamp'.1.1,
      isNan_roundTo, isNan_roundTo, hx', hy']
  exact ⟨fun h => hclamp.2.trans (Below.trans ⟨hnumbers, h⟩ hclamp'.1), fun h => (h.clamp 1).2⟩

/-- When a zero in the place of a value does not lower the rounded maximum: where the list
starts with what is no number, or another value does not round below that one. -/
theorem rounded_maximum_zero_iff {before after : List F} {fallback : F} (hx : InRange 1 x)
    (hnumber : isNan x = false) (hrange : ∀ y ∈ before ++ after, InRange 1 y) :
    lt (Score.rounded (maximum fallback (before ++ ofInt 0 :: after))).1
        (Score.rounded (maximum fallback (before ++ x :: after))).1 = false ↔
      (∃ y ∈ before.head?, isNan y = true) ∨
        ∃ y ∈ ofInt 0 :: (before ++ after), Below (roundTo 6 x) (roundTo 6 y) := by
  by_cases hstart : ∃ y ∈ before.head?, isNan y = true
  · refine iff_of_true ?_ (.inl hstart)
    obtain ⟨y, hy, hnan⟩ := hstart
    obtain ⟨rest, rfl⟩ := List.head?_eq_some_iff.mp hy
    rw [List.cons_append, List.cons_append, maximum, maximum, foldl_max_of_isNan hnan,
      foldl_max_of_isNan hnan]
    exact lt_irrefl _
  · have hhead : ∀ z : F, isNan z = false →
        ∀ y ∈ (before ++ z :: after).head?, isNan y = false := by
      intro z hz y hy
      cases before with
      | nil => exact Option.some.inj hy ▸ hz
      | cons first before =>
        refine Bool.eq_false_iff.mpr fun hnan => hstart ⟨y, hy, hnan⟩
    have hmem : ∀ z y : F, y ∈ before ++ z :: after ↔ y = z ∨ y ∈ before ++ after := by
      intro z y
      simp only [List.mem_append, List.mem_cons]
      tauto
    have hgreatest : IsGreatest (maximum fallback (before ++ x :: after)) (before ++ x :: after) :=
      isGreatest_maximum (by simp) (hhead x hnumber)
    have hzero :
        IsGreatest (maximum fallback (before ++ ofInt 0 :: after)) (before ++ ofInt 0 :: after) :=
      isGreatest_maximum (by simp) (hhead (ofInt 0) (isNan_ofInt 0))
    set m := maximum fallback (before ++ x :: after)
    set m₀ := maximum fallback (before ++ ofInt 0 :: after)
    have hm : InRange 1 m := ((hmem x m).mp hgreatest.mem).elim (fun h => h ▸ hx) (hrange m)
    have hm₀ : InRange 1 m₀ := ((hmem _ m₀).mp hzero.mem).elim
      (fun h => h ▸ inRange_ofInt (le_refl 0) Int.one_nonneg (by decide)) (hrange m₀)
    rw [below_rounded_iff hm hm₀ hgreatest.number hzero.number]
    constructor
    · intro h
      have hxm : Below x m := hgreatest.le x ((hmem x x).mpr (.inl rfl)) hnumber
      exact .inr ⟨m₀, List.mem_cons.mpr ((hmem _ m₀).mp hzero.mem), (hxm.roundTo 6).trans h⟩
    · rintro (h | ⟨y, hy, hxy⟩)
      · exact absurd h hstart
      · rcases (hmem x m).mp hgreatest.mem with hmx | hother
        · have hy' : isNan y = false := by
            rw [← isNan_roundTo 6 y, ← hxy.1, isNan_roundTo, hnumber]
          have hym := hzero.le y ((hmem _ y).mpr (List.mem_cons.mp hy)) hy'
          rw [hmx]
          exact hxy.trans (hym.roundTo 6)
        · exact (hzero.le m ((hmem _ m).mpr (.inr hother)) hgreatest.number).roundTo 6

end Rounded

section Rational

theorem roundHalfEven_mono {q q' : ℚ} (h : q ≤ q') : roundHalfEven q ≤ roundHalfEven q' := by
  rcases (Int.floor_mono h).lt_or_eq with hlt | heq
  · have hlow : roundHalfEven q ≤ ⌊q⌋ + 1 := by
      rw [roundHalfEven]
      split
      · exact (Int.lt_succ _).le
      · exact le_refl _
    have hhigh : ⌊q'⌋ ≤ roundHalfEven q' := by
      rw [roundHalfEven]
      split
      · exact le_refl _
      · exact (Int.lt_succ _).le
    exact hlow.trans (le_trans (Int.add_one_le_iff.mpr hlt) hhigh)
  · rw [roundHalfEven, roundHalfEven, ← heq]
    split
    · split
      · exact le_refl _
      · exact (Int.lt_succ _).le
    · next hup =>
      -- what rounds up below the other number has that one rounded up too
      rw [if_neg]
      rw [not_or, not_and] at hup ⊢
      refine ⟨fun hlow => hup.1 (by linarith), fun hhalf => hup.2 ?_⟩
      have hge : 1 / 2 ≤ q - ⌊q⌋ := not_lt.mp hup.1
      linarith

instance : OrderedLike ℚ where
  isNan _ := false
  lt_of_isNan h := by simp at h
  isNan_ofInt _ := rfl
  isNan_decimal _ _ := rfl
  not_lt_trans {x y z} _ hxy hyz := by
    have hxy : ¬ y < x := of_decide_eq_false hxy
    have hyz : ¬ z < y := of_decide_eq_false hyz
    exact decide_eq_false (not_lt.mpr ((not_lt.mp hxy).trans (not_lt.mp hyz)))
  beq_iff {x y} := by
    change decide (x = y) = true ↔
      false = false ∧ false = false ∧ decide (x < y) = false ∧ decide (y < x) = false
    rw [decide_eq_true_iff, decide_eq_false_iff_not, decide_eq_false_iff_not, not_lt, not_lt]
    exact ⟨fun h => ⟨rfl, rfl, h.ge, h.le⟩, fun h => le_antisymm h.2.2.2 h.2.2.1⟩
  isNan_roundTo _ _ := rfl
  roundTo_mono {x y} digits h := by
    have h : x ≤ y := not_lt.mp (of_decide_eq_false h)
    have hpos : (0 : ℚ) < 10 ^ digits := by positivity
    have hround : roundHalfEven (x * 10 ^ digits) ≤ roundHalfEven (y * 10 ^ digits) :=
      roundHalfEven_mono (mul_le_mul_of_nonneg_right h hpos.le)
    refine decide_eq_false (not_lt.mpr ?_)
    change (roundHalfEven (x * 10 ^ digits) : ℚ) / 10 ^ digits ≤
      (roundHalfEven (y * 10 ^ digits) : ℚ) / 10 ^ digits
    exact div_le_div_of_nonneg_right (by exact_mod_cast hround) hpos.le
  isNan_complement _ := rfl
  complement_anti {x y} h := by
    have h : x ≤ y := not_lt.mp (of_decide_eq_false h)
    exact decide_eq_false (not_lt.mpr (sub_le_sub_left h _))
  inRange_complement {x} h := by
    rw [inRange_rat] at h ⊢
    change 0 ≤ ((1 : Int) : ℚ) - x ∧ ((1 : Int) : ℚ) - x ≤ ((1 : Int) : ℚ)
    push_cast at h ⊢
    constructor <;> linarith
  complement_one := by
    change ((1 : Int) : ℚ) - ((1 : Int) : ℚ) = ((0 : Int) : ℚ)
    norm_num

end Rational

end DataForge.Foundation.OrderedScores
