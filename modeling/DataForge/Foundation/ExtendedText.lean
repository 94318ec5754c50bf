import DataForge.Foundation.ExtendedNumbers

namespace DataForge.Foundation.ExtendedText

open DataForge.Foundation.Strings
open DataForge.Foundation.Numbers
open DataForge.Foundation.Features
open DataForge.Foundation.Scores
open DataForge.Foundation.Rounding
open DataForge.Foundation.DecimalText hiding asciiDigit asciiDigit_of_plain ofText ofText_of_plain
open DataForge.Foundation.ExtendedNumbers

section Reading

variable {K : Type} (cast : ℚ → K)

theorem asciiDigit_of_plain {c : Char} (h : PlainChar c) : asciiDigit c = c := by
  rcases h with rfl | rfl | h
  · decide
  · decide
  · obtain ⟨hlow, hhigh⟩ := digit_bounds h
    have hdigit : decimalDigit c = some (c.toNat - 48) := by
      rw [decimalDigit, decimalZeros, List.find?_cons_of_pos (by simp; omega), Option.map_some]
    have hchar : Char.ofNat ('0'.toNat + (c.toNat - 48)) = c := by
      have hzero : '0'.toNat = 48 := rfl
      rw [hzero, Nat.add_sub_cancel' hlow, Char.ofNat_toNat]
    rw [asciiDigit, hdigit]
    exact hchar

theorem not_isWhiteSpace_of_plain {c : Char} (h : PlainChar c) : isWhiteSpace c = false := by
  rcases h with rfl | rfl | h
  · decide
  · decide
  · obtain ⟨hlow, hhigh⟩ := digit_bounds h
    rw [isWhiteSpace]
    simp
    omega

theorem ne_underscore_of_plain {c : Char} (h : PlainChar c) : c ≠ '_' := by
  rintro rfl
  rcases h with h | h | h <;> exact absurd h (by decide)

theorem withoutUnderscores_of_plain {s : Text} (h : ∀ c ∈ s, PlainChar c) {last : Char}
    (hlast : last ≠ '_') : withoutUnderscores last s = some s := by
  induction s generalizing last with
  | nil => exact if_neg hlast
  | cons c s ih =>
    obtain ⟨hc, hs⟩ := List.forall_mem_cons.mp h
    have hne := ne_underscore_of_plain hc
    rw [withoutUnderscores, if_neg hne, if_neg fun hh => hlast hh.1, ih hs hne, Option.map_some]

theorem ofText_of_plain [FloatLike K] {s : Text} (h : ∀ c ∈ s, PlainChar c) :
    ofText cast s = ofSigned cast s := by
  have hstrip : stripBy isWhiteSpace s = s := by
    refine stripBy_eq_self (fun c hc => ?_) fun c hc => ?_
    · exact not_isWhiteSpace_of_plain (h c (List.mem_of_mem_head? hc))
    · exact not_isWhiteSpace_of_plain (h c (List.mem_of_mem_getLast? hc))
  have hmap : s.map asciiDigit = s :=
    (List.map_congr_left fun c hc => asciiDigit_of_plain (h c hc)).trans (List.map_id' s)
  rw [ofText, hstrip, hmap, withoutUnderscores_of_plain h (by decide), Option.bind_some]

theorem ofUnsigned_of_not_special {s : Text} (h : isSpecial s = false) :
    ofUnsigned cast s = (unsigned s).map (ofMagnitude cast) := by
  have hnan : s.map Char.toLower ≠ "nan".toList := by
    intro hname
    rw [isSpecial, hname] at h
    exact absurd h (by decide)
  have hinf : ¬ (s.map Char.toLower = "inf".toList ∨ s.map Char.toLower = "infinity".toList) := by
    rintro (hname | hname) <;>
    · rw [isSpecial, hname] at h
      exact absurd h (by decide)
  rw [ofUnsigned, if_neg hinf, if_neg hnan]

theorem ofUnsigned_plainDigits (n : Nat) (e : ℤ) :
    ofUnsigned cast (plainDigits n e) = some (ofMagnitude cast (n * 10 ^ e)) := by
  have hspecial : isSpecial (plainDigits n e) = false := by
    obtain ⟨c, s, h, hc⟩ := head_plainDigits n e
    rw [h, not_isSpecial hc]
  rw [ofUnsigned_of_not_special cast hspecial, unsigned_plainDigits, Option.map_some]

end Reading

section Bounds

theorem neg_finite (x : ℚ) : Extended.neg (.finite x : Extended ℚ) = .finite (-x) :=
  congrArg Extended.finite (zero_sub x)

theorem largest_nonneg : 0 ≤ largest := sub_nonneg.mpr (pow_le_pow_right₀ one_le_two (by decide))

theorem largest_lt_overflow : largest < overflow := by
  apply sub_lt_sub_left
  exact pow_lt_pow_right₀ one_lt_two (by decide)

theorem ofMagnitude_of_le {q : ℚ} (h : q ≤ largest) : ofMagnitude id q = .finite q := by
  have hoverflow : ¬ overflow ≤ q := not_le.mpr (h.trans_lt largest_lt_overflow)
  rw [ofMagnitude, if_neg hoverflow, min_eq_left h, id]

theorem unsigned_nonneg {s : Text} {q : ℚ} (h : unsigned s = some q) : 0 ≤ q := by
  rw [unsigned] at h
  split at h
  · cases h
  · obtain ⟨e, -, rfl⟩ := Option.map_eq_some_iff.mp h
    exact mul_nonneg (Nat.cast_nonneg _) (zpow_nonneg (by decide) _)

theorem abs_le_of_ofUnsigned {s : Text} {x : ℚ} (h : ofUnsigned id s = some (.finite x)) :
    |x| ≤ largest := by
  rw [ofUnsigned] at h
  split at h
  · cases h
  · split at h
    · cases h
    · obtain ⟨q, hq, h⟩ := Option.map_eq_some_iff.mp h
      rw [ofMagnitude] at h
      split at h
      · cases h
      · obtain rfl := Extended.finite.inj h
        rw [id, abs_of_nonneg (le_min (unsigned_nonneg hq) largest_nonneg)]
        exact min_le_right _ _

/-- What is read as a finite number is none of the numbers beyond the largest one. -/
theorem abs_le_of_ofText {s : Text} {x : ℚ} (h : ofText id s = some (.finite x)) :
    |x| ≤ largest := by
  obtain ⟨t, -, h⟩ := Option.bind_eq_some_iff.mp h
  unfold ofSigned at h
  split at h
  · obtain ⟨y, hy, h⟩ := Option.map_eq_some_iff.mp h
    cases y with
    | finite y =>
      rw [neg_finite] at h
      obtain rfl := Extended.finite.inj h
      rw [abs_neg]
      exact abs_le_of_ofUnsigned hy
    | infinite a => cases h
    | nan => cases h
  · exact abs_le_of_ofUnsigned h
  · exact abs_le_of_ofUnsigned h

end Bounds

section Writing

theorem plain_signed {negative : Prop} [Decidable negative] {n : Nat} {e : ℤ} :
    ∀ c ∈ (if negative then ['-'] else []) ++ plainDigits n e, PlainChar c := by
  intro c hc
  rcases List.mem_append.mp hc with hc | hc
  · split at hc
    · exact .inl (List.mem_singleton.mp hc)
    · cases hc
  · exact .inr (plainDigits_chars hc)

/-- A plain number is read as its value, if that is not too large. -/
theorem ofText_signed {negative : Prop} [Decidable negative] {n : Nat} {e : ℤ}
    (h : (n : ℚ) * 10 ^ e ≤ largest) :
    ofText id ((if negative then ['-'] else []) ++ plainDigits n e) =
      some (.finite (if negative then -(n * 10 ^ e) else n * 10 ^ e)) := by
  have hunsigned := ofUnsigned_plainDigits id n e
  rw [ofMagnitude_of_le h] at hunsigned
  rw [ofText_of_plain id plain_signed]
  split
  · rw [List.singleton_append, ofSigned, hunsigned, Option.map_some, neg_finite]
  · obtain ⟨c, s, hplain, hc⟩ := head_plainDigits n e
    rw [List.nil_append, ← hunsigned, hplain]
    unfold ofSigned
    split
    · next heq =>
      obtain ⟨rfl, -⟩ := List.cons.inj heq
      exact absurd hc (by decide)
    · next heq =>
      obtain ⟨rfl, -⟩ := List.cons.inj heq
      exact absurd hc (by decide)
    · rfl

theorem rstripBy_append_cons {p : Char → Bool} {c : Char} (hc : p c = false) (a s : Text) :
    rstripBy p (a ++ c :: s) = a ++ c :: rstripBy p s := by
  have hreverse : (a ++ c :: s).reverse = s.reverse ++ c :: a.reverse := by
    rw [List.reverse_append, List.reverse_cons, List.append_assoc, List.singleton_append]
  rw [rstripBy, rstripBy, hreverse, List.dropWhile_append]
  split
  · next hempty =>
    rw [List.isEmpty_iff.mp hempty, List.dropWhile_cons_of_neg (by simp [hc])]
    simp
  · simp

/-- The zeros at the end of a fraction go, and the point before them. -/
theorem strip_fraction {whole fraction : Text} (hwhole : ∀ c ∈ whole.getLast?, c.isDigit = true)
    (hfraction : ∀ c ∈ fraction, c.isDigit = true) :
    rstripBy (· == '.') (rstripBy (· == '0') (whole ++ '.' :: fraction)) =
      whole ++ if rstripBy (· == '0') fraction = [] then [] else '.' ::
        rstripBy (· == '0') fraction := by
  have hdigit : ∀ c : Char, c.isDigit = true → (c == '.') = false := by
    intro c hc
    rw [beq_eq_false_iff_ne]
    rintro rfl
    exact absurd hc (by decide)
  rw [rstripBy_append_cons (by decide)]
  split
  · next hnone =>
    have hwhole' :
        rstripBy (· == '.') whole = whole := rstripBy_eq_self fun c hc => hdigit c (hwhole c hc)
    rw [hnone, List.append_nil]
    rw [rstripBy] at hwhole' ⊢
    rw [List.reverse_append, List.reverse_singleton, List.singleton_append,
      List.dropWhile_cons_of_pos (by decide), hwhole']
  · next hsome =>
    apply rstripBy_eq_self
    intro c hc
    apply hdigit
    rw [List.getLast?_append, List.getLast?_cons] at hc
    cases hlast : (rstripBy (· == '0') fraction).getLast? with
    | none => exact absurd (List.getLast?_eq_none_iff.mp hlast) hsome
    | some d =>
      rw [hlast] at hc
      obtain rfl : d = c := by simpa using hc
      exact hfraction d ((isPrefix_rstripBy _ _).subset (List.mem_of_getLast? hlast))

theorem strip_fixedRat (q : ℚ) : rstripBy (· == '.') (rstripBy (· == '0') (fixedRat 6 q)) =
    (if q < 0 then ['-'] else []) ++ plainDigits (roundHalfEven (|q| * 10 ^ 6)).toNat (-6) := by
  have hlast : ∀ (pre : Text) (n : Nat), ∀ c ∈ (pre ++ Nat.toDigits 10 n).getLast?, c.isDigit =
      true := by
    intro pre n c hc
    rw [List.getLast?_append] at hc
    cases hdigits : (Nat.toDigits 10 n).getLast? with
    | none => exact absurd (List.getLast?_eq_none_iff.mp hdigits) Nat.toDigits_ne_nil
    | some d =>
      rw [hdigits] at hc
      obtain rfl : d = c := by simpa using hc
      exact toDigits_isDigit (List.mem_of_getLast? hdigits)
  have hfixed : fixedRat 6 q = ((if q < 0 then ['-'] else []) ++
      Nat.toDigits 10 ((roundHalfEven (|q| * 10 ^ 6)).toNat / 10 ^ 6)) ++
        '.' :: zeroPadded 6 ((roundHalfEven (|q| * 10 ^ 6)).toNat % 10 ^ 6) := by
    rw [fixedRat]
    split <;> simp
  have hneg : ¬ (0 : ℤ) ≤ -6 := by decide
  rw [hfixed, strip_fraction (hlast _ _) fun c hc => zeroPadded_isDigit hc, plainDigits,
    if_neg hneg, List.append_assoc]
  rfl

theorem largest_eq : largest = ((2 ^ 1024 - 2 ^ 971 : ℤ) : ℚ) := by
  rw [largest, Int.cast_sub, Int.cast_pow, Int.cast_pow, Int.cast_ofNat]

theorem ofText_decimalText {n : ℤ} (h : |(n : ℚ)| ≤ largest) :
    ofText id (decimalText n) = some (.finite (n : ℚ)) := by
  have habs : (n.natAbs : ℚ) * 10 ^ (0 : ℤ) = |(n : ℚ)| := by
    rw [zpow_zero, mul_one, ← Int.cast_natCast, Int.natCast_natAbs, Int.cast_abs]
  rw [decimalText_eq, plainText, ofText_signed (habs ▸ h), habs]
  congr 2
  split
  · next hneg => rw [abs_of_neg (Int.cast_lt_zero.mpr hneg), neg_neg]
  · next hnonneg => rw [abs_of_nonneg (Int.cast_nonneg (not_lt.mp hnonneg))]

/-- Six decimals are read as a number half a millionth away at most. -/
theorem exists_ofText_fixedRat {q : ℚ} (h : |q| ≤ largest) :
    ∃ z, ofText id (rstripBy (· == '.') (rstripBy (· == '0') (fixedRat 6 q))) = some (.finite z) ∧
      |z - q| ≤ 1 / 2 / 10 ^ 6 := by
  have hbetween : 0 ≤ roundHalfEven (|q| * 10 ^ 6) ∧
      roundHalfEven (|q| * 10 ^ 6) ≤ (2 ^ 1024 - 2 ^ 971) * 10 ^ 6 := by
    apply roundHalfEven_between
    · rw [Int.cast_zero]
      positivity
    · rw [Int.cast_mul, ← largest_eq, Int.cast_pow, Int.cast_ofNat]
      exact mul_le_mul_of_nonneg_right h (by norm_num)
  have hclose := abs_roundHalfEven_sub_le (|q| * 10 ^ 6)
  rw [strip_fixedRat]
  generalize roundHalfEven (|q| * 10 ^ 6) = n at hbetween hclose ⊢
  obtain ⟨hnonneg, hle⟩ := hbetween
  lift n to ℕ using hnonneg
  rw [Int.cast_natCast] at hclose
  have hvalue : (n : ℚ) * 10 ^ (-6 : ℤ) = n / 10 ^ 6 := by
    rw [zpow_neg, div_eq_mul_inv]
    rfl
  have hlargest : (n : ℚ) * 10 ^ (-6 : ℤ) ≤ largest := by
    rw [hvalue, div_le_iff₀ (by norm_num), largest_eq]
    exact_mod_cast hle
  have hdistance : abs ((n : ℚ) / 10 ^ 6 - |q|) ≤ 1 / 2 / 10 ^ 6 := by
    have hsplit : (n : ℚ) / 10 ^ 6 - |q| = (n - |q| * 10 ^ 6) / 10 ^ 6 := by
      rw [sub_div, mul_div_cancel_right₀ _ (by norm_num)]
    rw [hsplit, abs_div, abs_of_pos (show (0 : ℚ) < 10 ^ 6 by norm_num)]
    exact div_le_div_of_nonneg_right hclose (by norm_num)
  rw [Int.toNat_natCast, ofText_signed hlargest, hvalue]
  refine ⟨_, rfl, ?_⟩
  split
  · next hneg =>
    rw [abs_of_neg hneg, sub_neg_eq_add] at hdistance
    rw [← abs_neg, neg_sub, sub_neg_eq_add, add_comm]
    exact hdistance
  · next hpos => rwa [abs_of_nonneg (not_lt.mp hpos)] at hdistance

end Writing

end DataForge.Foundation.ExtendedText
