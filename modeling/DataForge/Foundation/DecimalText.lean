import DataForge.Foundation.Features
import DataForge.Foundation.Rounding
import Mathlib.Data.List.Sort

namespace DataForge.Foundation.Decimals

open DataForge.Foundation.Strings
open DataForge.Foundation.Scores
open DataForge.Foundation.Features

/-- The decimal numbers of a program that reads, orders and halves them. No law of
arithmetic is asked of them. -/
class DecimalLike (D : Type) where
  /-- `Decimal(text)`, where it does not raise. -/
  parse : Text → Option D
  isFinite : D → Bool
  le : D → D → Bool
  /-- `(x + y) / Decimal(2)`, where the context does not raise. -/
  midpoint : D → D → Option D
  /-- `int(float(x))`, where the float is finite and whole. -/
  whole : D → Option Int
  /-- `format(x.normalize(), "f")`, where the context does not raise. -/
  plain : D → Option Text
  plain_ne_nil : ∀ (d : D) (text : Text), plain d = some text → text ≠ []

open DecimalLike

variable {D : Type} [DecimalLike D]

def formatDecimal (d : D) : Option Text :=
  match whole d with
  | some n => some (decimalText n)
  | none => plain d

theorem formatDecimal_ne_nil {d : D} {text : Text} (h : formatDecimal d = some text) :
    text ≠ [] := by
  rw [formatDecimal] at h
  split at h
  · obtain rfl := Option.some.inj h
    rw [decimalText]
    split
    · exact List.cons_ne_nil _ _
    · exact Nat.toDigits_ne_nil
  · exact plain_ne_nil d text h

def sortedDecimals (values : List D) : List D := values.insertionSort fun x y => le x y = true

/-- The middle one of sorted numbers, or half of the sum of the middle two. -/
def middle (sorted : List D) : Option D :=
  let mid := sorted.length / 2
  if sorted.length % 2 = 1 then sorted[mid]?
  else do
    let low ← sorted[mid - 1]?
    let high ← sorted[mid]?
    midpoint low high

instance : DecimalLike ℚ where
  parse := parseRat
  isFinite _ := true
  le x y := decide (x ≤ y)
  midpoint x y := some ((x + y) / 2)
  whole x := if x.den = 1 then some x.num else none
  plain x := some (fixedRat 1 x)
  plain_ne_nil x text h := by
    obtain rfl := Option.some.inj h
    rw [fixedRat]
    split <;> simp

end DataForge.Foundation.Decimals

namespace DataForge.Foundation.DecimalText

open DataForge.Foundation.Strings
open DataForge.Foundation.Features
open DataForge.Foundation.Decimals
open DataForge.Foundation.Rounding

section Formats

def binary64 : Format := ⟨2, 53, -1074, 1023, by decide, by decide⟩

/-- The default context: 28 digits, halves to even, exponents up to 999999. -/
def context : Format := ⟨10, 28, -1000026, 999999, by decide, by decide⟩

/-- A number of the decimal module, by its value: the sign of a zero and the zeros at the
end of a number are not seen by the programs here. -/
inductive Decimal where
  | finite (value : ℚ)
  | special

end Formats

section Read

/-- The zeros of the blocks of decimal digits. -/
def zeros : List Nat :=
  [0x30, 0x660, 0x6F0, 0x7C0, 0x966, 0x9E6, 0xA66, 0xAE6, 0xB66, 0xBE6, 0xC66, 0xCE6, 0xD66, 0xDE6,
    0xE50, 0xED0, 0xF20, 0x1040, 0x1090, 0x17E0, 0x1810, 0x1946, 0x19D0, 0x1A80, 0x1A90, 0x1B50,
    0x1BB0, 0x1C40, 0x1C50, 0xA620, 0xA8D0, 0xA900, 0xA9D0, 0xA9F0, 0xAA50, 0xABF0, 0xFF10, 0x104A0,
    0x10D30, 0x11066, 0x110F0, 0x11136, 0x111D0, 0x112F0, 0x11450, 0x114D0, 0x11650,
    0x116C0, 0x11730, 0x118E0, 0x11950, 0x11C50, 0x11D50, 0x11DA0, 0x11F50, 0x16A60, 0x16AC0,
    0x16B50, 0x1D7CE, 0x1D7D8, 0x1D7E2, 0x1D7EC, 0x1D7F6, 0x1E140, 0x1E2F0, 0x1E4F0,
    0x1E950, 0x1FBF0]

def asciiDigit (c : Char) : Char :=
  match zeros.find? fun start => start ≤ c.toNat && c.toNat < start + 10 with
  | some start => Char.ofNat (0x30 + (c.toNat - start))
  | none => c

def natOf (digits : Text) : Nat := Nat.ofDigitChars 10 digits 0

/-- The digits after a point, and what follows them. -/
def fractionOf : Text → Text × Text
  | '.' :: s => (s.takeWhile Char.isDigit, s.dropWhile Char.isDigit)
  | s => ([], s)

def exponentDigits (s : Text) : Option Int :=
  if s ≠ [] ∧ s.all Char.isDigit = true then some (natOf s) else none

def exponentOf : Text → Option Int
  | [] => some 0
  | c :: s =>
    if c = 'e' ∨ c = 'E' then
      match s with
      | '-' :: digits => (exponentDigits digits).map fun e => -e
      | '+' :: digits => exponentDigits digits
      | digits => exponentDigits digits
    else none

def unsigned (s : Text) : Option ℚ :=
  let whole := s.takeWhile Char.isDigit
  let fraction := fractionOf (s.dropWhile Char.isDigit)
  if whole ++ fraction.1 = [] then none
  else (exponentOf fraction.2).map fun e =>
    (natOf (whole ++ fraction.1) : ℚ) * 10 ^ (e - fraction.1.length : ℤ)

/-- Infinities, and what is not a number. -/
def isSpecial (s : Text) : Bool :=
  let name := s.map Char.toLower
  name = "inf".toList || name = "infinity".toList ||
    ["nan".toList, "snan".toList].any fun opening =>
      opening.isPrefixOf name && (name.drop opening.length).all Char.isDigit

def signed (f : ℚ → ℚ) (s : Text) : Option Decimal :=
  if isSpecial s then some .special else (unsigned s).map fun q => .finite (f q)

def ofAscii : Text → Option Decimal
  | '-' :: s => signed (fun q => -q) s
  | '+' :: s => signed id s
  | s => signed id s

/-- `Decimal(text)`, where it does not raise. -/
def ofText (s : Text) : Option Decimal := ofAscii (((strip s).filter (· ≠ '_')).map asciiDigit)

end Read

section Write

/-- A number without a sign, in plain digits and without zeros at the end of its fraction. -/
def plainDigits (n : Nat) (e : ℤ) : Text :=
  if 0 ≤ e then Nat.toDigits 10 (n * 10 ^ e.toNat)
  else
    let places := (-e).toNat
    let fraction := rstripBy (· == '0') (zeroPadded places (n % 10 ^ places))
    Nat.toDigits 10 (n / 10 ^ places) ++ if fraction = [] then [] else '.' :: fraction

def plainText (c e : ℤ) : Text := (if c < 0 then ['-'] else []) ++ plainDigits c.natAbs e

theorem plainDigits_ne_nil (n : Nat) (e : ℤ) : plainDigits n e ≠ [] := by
  rw [plainDigits]
  split
  · exact Nat.toDigits_ne_nil
  · exact List.append_ne_nil_of_left_ne_nil Nat.toDigits_ne_nil _

theorem decimalText_eq (n : ℤ) : decimalText n = plainText n 0 := by
  rw [decimalText, plainText, plainDigits, if_pos le_rfl]
  split <;> simp

end Write

section Instance

/-- `int(float(x))`, where the float is finite and whole. -/
def wholeDouble (x : ℚ) : Option Int :=
  (binary64.round x).bind fun y => if y.den = 1 then some y.num else none

instance : DecimalLike Decimal where
  parse := ofText
  isFinite
    | .finite _ => true
    | .special => false
  le
    | .finite x, .finite y => decide (x ≤ y)
    | .finite _, .special => true
    | .special, .finite _ => false
    | .special, .special => true
  midpoint
    | .finite x, .finite y => (context.round (x + y)).bind fun s =>
      (context.round (s / 2)).map .finite
    | _, _ => some .special
  whole
    | .finite x => wholeDouble x
    | .special => none
  plain
    | .finite x => (context.round x).map fun y =>
      plainText (context.coefficient y) (context.lastExponent y)
    | .special => some "NaN".toList
  plain_ne_nil d text h := by
    cases d with
    | finite x =>
      obtain ⟨y, -, rfl⟩ := Option.map_eq_some_iff.mp h
      exact List.append_ne_nil_of_right_ne_nil _ (plainDigits_ne_nil _ _)
    | special =>
      obtain rfl := Option.some.inj h
      decide

end Instance

section Denotation

def Denotes (s : Text) (q : ℚ) : Prop := ofText s = some (.finite q)

/-- The characters of a plain number. -/
def PlainChar (c : Char) : Prop := c = '-' ∨ c = '.' ∨ c.isDigit = true

theorem digit_bounds {c : Char} (h : c.isDigit = true) : 48 ≤ c.toNat ∧ c.toNat ≤ 57 := by
  simpa [Char.isDigit, UInt32.le_iff_toNat_le] using h

theorem asciiDigit_of_plain {c : Char} (h : PlainChar c) : asciiDigit c = c := by
  rcases h with rfl | rfl | h
  · decide
  · decide
  · obtain ⟨hlow, hhigh⟩ := digit_bounds h
    have hfind :
        (zeros.find? fun start => start ≤ c.toNat && c.toNat < start + 10) = some 0x30 := by
      rw [zeros, List.find?_cons_of_pos (by simp; omega)]
    have hchar : Char.ofNat (0x30 + (c.toNat - 0x30)) = c := by
      rw [Nat.add_sub_cancel' hlow, Char.ofNat_toNat]
    rw [asciiDigit, hfind]
    exact hchar

theorem not_isSpace_of_plain {c : Char} (h : PlainChar c) : isSpace c = false := by
  rcases h with rfl | rfl | h
  · decide
  · decide
  · obtain ⟨hlow, hhigh⟩ := digit_bounds h
    simp only [isSpace, isWhiteSpace]
    simp
    omega

theorem ofText_of_plain {s : Text} (h : ∀ c ∈ s, PlainChar c) : ofText s = ofAscii s := by
  have hstrip : strip s = s := by
    refine stripBy_eq_self (fun c hc => ?_) fun c hc => ?_
    · exact not_isSpace_of_plain (h c (List.mem_of_mem_head? hc))
    · exact not_isSpace_of_plain (h c (List.mem_of_mem_getLast? hc))
  have hfilter : s.filter (· ≠ '_') = s := by
    apply List.filter_eq_self.mpr
    intro c hc
    rw [decide_eq_true_eq]
    rintro rfl
    rcases h _ hc with h | h | h <;> exact absurd h (by decide)
  have hmap : s.map asciiDigit = s :=
    (List.map_congr_left fun c hc => asciiDigit_of_plain (h c hc)).trans (List.map_id' s)
  rw [ofText, hstrip, hfilter, hmap]

theorem toDigits_isDigit {n : Nat} {c : Char} (h : c ∈ Nat.toDigits 10 n) : c.isDigit = true :=
  Nat.isDigit_of_mem_toDigits (by decide) (by decide) h

theorem zeroPadded_isDigit {width n : Nat} {c : Char} (h : c ∈ zeroPadded width n) :
    c.isDigit = true := by
  rcases List.mem_append.mp h with h | h
  · rw [(List.mem_replicate.mp h).2]
    rfl
  · exact toDigits_isDigit h

/-- What is stripped off the end of a text is a run of one character. -/
theorem rstripBy_append (c : Char) (s : Text) :
    ∃ n, s = rstripBy (· == c) s ++ List.replicate n c := by
  refine ⟨(s.reverse.takeWhile (· == c)).length, ?_⟩
  have hrun : s.reverse.takeWhile (· == c) =
      List.replicate (s.reverse.takeWhile (· == c)).length c := by
    rw [List.eq_replicate_iff]
    refine ⟨rfl, fun d hd => ?_⟩
    simpa using List.mem_takeWhile_imp hd
  have hsplit :=
    congrArg List.reverse (List.takeWhile_append_dropWhile (p := (· == c)) (l := s.reverse))
  rw [List.reverse_append, List.reverse_reverse, hrun, List.reverse_replicate] at hsplit
  exact hsplit.symm

theorem length_zeroPadded {width n : Nat} (hwidth : 0 < width) (h : n < 10 ^ width) :
    (zeroPadded width n).length = width := by
  have hlength := (Nat.length_toDigits_le_iff (by decide) hwidth).mpr h
  rw [zeroPadded, List.length_append, List.length_replicate]
  omega

theorem natOf_append (s t : Text) : natOf (s ++ t) = 10 ^ t.length * natOf s + natOf t := by
  rw [natOf, natOf, natOf, Nat.ofDigitChars_append, Nat.ofDigitChars_eq_ofDigitChars_zero]

theorem natOf_toDigits (n : Nat) : natOf (Nat.toDigits 10 n) = n := Nat.ofDigitChars_ten_toDigits

theorem natOf_zeroPadded (width n : Nat) : natOf (zeroPadded width n) = n := by
  rw [zeroPadded, natOf, Nat.ofDigitChars_append, Nat.ofDigitChars_replicate_zero, Nat.mul_zero]
  exact natOf_toDigits n

/-- Digits, with or without a fraction. -/
theorem unsigned_digits {whole fraction : Text} (hne : whole ≠ [])
    (hwhole : ∀ c ∈ whole, c.isDigit = true) (hfraction : ∀ c ∈ fraction, c.isDigit = true) :
    unsigned (whole ++ if fraction = [] then [] else '.' :: fraction) =
      some ((natOf (whole ++ fraction) : ℚ) * 10 ^ (-(fraction.length : ℤ))) := by
  have htake : (whole ++ if fraction = [] then [] else '.' :: fraction).takeWhile Char.isDigit =
      whole := by
    rw [List.takeWhile_append_of_pos hwhole]
    split
    · simp
    · rw [List.takeWhile_cons_of_neg (by decide), List.append_nil]
  have hdrop : (whole ++ if fraction = [] then [] else '.' :: fraction).dropWhile Char.isDigit =
      if fraction = [] then [] else '.' :: fraction := by
    rw [List.dropWhile_append_of_pos hwhole]
    split
    · rfl
    · rw [List.dropWhile_cons_of_neg (by decide)]
  have hsplit : fractionOf (if fraction = [] then [] else '.' :: fraction) = (fraction, []) := by
    split
    · next h => rw [h, fractionOf]
                rintro s ⟨⟩
    · rw [fractionOf, List.takeWhile_eq_self_iff.mpr hfraction,
        List.dropWhile_eq_nil_iff.mpr hfraction]
  rw [unsigned]
  simp only [htake, hdrop, hsplit]
  rw [if_neg (List.append_ne_nil_of_left_ne_nil hne _), exponentOf, Option.map_some, zero_sub]

theorem unsigned_plainDigits (n : Nat) (e : ℤ) :
    unsigned (plainDigits n e) = some ((n : ℚ) * 10 ^ e) := by
  rw [plainDigits]
  split
  · next he =>
    have h := @unsigned_digits _ [] Nat.toDigits_ne_nil
      (fun c hc => toDigits_isDigit (n := n * 10 ^ e.toNat) hc) (by simp)
    rw [if_pos rfl, List.append_nil, natOf_toDigits] at h
    rw [h]
    have hpow : (10 : ℚ) ^ e = (10 : ℚ) ^ e.toNat := by
      rw [← zpow_natCast, Int.toNat_of_nonneg he]
    rw [hpow]
    simp
  · next he =>
    dsimp only
    obtain ⟨j, hj⟩ := rstripBy_append '0' (zeroPadded (-e).toNat (n % 10 ^ (-e).toNat))
    set fraction := rstripBy (· == '0') (zeroPadded (-e).toNat (n % 10 ^ (-e).toNat)) with hfraction
    have hdigits : ∀ c ∈ fraction, c.isDigit = true := by
      intro c hc
      refine @zeroPadded_isDigit (-e).toNat (n % 10 ^ (-e).toNat) _ ?_
      rw [hj]
      exact List.mem_append_left _ hc
    rw [unsigned_digits Nat.toDigits_ne_nil (fun c hc => toDigits_isDigit hc) hdigits]
    have hlength : fraction.length + j = (-e).toNat := by
      have h := congrArg List.length hj
      rw [length_zeroPadded (by omega) (Nat.mod_lt _ (by positivity)), List.length_append,
        List.length_replicate] at h
      exact h.symm
    -- with the zeros put back the digits are those of the number
    have hvalue : natOf (Nat.toDigits 10 (n / 10 ^ (-e).toNat) ++ fraction) * 10 ^ j = n := by
      have hwith : natOf (Nat.toDigits 10 (n / 10 ^ (-e).toNat) ++
          zeroPadded (-e).toNat (n % 10 ^ (-e).toNat)) = n := by
        rw [natOf_append, natOf_toDigits, natOf_zeroPadded,
          length_zeroPadded (by omega) (Nat.mod_lt _ (by positivity)), Nat.div_add_mod]
      rw [hj, ← List.append_assoc, natOf, Nat.ofDigitChars_append, Nat.ofDigitChars_replicate_zero,
        Nat.mul_comm] at hwith
      exact hwith
    congr 1
    have hcast : (n : ℚ) = natOf (Nat.toDigits 10 (n / 10 ^ (-e).toNat) ++ fraction) * 10 ^ j := by
      exact_mod_cast hvalue.symm
    have he' : e = -(fraction.length : ℤ) - j := by omega
    rw [hcast, he', zpow_sub₀ (by norm_num), zpow_natCast]
    field_simp

theorem plainDigits_chars {n : Nat} {e : ℤ} {c : Char} (h : c ∈ plainDigits n e) :
    c = '.' ∨ c.isDigit = true := by
  rw [plainDigits] at h
  split at h
  · exact .inr (toDigits_isDigit h)
  · rcases List.mem_append.mp h with h | h
    · exact .inr (toDigits_isDigit h)
    · split at h
      · cases h
      · rcases List.mem_cons.mp h with rfl | h
        · exact .inl rfl
        · exact .inr (zeroPadded_isDigit ((isPrefix_rstripBy _ _).subset h))

theorem head_plainDigits (n : Nat) (e : ℤ) :
    ∃ c s, plainDigits n e = c :: s ∧ c.isDigit = true := by
  have hhead : ∀ m : Nat, ∃ c s, Nat.toDigits 10 m = c :: s ∧ c.isDigit = true := by
    intro m
    cases hm : Nat.toDigits 10 m with
    | nil => exact absurd hm Nat.toDigits_ne_nil
    | cons c s => exact ⟨c, s, rfl, toDigits_isDigit (hm ▸ List.mem_cons_self)⟩
  rw [plainDigits]
  split
  · exact hhead _
  · obtain ⟨c, s, h, hc⟩ := hhead (n / 10 ^ (-e).toNat)
    dsimp only
    rw [h]
    exact ⟨c, _, rfl, hc⟩

theorem not_isSpecial {c : Char} {s : Text} (h : c.isDigit = true) :
    isSpecial (c :: s) = false := by
  have hlower : c.toLower = c := by
    obtain ⟨-, hhigh⟩ := digit_bounds h
    delta Char.toLower
    rw [dif_neg]
    rintro ⟨hlow, -⟩
    have hlow' : 65 ≤ c.toNat := hlow
    omega
  have hne : ∀ d : Char, d.isDigit = false → c ≠ d ∧ d ≠ c := by
    rintro d hd
    constructor <;> rintro rfl <;> simp [hd] at h
  simp [isSpecial, hlower, (hne 'i' (by decide)).1, (hne 'n' (by decide)).2,
    (hne 's' (by decide)).2]

theorem signed_plainDigits (f : ℚ → ℚ) (n : Nat) (e : ℤ) :
    signed f (plainDigits n e) = some (.finite (f (n * 10 ^ e))) := by
  have hspecial : isSpecial (plainDigits n e) = false := by
    obtain ⟨c, s, h, hc⟩ := head_plainDigits n e
    rw [h, not_isSpecial hc]
  rw [signed, hspecial, unsigned_plainDigits]
  rfl

/-- A plain number denotes its value. -/
theorem denotes_plainText (c e : ℤ) : Denotes (plainText c e) (c * 10 ^ e) := by
  have hplain : ∀ d ∈ plainText c e, PlainChar d := by
    intro d hd
    rcases List.mem_append.mp hd with hd | hd
    · split at hd
      · exact .inl (List.mem_singleton.mp hd)
      · cases hd
    · exact .inr (plainDigits_chars hd)
  rw [Denotes, ofText_of_plain hplain, plainText]
  split
  · next hc =>
    have habs : (c.natAbs : ℚ) = -c := by
      rw [← Int.cast_natCast, Int.ofNat_natAbs_of_nonpos hc.le, Int.cast_neg]
    rw [List.singleton_append, ofAscii, signed_plainDigits, habs, neg_mul, neg_neg]
  · next hc =>
    have habs : (c.natAbs : ℚ) = c := by
      rw [← Int.cast_natCast, Int.natAbs_of_nonneg (not_lt.mp hc)]
    have hsigned := signed_plainDigits id c.natAbs e
    obtain ⟨d, s, h, hd⟩ := head_plainDigits c.natAbs e
    rw [List.nil_append]
    rw [h] at hsigned ⊢
    unfold ofAscii
    split
    · next heq =>
      obtain ⟨rfl, -⟩ := List.cons.inj heq
      exact absurd hd (by decide)
    · next heq =>
      obtain ⟨rfl, -⟩ := List.cons.inj heq
      exact absurd hd (by decide)
    · rw [hsigned, habs, id]

theorem denotes_decimalText (n : ℤ) : Denotes (decimalText n) n := by
  have h := denotes_plainText n 0
  rwa [zpow_zero, mul_one, ← decimalText_eq] at h

theorem Denotes.unique {s : Text} {q r : ℚ} (hq : Denotes s q) (hr : Denotes s r) : q = r := by
  have h := Option.some.inj (hq.symm.trans hr)
  injection h

end Denotation

end DataForge.Foundation.DecimalText
