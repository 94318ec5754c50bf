import DataForge.Foundation.Json
import DataForge.Foundation.Scores

namespace DataForge.Foundation.Features

open DataForge.Foundation.Strings
open DataForge.Foundation.Json
open DataForge.Foundation.Numbers
open DataForge.Foundation.Scores
open FloatLike ScoreLike MetricLike

/-- Floats whose distances are squared and that are written back into cells. -/
class FeatureLike (F : Type) extends MetricLike F where
  /-- `x ** 2`, where it does not overflow. -/
  square : F → Option F
  /-- `int(x)`, where `x` is finite. -/
  truncate : F → Option Int
  /-- `x` with this many decimals. -/
  fixed : Nat → F → Text

section Integers

def decimalText (n : Int) : Text :=
  if n < 0 then '-' :: Nat.toDigits 10 n.natAbs else Nat.toDigits 10 n.natAbs

/-- The zeros of the decimal digits, each followed by its nine others. -/
def decimalZeros : List Nat :=
  [48, 1632, 1776, 1984, 2406, 2534, 2662, 2790, 2918, 3046, 3174, 3302, 3430, 3558, 3664, 3792,
    3872, 4160, 4240, 6112, 6160, 6470, 6608, 6784, 6800, 6992, 7088, 7232, 7248, 42528, 43216,
    43264, 43472, 43504, 43600, 44016, 65296, 66720, 68912, 69734, 69872, 69942, 70096, 70384,
    70736, 70864, 71248, 71360, 71472, 71904, 72016, 72784, 73040, 73120, 73552, 92768, 92864,
    93008, 120782, 120792, 120802, 120812, 120822, 123200, 123632, 124144, 125264, 130032]

def decimalDigit (c : Char) : Option Nat :=
  (decimalZeros.find? fun zero => zero ≤ c.toNat ∧ c.toNat < zero + 10).map fun zero =>
    c.toNat - zero

/-- The language refuses to read an integer of more digits. -/
def maxDigits : Nat := 4300

/-- Digits, where single underscores may stand between them. -/
def readNat (s : Text) : Option Nat :=
  let parts := s.splitOn '_'
  if [] ∈ parts then none
  else do
    let digits ← parts.flatten.mapM decimalDigit
    if digits.length ≤ maxDigits then some (digits.foldl (fun n digit => 10 * n + digit) 0)
    else none

/-- `int(text)`, where it does not raise. -/
def readInt (s : Text) : Option Int :=
  match stripBy isWhiteSpace s with
  | '-' :: digits => (readNat digits).map fun n => -(n : Int)
  | '+' :: digits => (readNat digits).map Int.ofNat
  | digits => (readNat digits).map Int.ofNat

variable {F : Type} [FeatureLike F]

/-- `float(value)` of a JSON value, where it does not raise. -/
def floatOf : Value → Option F
  | .num token => parse token.1
  | .str s => parse s
  | .bool b => some (ofInt (if b then 1 else 0))
  | _ => none

/-- `int(value)` of a JSON value, where it does not raise; a number with a fraction is
cut off. -/
def intOf (F : Type) [FeatureLike F] : Value → Option Int
  | .num token => (readInt token.1).or ((parse token.1 : Option F).bind FeatureLike.truncate)
  | .str s => readInt s
  | .bool b => some (if b then 1 else 0)
  | _ => none

end Integers

section Padding

theorem zeroPadded_injective (width : Nat) : Function.Injective (zeroPadded width) := by
  intro m n h
  have hread : ∀ k : Nat, Nat.ofDigitChars 10 (zeroPadded width k) 0 = k := by
    intro k
    rw [zeroPadded, Nat.ofDigitChars_append, Nat.ofDigitChars_replicate_zero, Nat.mul_zero]
    exact Nat.ofDigitChars_ten_toDigits
  rw [← hread m, h, hread n]

end Padding

section Rational

def fixedRat (digits : Nat) (q : ℚ) : Text :=
  let scaled := (roundHalfEven (|q| * 10 ^ digits)).toNat
  let number :=
    Nat.toDigits 10 (scaled / 10 ^ digits) ++ '.' :: zeroPadded digits (scaled % 10 ^ digits)
  if q < 0 then '-' :: number else number

instance : FeatureLike ℚ where
  square q := some (q * q)
  truncate q := some (q.num.tdiv q.den)
  fixed := fixedRat

example : fixedRat 6 (-5 / 4 : ℚ) = "-1.250000".toList := by decide +kernel

end Rational

end DataForge.Foundation.Features
