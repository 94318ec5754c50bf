import DataForge.Foundation.DecimalText
import DataForge.Foundation.Reals
import Mathlib.Analysis.Real.Sqrt

namespace DataForge.Foundation.ExtendedNumbers

open DataForge.Foundation.Strings
open DataForge.Foundation.Numbers
open DataForge.Foundation.Scores
open DataForge.Foundation.Features
open DataForge.Foundation.DecimalText (unsigned)
open FloatLike ScoreLike

/-- Exact numbers, and what floats have beside them. -/
inductive Extended (K : Type) where
  | finite (x : K)
  | infinite (negative : Bool)
  | nan
deriving DecidableEq

namespace Extended

section Arithmetic

variable {K : Type} [FloatLike K]

def neg : Extended K → Extended K
  | finite x => finite (sub (ofInt 0) x)
  | infinite negative => infinite !negative
  | nan => nan

def add : Extended K → Extended K → Extended K
  | finite x, finite y => finite (FloatLike.add x y)
  | infinite a, infinite b => if a = b then infinite a else nan
  | infinite a, finite _ => infinite a
  | finite _, infinite b => infinite b
  | _, _ => nan

def sub : Extended K → Extended K → Extended K
  | finite x, finite y => finite (FloatLike.sub x y)
  | x, y => add x (neg y)

/-- An infinity times a number. -/
def scaled (negative : Bool) (x : K) : Extended K :=
  if lt (ofInt 0) x then infinite negative else if lt x (ofInt 0) then infinite !negative else nan

def mul : Extended K → Extended K → Extended K
  | finite x, finite y => finite (FloatLike.mul x y)
  | infinite a, infinite b => infinite (a != b)
  | infinite a, finite y => scaled a y
  | finite x, infinite b => scaled b x
  | _, _ => nan

/-- Nothing here divides an infinity or by zero. -/
def div : Extended K → Extended K → Extended K
  | finite x, finite y => finite (FloatLike.div x y)
  | finite _, infinite _ => finite (ofInt 0)
  | infinite a, finite y => infinite (a != FloatLike.lt y (ofInt 0))
  | _, _ => nan

def lt : Extended K → Extended K → Bool
  | finite x, finite y => FloatLike.lt x y
  | finite _, infinite b => !b
  | infinite a, finite _ => a
  | infinite a, infinite b => a && !b
  | _, _ => false

def beq : Extended K → Extended K → Bool
  | finite x, finite y => FloatLike.beq x y
  | infinite a, infinite b => a == b
  | _, _ => false

instance : FloatLike (Extended K) where
  ofInt n := finite (ofInt n)
  add := add
  sub := sub
  mul := mul
  div := div
  lt := lt
  beq := beq
  round
    | finite x => FloatLike.round x
    | _ => 0

def isInf : Extended K → Bool
  | infinite _ => true
  | _ => false

def toFinite : Extended K → Option K
  | finite x => some x
  | _ => none

end Arithmetic

section Order

variable {K : Type} [ScoreLike K]

def le : Extended K → Extended K → Bool
  | finite x, finite y => ScoreLike.le x y
  | finite _, infinite b => !b
  | infinite a, finite _ => a
  | infinite a, infinite b => a || !b
  | _, _ => false

def roundTo (digits : Nat) : Extended K → Extended K
  | finite x => finite (ScoreLike.roundTo digits x)
  | x => x

theorem inRange_finite {bound : Int} {x : K} : InRange bound (finite x) ↔ InRange bound x := Iff.rfl

theorem not_inRange_infinite {bound : Int} {negative : Bool} :
    ¬ InRange bound (infinite negative : Extended K) := by
  rintro ⟨hlow, hhigh⟩
  cases negative with
  | false => cases hhigh
  | true => cases hlow

instance : ScoreLike (Extended K) where
  le := le
  decimal m digits := finite (decimal m digits)
  roundTo := roundTo
  lt_asymm {x y} h := by
    cases x with
    | finite x =>
      cases y with
      | finite y => exact ScoreLike.lt_asymm h
      | infinite b =>
        cases b with
        | false => rfl
        | true => cases h
      | nan => cases h
    | infinite a =>
      cases a with
      | false => cases y <;> cases h
      | true =>
        cases y with
        | finite y => rfl
        | infinite b => exact Bool.and_false b
        | nan => cases h
    | nan => cases h
  lt_ofInt a b ha hb := ScoreLike.lt_ofInt a b ha hb
  inRange_decimal m digits h := inRange_finite.mpr (ScoreLike.inRange_decimal m digits h)
  inRange_roundTo {bound x} digits h := by
    cases x with
    | finite x => exact inRange_finite.mpr (ScoreLike.inRange_roundTo digits h)
    | infinite negative => exact absurd h not_inRange_infinite
    | nan => exact h
  inRange_percent {x} h := by
    cases x with
    | finite x => exact inRange_finite.mpr (ScoreLike.inRange_percent h)
    | infinite negative => exact absurd h not_inRange_infinite
    | nan => exact ⟨rfl, rfl⟩
  inRange_ratio h hn := inRange_finite.mpr (ScoreLike.inRange_ratio h hn)

end Order

end Extended

section Reading

/-- The largest finite double. -/
def largest : ℚ := 2 ^ 1024 - 2 ^ 971

/-- From here on a number is read as an infinity. -/
def overflow : ℚ := 2 ^ 1024 - 2 ^ 970

def asciiDigit (c : Char) : Char :=
  match decimalDigit c with
  | some n => Char.ofNat ('0'.toNat + n)
  | none => c

/-- The text without its underscores, which stand between digits only. -/
def withoutUnderscores (last : Char) : Text → Option Text
  | [] => if last = '_' then none else some []
  | c :: s =>
    if c = '_' then if last.isDigit then withoutUnderscores c s else none
    else if last = '_' ∧ ¬ c.isDigit then none
    else (withoutUnderscores c s).map fun s => c :: s

variable {K : Type} [FloatLike K] (cast : ℚ → K)

def ofMagnitude (q : ℚ) : Extended K :=
  if overflow ≤ q then .infinite false else .finite (cast (Min.min q largest))

def ofUnsigned (s : Text) : Option (Extended K) :=
  let name := s.map Char.toLower
  if name = "inf".toList ∨ name = "infinity".toList then some (.infinite false)
  else if name = "nan".toList then some .nan
  else (unsigned s).map (ofMagnitude cast)

def ofSigned : Text → Option (Extended K)
  | '-' :: s => (ofUnsigned cast s).map Extended.neg
  | '+' :: s => ofUnsigned cast s
  | s => ofUnsigned cast s

/-- `float(text)`, where it does not raise. -/
def ofText (s : Text) : Option (Extended K) :=
  (withoutUnderscores '\x00' ((stripBy isWhiteSpace s).map asciiDigit)).bind (ofSigned cast)

end Reading

section Instances

open Extended

/-- Floats in exact real arithmetic. -/
noncomputable instance : MetricLike (Extended ℝ) where
  parse := ofText fun q => q
  inf := infinite false
  isInf := isInf
  sqrt
    | finite x => finite (Real.sqrt x)
    | infinite false => infinite false
    | _ => nan

/-- Floats in exact rational arithmetic. -/
instance : FeatureLike (Extended ℚ) where
  parse := ofText id
  inf := infinite false
  isInf := isInf
  sqrt
    | finite x => finite (Rat.sqrt x)
    | infinite false => infinite false
    | _ => nan
  square x := some (FloatLike.mul x x)
  truncate
    | finite x => some (x.num.tdiv x.den)
    | _ => none
  fixed digits
    | finite x => fixedRat digits x
    | infinite false => "inf".toList
    | infinite true => "-inf".toList
    | nan => "nan".toList

example : ofText id " -1_0.5e1 ".toList = some (finite (-105 : ℚ)) := by decide +kernel

example : ofText (id : ℚ → ℚ) "1e400".toList = some (infinite false) := by decide +kernel

end Instances

end DataForge.Foundation.ExtendedNumbers
