import Mathlib.Data.Rat.Floor

namespace DataForge.Foundation.Numbers

/-- The number operations of a program that computes with floats. No law of
arithmetic is asked of them. -/
class FloatLike (F : Type) where
  ofInt : Int → F
  add : F → F → F
  sub : F → F → F
  mul : F → F → F
  div : F → F → F
  lt : F → F → Bool
  beq : F → F → Bool
  round : F → Int

namespace FloatLike

variable {F : Type} [FloatLike F]

def abs (x : F) : F := if lt x (ofInt 0) then sub (ofInt 0) x else x

/-- `max(x, y)`: the first argument unless the second is larger. -/
def max (x y : F) : F := if lt x y then y else x

def sum (xs : List F) : F := xs.foldl add (ofInt 0)

end FloatLike

/-- Rounding to the nearest integer, halves to the even one. -/
def roundHalfEven (q : ℚ) : Int :=
  if q - ⌊q⌋ < 1 / 2 ∨ (q - ⌊q⌋ = 1 / 2 ∧ ⌊q⌋ % 2 = 0) then ⌊q⌋ else ⌊q⌋ + 1

instance : FloatLike ℚ where
  ofInt n := n
  add := (· + ·)
  sub := (· - ·)
  mul := (· * ·)
  div := (· / ·)
  lt x y := decide (x < y)
  beq x y := decide (x = y)
  round := roundHalfEven

section Choice

variable {α β : Type}

/-- `min(xs, key=key)`: the first element with the least key. -/
def minBy (lt : β → β → Bool) (key : α → β) (x : α) (xs : List α) : α :=
  xs.foldl (fun best y => if lt (key y) (key best) then y else best) x

/-- `max(xs, key=key)`: the first element with the greatest key. -/
def maxBy (lt : β → β → Bool) (key : α → β) (x : α) (xs : List α) : α :=
  xs.foldl (fun best y => if lt (key best) (key y) then y else best) x

theorem mem_foldl_choice (better : α → α → Bool) (x : α) (xs : List α) :
    xs.foldl (fun best y => if better best y then y else best) x ∈ x :: xs := by
  induction xs generalizing x with
  | nil => simp
  | cons y xs ih =>
    rw [List.foldl_cons]
    by_cases h : better x y = true
    · rw [if_pos h]
      exact List.mem_cons_of_mem x (ih y)
    · rw [if_neg h]
      obtain he | hm := List.mem_cons.mp (ih x)
      · exact List.mem_cons.mpr (.inl he)
      · exact List.mem_cons_of_mem x (List.mem_cons_of_mem y hm)

theorem mem_minBy (lt : β → β → Bool) (key : α → β) (x : α) (xs : List α) :
    minBy lt key x xs ∈ x :: xs := mem_foldl_choice _ x xs

theorem mem_maxBy (lt : β → β → Bool) (key : α → β) (x : α) (xs : List α) :
    maxBy lt key x xs ∈ x :: xs := mem_foldl_choice _ x xs

end Choice

end DataForge.Foundation.Numbers
