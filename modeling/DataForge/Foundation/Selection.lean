import Mathlib.Data.List.Basic

namespace DataForge.Foundation.Selection

variable {α : Type}

/-- The first element that the earliest tier with any match accepts. -/
def select (tiers : List (α → Bool)) (xs : List α) : Option α :=
  tiers.findSome? fun accepts => xs.find? accepts

/-- All the elements that the earliest tier with any match accepts. -/
def candidates : List (α → Bool) → List α → List α
  | [], _ => []
  | accepts :: tiers, xs => if xs.any accepts then xs.filter accepts else candidates tiers xs

theorem select_eq_head? (tiers : List (α → Bool)) (xs : List α) :
    select tiers xs = (candidates tiers xs).head? := by
  induction tiers with
  | nil => rfl
  | cons accepts tiers ih =>
    rw [select, List.findSome?_cons, candidates]
    cases hx : xs.find? accepts with
    | some x =>
      have hany : xs.any accepts = true :=
        List.any_eq_true.mpr ⟨x, List.mem_of_find?_eq_some hx, List.find?_some hx⟩
      rw [if_pos hany, List.head?_filter, hx]
    | none =>
      have hnone : ¬ xs.any accepts = true := by simpa using List.find?_eq_none.mp hx
      rw [if_neg hnone]
      exact ih

theorem candidates_perm (tiers : List (α → Bool)) {xs ys : List α} (h : xs.Perm ys) :
    (candidates tiers xs).Perm (candidates tiers ys) := by
  induction tiers with
  | nil => exact .refl _
  | cons accepts tiers ih =>
    rw [candidates, candidates, h.any_eq]
    split
    · exact h.filter accepts
    · exact ih

theorem candidates_subset (tiers : List (α → Bool)) (xs : List α) : candidates tiers xs ⊆ xs := by
  induction tiers with
  | nil => exact List.nil_subset xs
  | cons accepts tiers ih =>
    rw [candidates]
    split
    · exact List.filter_subset_self xs
    · exact ih

/-- An element of the earliest tier is selected once it stands first. -/
theorem select_move_front [DecidableEq α] {tiers : List (α → Bool)} {xs : List α} {a : α}
    (ha : a ∈ candidates tiers xs) : select tiers (a :: xs.erase a) = some a := by
  have hperm : xs.Perm (a :: xs.erase a) :=
    List.perm_cons_erase (candidates_subset tiers xs ha)
  rw [select_eq_head?]
  induction tiers with
  | nil => cases ha
  | cons accepts tiers ih =>
    rw [candidates] at ha ⊢
    rw [← hperm.any_eq]
    split at ha
    · rename_i hany
      rw [if_pos hany, List.filter_cons_of_pos (List.mem_filter.mp ha).2, List.head?_cons]
    · rename_i hany
      rw [if_neg hany]
      exact ih ha

/-- The selection forgets the order exactly when the earliest tier holds copies of
one element. -/
theorem select_perm_iff [DecidableEq α] (tiers : List (α → Bool)) (xs : List α) :
    (∀ ys, ys.Perm xs → select tiers ys = select tiers xs) ↔
      ∀ a ∈ candidates tiers xs, ∀ b ∈ candidates tiers xs, a = b := by
  constructor
  · intro h a ha b hb
    have hmove : ∀ c ∈ candidates tiers xs, some c = select tiers xs := fun c hc => by
      rw [← h _ (List.perm_cons_erase (candidates_subset tiers xs hc)).symm, select_move_front hc]
    exact Option.some.inj ((hmove a ha).trans (hmove b hb).symm)
  · intro h ys hperm
    have hc := candidates_perm tiers hperm
    rw [select_eq_head?, select_eq_head?]
    cases hy : (candidates tiers ys).head? with
    | none =>
      rw [List.head?_eq_none_iff] at hy
      rw [hy] at hc
      rw [hc.symm.eq_nil, List.head?_nil]
    | some y =>
      have hy' := hc.subset (List.mem_of_mem_head? hy)
      cases hx : (candidates tiers xs).head? with
      | none => rw [List.head?_eq_none_iff] at hx; rw [hx] at hy'; cases hy'
      | some x => rw [h y hy' x (List.mem_of_mem_head? hx)]

end DataForge.Foundation.Selection
