import Mathlib.Data.List.Forall2
import Mathlib.Data.List.Basic
import Mathlib.Data.List.Infix
import Mathlib.Data.List.Nodup

namespace DataForge.Foundation.Lists

variable {α β γ κ : Type}

section Related

theorem forall₂_congr_right {P : α → γ → Prop} {Q : α → β → Prop} {S : β → γ → Prop} {xs : List α}
    {ys : List β} {zs : List γ} (h : List.Forall₂ S ys zs)
    (hiff : ∀ x y z, S y z → (P x z ↔ Q x y)) :
    List.Forall₂ P xs zs ↔ List.Forall₂ Q xs ys := by
  induction h generalizing xs with
  | nil => simp
  | cons hyz _ ih =>
    cases xs with
    | nil => simp
    | cons x xs => rw [List.forall₂_cons, List.forall₂_cons, hiff x _ _ hyz, ih]

theorem forall₂_congr_of {P Q R : α → β → Prop} {xs : List α} {ys : List β}
    (h : List.Forall₂ R xs ys) (hiff : ∀ x ∈ xs, ∀ y, R x y → (P x y ↔ Q x y)) :
    List.Forall₂ P xs ys ↔ List.Forall₂ Q xs ys := by
  induction h with
  | nil => simp
  | cons hxy _ ih =>
    rw [List.forall_mem_cons] at hiff
    rw [List.forall₂_cons, List.forall₂_cons, hiff.1 _ hxy, ih hiff.2]

theorem forall₂_iff_forall {P S : α → β → Prop} {Q : α → Prop} {xs : List α} {ys : List β}
    (h : List.Forall₂ S xs ys) (hiff : ∀ x y, S x y → (P x y ↔ Q x)) :
    List.Forall₂ P xs ys ↔ ∀ x ∈ xs, Q x := by
  induction h with
  | nil => simp
  | cons hxy _ ih => rw [List.forall₂_cons, List.forall_mem_cons, hiff _ _ hxy, ih]

theorem forall₂_comp {R : α → β → Prop} {S : β → γ → Prop} {xs : List α} {ys : List β}
    {zs : List γ} (hxy : List.Forall₂ R xs ys) (hyz : List.Forall₂ S ys zs) :
    List.Forall₂ (fun x z => ∃ y, R x y ∧ S y z) xs zs := by
  induction hxy generalizing zs with
  | nil =>
    cases hyz
    exact .nil
  | cons h _ ih =>
    cases hyz with
    | cons h' hrest => exact .cons ⟨_, h, h'⟩ (ih hrest)

theorem forall₂_and_right {P : β → Prop} {R : α → β → Prop} {xs : List α} {ys : List β}
    (h : List.Forall₂ R xs ys) (hall : ∀ y ∈ ys, P y) :
    List.Forall₂ (fun x y => P y ∧ R x y) xs ys := by
  induction h with
  | nil => exact .nil
  | cons hxy _ ih =>
    rw [List.forall_mem_cons] at hall
    exact .cons ⟨hall.1, hxy⟩ (ih hall.2)

end Related

section Parts

variable {xs : List α}

theorem two_le_length_of_mem (h : xs.Nodup) {x : α} (hx : x ∈ xs) :
    2 ≤ xs.length ↔ ∃ y ∈ xs, y ≠ x := by
  match xs, h, hx with
  | [a], _, hx =>
    obtain rfl := List.mem_singleton.mp hx
    simp
  | a :: b :: rest, h, hx =>
    refine iff_of_true (by simp) ?_
    by_cases ha : a = x
    · refine ⟨b, by simp, fun hb => ?_⟩
      simp [ha, hb] at h
    · exact ⟨a, by simp, ha⟩

/-- Everything is within a prefix exactly if the list is no longer. -/
theorem forall_mem_take_iff (h : xs.Nodup) {n : Nat} :
    (∀ x ∈ xs, x ∈ xs.take n) ↔ xs.length ≤ n := by
  constructor
  · intro hall
    by_contra hlt
    rw [not_le] at hlt
    have hmem := hall xs[n] (List.getElem_mem hlt)
    obtain ⟨i, hi, heq⟩ := List.mem_iff_getElem.mp hmem
    rw [List.length_take] at hi
    rw [List.getElem_take] at heq
    have hsame : i = n := (List.Nodup.getElem_inj_iff h).mp heq
    omega
  · intro hle x hx
    rwa [List.take_of_length_le hle]

theorem map_snd_filterMap (f : α → Option β) (key : α → β → κ) (xs : List α) :
    (xs.filterMap fun x => (f x).map fun b => (key x b, x)).map Prod.snd =
      xs.filter fun x => (f x).isSome := by
  induction xs with
  | nil => rfl
  | cons x xs ih =>
    rw [List.filterMap_cons, List.filter_cons]
    cases f x with
    | none => exact ih
    | some b => exact congrArg (x :: ·) ih

end Parts

section Keyed

theorem keys_mapIdx (keys : List κ) (values : Nat → α) :
    (keys.mapIdx fun i key => (key, values i)).map Prod.fst = keys := by
  apply List.ext_getElem <;> simp

/-- Keys for which no value is left get the default one. -/
theorem zip_append_drop (keys : List κ) (values : List α) (a : α) :
    (keys.zip values) ++ (keys.drop values.length).map (fun key => (key, a)) =
      keys.mapIdx fun i key => (key, values.getD i a) := by
  induction keys generalizing values with
  | nil => simp
  | cons key keys ih =>
    cases values with
    | nil =>
      rw [List.zip_nil_right, List.nil_append, List.length_nil, List.drop_zero]
      refine List.ext_getElem (by simp) fun i hi hi' => ?_
      rw [List.getElem_map, List.getElem_mapIdx, List.getD_nil]
    | cons value values =>
      rw [List.zip_cons_cons, List.length_cons, List.drop_succ_cons, List.cons_append, ih,
        List.mapIdx_cons]
      rfl

end Keyed

section Infixes

variable {w x y text token : List α}

/-- No text that shares no character with a token reaches into it. -/
theorem infix_append_token_iff (hne : w ≠ []) (htoken : token ≠ []) (hw : ∀ c ∈ token, c ∉ w) :
    w <:+: x ++ (token ++ y) ↔ w <:+: x ∨ w <:+: y := by
  constructor
  · intro h
    rcases List.infix_append_iff_ne_nil.mp h with h | h | ⟨w₁, w₂, -, hne₂, rfl, -, h⟩
    · exact .inl h
    · rcases List.infix_append_iff_ne_nil.mp h with h | h | ⟨w₁, w₂, hne₁, -, rfl, h, -⟩
      · obtain ⟨c, hc⟩ := List.exists_mem_of_ne_nil w hne
        exact absurd hc (hw c (h.subset hc))
      · exact .inr h
      · obtain ⟨c, hc⟩ := List.exists_mem_of_ne_nil w₁ hne₁
        exact absurd (List.mem_append_left w₂ hc) (hw c (h.subset hc))
    · obtain ⟨c, token, rfl⟩ := List.exists_cons_of_ne_nil htoken
      obtain ⟨c', w₂, rfl⟩ := List.exists_cons_of_ne_nil hne₂
      obtain rfl : c' = c := (List.cons_prefix_cons.mp h).1
      exact absurd (List.mem_append_right w₁ List.mem_cons_self) (hw c' List.mem_cons_self)
  · rintro (h | h)
    · exact h.trans (List.prefix_append x _).isInfix
    · exact h.trans ⟨x ++ token, [], by simp⟩

theorem infix_drop_iff {n : Nat} (hne : w ≠ []) :
    w <:+: text.drop n ↔ ∃ pre post, text = pre ++ w ++ post ∧ n ≤ pre.length := by
  constructor
  · rintro ⟨pre, post, h⟩
    have hn : n ≤ text.length := by
      by_contra hn
      rw [List.drop_eq_nil_of_le (by omega)] at h
      simp [hne] at h
    refine ⟨text.take n ++ pre, post, ?_, ?_⟩
    · rw [List.append_assoc, List.append_assoc, ← List.append_assoc pre, h, List.take_append_drop]
    · rw [List.length_append, List.length_take_of_le hn]
      exact Nat.le_add_right n _
  · rintro ⟨pre, post, rfl, hn⟩
    refine ⟨pre.drop n, post, ?_⟩
    rw [List.append_assoc, List.append_assoc, List.drop_append_of_le_length hn]

end Infixes

end DataForge.Foundation.Lists
