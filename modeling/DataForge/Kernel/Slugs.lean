import Mathlib.Data.List.Chain
import DataForge.Kernel.ActionPlanPreview

namespace DataForge.Kernel.Slugs

open DataForge.Foundation.Strings
open DataForge.Domain.Common
open DataForge.Domain.Artifact
open DataForge.Kernel.ActionPlanPreview

/-- Slug characters and underscores, no two underscores in a row. -/
structure Tidy (s : Text) : Prop where
  characters : ∀ c ∈ s, slugChar c = true ∨ c = '_'
  separated : s.IsChain fun a b => slugChar a = true ∨ slugChar b = true

/-- A tidy text that neither starts nor ends with an underscore. -/
structure IsSlug (s : Text) : Prop extends Tidy s where
  head : ∀ c ∈ s.head?, slugChar c = true
  last : ∀ c ∈ s.getLast?, slugChar c = true

theorem tidy_nil : Tidy [] := ⟨by simp, .nil⟩

theorem tidy_cons {c : Char} {s : Text} (hc : slugChar c = true ∨ c = '_')
    (hnext : ∀ d ∈ s.head?, slugChar c = true ∨ slugChar d = true) (h : Tidy s) :
    Tidy (c :: s) := by
  refine ⟨fun d hd => ?_, List.isChain_cons.mpr ⟨hnext, h.separated⟩⟩
  rcases List.mem_cons.mp hd with rfl | hd
  · exact hc
  · exact h.characters d hd

theorem tidy_append {s t : Text} (hs : Tidy s) (ht : Tidy t)
    (hnext : ∀ c ∈ t.head?, slugChar c = true) : Tidy (s ++ t) := by
  refine ⟨fun c hc => ?_, List.isChain_append.mpr ⟨hs.separated, ht.separated, ?_⟩⟩
  · exact (List.mem_append.mp hc).elim (hs.characters c) (ht.characters c)
  · exact fun _ _ c hc => .inr (hnext c hc)

/-- Whatever is collapsed becomes tidy, and does not start another run of underscores. -/
theorem tidy_collapse (inRun : Bool) (s : Text) : Tidy (collapse inRun s) ∧
    (inRun = true → ∀ c ∈ (collapse inRun s).head?, slugChar c = true) := by
  induction s generalizing inRun with
  | nil => exact ⟨tidy_nil, by simp [collapse]⟩
  | cons c s ih =>
    by_cases hc : slugChar c = true
    · rw [collapse, if_pos hc]
      refine ⟨tidy_cons (.inl hc) (fun _ _ => .inl hc) (ih false).1, fun _ d hd => ?_⟩
      obtain rfl : c = d := by simpa using hd
      exact hc
    · obtain ⟨htidy, hnext⟩ := ih true
      rw [collapse, if_neg hc]
      cases inRun with
      | true => exact ⟨htidy, fun _ => hnext rfl⟩
      | false => exact ⟨tidy_cons (.inr rfl) (fun d hd => .inr (hnext rfl d hd)) htidy, by simp⟩

theorem collapse_of_tidy {inRun : Bool} {s : Text} (h : Tidy s)
    (hhead : inRun = true → ∀ c ∈ s.head?, slugChar c = true) : collapse inRun s = s := by
  induction s generalizing inRun with
  | nil => rfl
  | cons c s ih =>
    obtain ⟨hnext, hseparated⟩ := List.isChain_cons.mp h.separated
    have hrest : Tidy s := ⟨fun d hd => h.characters d (List.mem_cons_of_mem c hd), hseparated⟩
    rw [collapse]
    by_cases hc : slugChar c = true
    · rw [if_pos hc, ih hrest (by simp)]
    · obtain rfl := (h.characters c List.mem_cons_self).resolve_left hc
      cases inRun with
      | true => exact absurd (hhead rfl '_' rfl) hc
      | false =>
        rw [if_neg hc, if_neg (by simp)]
        rw [ih hrest fun _ d hd => (hnext d hd).resolve_left hc]

theorem slugChar_of_ne {s : Text} (h : Tidy s) {c : Char} (hmem : c ∈ s)
    (hne : (c == '_') = false) : slugChar c = true :=
  (h.characters c hmem).resolve_right (by simpa using hne)

theorem isSlug_stripped (s : Text) : IsSlug (stripBy (· == '_') (collapse false s)) := by
  have hinner := isInfix_stripBy (· == '_') (collapse false s)
  obtain ⟨hchars, hseparated⟩ := (tidy_collapse false s).1
  have htidy : Tidy (stripBy (· == '_') (collapse false s)) :=
    ⟨fun c hc => hchars c (hinner.subset hc), hseparated.infix hinner⟩
  refine ⟨htidy, fun c hc => ?_, fun c hc => ?_⟩
  · exact slugChar_of_ne htidy (List.mem_of_mem_head? hc) (head?_stripBy _ _ c hc)
  · exact slugChar_of_ne htidy (List.mem_of_mem_getLast? hc) (getLast?_stripBy _ _ c hc)

theorem stripped_of_isSlug {s : Text} (h : IsSlug s) :
    stripBy (· == '_') (collapse false s) = s := by
  have hne {c : Char} (hc : slugChar c = true) : (c == '_') = false := by
    by_cases he : c = '_'
    · subst c
      exact absurd hc (by decide)
    · simpa using he
  rw [collapse_of_tidy h.toTidy (by simp)]
  exact stripBy_eq_self (fun c hc => hne (h.head c hc)) fun c hc => hne (h.last c hc)

/-- A tidy opening before a slug makes a longer slug. -/
theorem isSlug_append {s t : Text} (hs : Tidy s) (hhead : ∀ c ∈ s.head?, slugChar c = true)
    (ht : IsSlug t) (hne : t ≠ []) : IsSlug (s ++ t) := by
  refine ⟨tidy_append hs ht.toTidy ht.head, fun c hc => ?_, fun c hc => ?_⟩
  · cases s with
    | nil => exact ht.head c hc
    | cons d s => exact hhead c hc
  · rw [List.getLast?_append_of_ne_nil s hne] at hc
    exact ht.last c hc

section Lower

theorem toNat_of_slugChar {c : Char} (h : slugChar c = true ∨ c = '_') :
    c.toNat = 95 ∨ (97 ≤ c.toNat ∧ c.toNat ≤ 122) ∨ (48 ≤ c.toNat ∧ c.toNat ≤ 57) := by
  obtain h | rfl := h
  · simp only [slugChar, Bool.or_eq_true, Bool.and_eq_true, decide_eq_true_eq, char_le_iff] at h
    exact .inr h
  · exact .inl rfl

theorem toLower_of_slugChar {c : Char} (h : slugChar c = true ∨ c = '_') : c.toLower = c := by
  have hrange := toNat_of_slugChar h
  delta Char.toLower
  rw [dif_neg]
  rintro ⟨hlow, hhigh⟩
  have hlow' : 65 ≤ c.toNat := hlow
  have hhigh' : c.toNat ≤ 90 := hhigh
  omega

theorem lower_append {p : Platform} {s t : Text} (hs : ∀ c ∈ s, c.toNat < 128) (ht : Tidy t) :
    p.lower (s ++ t) = s.map Char.toLower ++ t := by
  have ht' : t.map Char.toLower = t :=
    (List.map_congr_left fun c hc => toLower_of_slugChar (ht.characters c hc)).trans (List.map_id t)
  rw [p.lower_ascii, List.map_append, ht']
  intro c hc
  rcases List.mem_append.mp hc with hc | hc
  · exact hs c hc
  · have := toNat_of_slugChar (ht.characters c hc)
    omega

end Lower

/-- A slug of an ASCII opening and a slug keeps the slug as it is. -/
theorem slug_append {p : Platform} {opening s : Text} (hascii : ∀ c ∈ opening, c.toNat < 128)
    (hopening : Tidy (opening.map Char.toLower))
    (hhead : ∀ c ∈ (opening.map Char.toLower).head?, slugChar c = true) (hs : IsSlug s)
    (hne : s ≠ []) : (slug p (opening ++ s)).1 = opening.map Char.toLower ++ s := by
  have hslug := isSlug_append hopening hhead hs hne
  have hstripped : stripBy (· == '_') (collapse false (p.lower (opening ++ s))) =
      opening.map Char.toLower ++ s := by
    rw [lower_append hascii hs.toTidy, stripped_of_isSlug hslug]
  rw [slug]
  simp only [hstripped]
  rw [dif_neg (List.append_ne_nil_of_right_ne_nil _ hne)]

end DataForge.Kernel.Slugs
