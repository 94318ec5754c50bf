import DataForge.Foundation.Dictionary
import DataForge.Foundation.Strings
import Mathlib.Data.List.Lex
import Mathlib.Data.List.Dedup
import Mathlib.Data.List.Sort
import Mathlib.Data.Char

namespace DataForge.Foundation.Canonical

open DataForge.Foundation.Dictionary

section Sorting

variable {α : Type} {r : α → α → Prop} [DecidableRel r]

/-- Sorting by a linear order forgets the order of the elements and nothing else. -/
theorem insertionSort_eq_iff [Std.Total r] [IsTrans α r] [Std.Antisymm r] {xs ys : List α} :
    xs.insertionSort r = ys.insertionSort r ↔ xs.Perm ys := by
  constructor
  · intro h
    exact (List.perm_insertionSort r xs).symm.trans (h ▸ List.perm_insertionSort r ys)
  · intro h
    have hperm := (List.perm_insertionSort r xs).trans (h.trans (List.perm_insertionSort r ys).symm)
    exact hperm.eq_of_pairwise (fun a b _ _ hab hba => Std.Antisymm.antisymm a b hab hba)
      (List.pairwise_insertionSort r xs) (List.pairwise_insertionSort r ys)

end Sorting

section Sets

variable {α : Type} [LinearOrder α]

/-- `sorted(set(values))`. -/
def sortedSet (values : List α) : List α := values.dedup.insertionSort (· ≤ ·)

theorem mem_sortedSet {a : α} {values : List α} : a ∈ sortedSet values ↔ a ∈ values := by
  rw [sortedSet, (List.perm_insertionSort _ _).mem_iff, List.mem_dedup]

theorem nodup_sortedSet (values : List α) : (sortedSet values).Nodup := by
  rw [sortedSet, (List.perm_insertionSort _ _).nodup_iff]
  exact List.nodup_dedup values

theorem length_sortedSet (values : List α) : (sortedSet values).length = values.dedup.length :=
  List.length_insertionSort _ _

theorem length_sortedSet_le (values : List α) : (sortedSet values).length ≤ values.length := by
  rw [length_sortedSet]
  exact (List.dedup_sublist values).length_le

theorem length_sortedSet_eq_iff {values : List α} :
    (sortedSet values).length = values.length ↔ values.Nodup := by
  rw [length_sortedSet]
  constructor
  · intro h
    exact List.dedup_eq_self.mp ((List.dedup_sublist values).eq_of_length h)
  · intro h
    rw [h.dedup]

theorem sortedSet_eq_iff {xs ys : List α} : sortedSet xs = sortedSet ys ↔ ∀ a, a ∈ xs ↔ a ∈ ys := by
  rw [sortedSet, sortedSet, insertionSort_eq_iff,
    List.perm_ext_iff_of_nodup (List.nodup_dedup xs) (List.nodup_dedup ys)]
  simp

end Sets

section Mappings

variable {κ ν : Type} [LinearOrder κ] [DecidableEq κ]

/-- The items of a dictionary in the order of the keys. -/
def sortedItems (d : Dict κ ν) : Dict κ ν := d.insertionSort fun a b => a.1 ≤ b.1

omit [DecidableEq κ] in
theorem sortedItems_perm (d : Dict κ ν) : (sortedItems d).Perm d := List.perm_insertionSort _ d

theorem get?_of_sortedItems_eq {d e : Dict κ ν} (hd : (d.map Prod.fst).Nodup)
    (h : sortedItems d = sortedItems e) (k : κ) : get? k d = get? k e :=
  get?_perm hd ((sortedItems_perm d).symm.trans (h ▸ sortedItems_perm e)) k

omit [DecidableEq κ] in
theorem pairwise_sortedItems {d : Dict κ ν} (hd : (d.map Prod.fst).Nodup) :
    (sortedItems d).Pairwise fun a b => a.1 < b.1 := by
  have hle : (sortedItems d).Pairwise fun a b => a.1 ≤ b.1 :=
    have : Std.Total fun a b : κ × ν => a.1 ≤ b.1 := ⟨fun a b => le_total a.1 b.1⟩
    have : IsTrans (κ × ν) fun a b => a.1 ≤ b.1 := ⟨fun _ _ _ => le_trans⟩
    List.pairwise_insertionSort _ d
  have hne : ((sortedItems d).map Prod.fst).Nodup :=
    ((sortedItems_perm d).map Prod.fst).nodup_iff.mpr hd
  exact (hle.and (List.pairwise_map.mp hne)).imp fun ⟨h, hn⟩ => lt_of_le_of_ne h hn

/-- Two dictionaries have the same sorted items exactly when they are equal as
mappings. -/
theorem sortedItems_eq_iff {d e : Dict κ ν} (hd : (d.map Prod.fst).Nodup)
    (he : (e.map Prod.fst).Nodup) : sortedItems d = sortedItems e ↔ ∀ k, get? k d = get? k e := by
  refine ⟨fun h => get?_of_sortedItems_eq hd h, fun h => ?_⟩
  have hmem : ∀ item, item ∈ d ↔ item ∈ e := fun ⟨k, v⟩ =>
    ⟨fun hm => mem_of_get? (h k ▸ get?_of_mem hd hm),
      fun hm => mem_of_get? (h k ▸ get?_of_mem he hm)⟩
  have hperm : d.Perm e :=
    (List.perm_ext_iff_of_nodup (List.Nodup.of_map _ hd) (List.Nodup.of_map _ he)).mpr hmem
  have hsorted := (sortedItems_perm d).trans (hperm.trans (sortedItems_perm e).symm)
  exact hsorted.eq_of_pairwise (fun a b _ _ hab hba => absurd hab (not_lt_of_gt hba))
    (pairwise_sortedItems hd) (pairwise_sortedItems he)

omit [DecidableEq κ] in
theorem nodup_keys_sortedItems {d : Dict κ ν} (h : (d.map Prod.fst).Nodup) :
    ((sortedItems d).map Prod.fst).Nodup :=
  (((sortedItems_perm d).map Prod.fst).nodup_iff).mpr h

theorem get?_sortedItems {d : Dict κ ν} (h : (d.map Prod.fst).Nodup) (k : κ) :
    get? k (sortedItems d) = get? k d :=
  get?_perm (nodup_keys_sortedItems h) (sortedItems_perm d) k

omit [DecidableEq κ] in
theorem sortedItems_map_values {μ : Type} (f : κ × ν → μ) (d : Dict κ ν) :
    sortedItems (d.map fun item => (item.1, f item)) =
      (sortedItems d).map fun item => (item.1, f item) := by
  rw [sortedItems, sortedItems]
  refine (List.map_insertionSort _ _ _ _ fun _ _ _ _ => ?_).symm
  exact Iff.rfl

end Mappings

end DataForge.Foundation.Canonical
