import Mathlib.Algebra.GroupWithZero.Nat
import Mathlib.Data.List.Basic
import Mathlib.Data.List.Induction

namespace DataForge.Foundation.Dictionary

variable {κ ν : Type} [DecidableEq κ]

/-- An insertion ordered dictionary, as its items. -/
abbrev Dict (κ ν : Type) := List (κ × ν)

def get? (k : κ) : Dict κ ν → Option ν
  | [] => none
  | (j, v) :: items => if j = k then some v else get? k items

/-- Assignment keeps the place of a key that is there and appends a new one. -/
def set (k : κ) (v : ν) : Dict κ ν → Dict κ ν
  | [] => [(k, v)]
  | (j, w) :: items => if j = k then (k, v) :: items else (j, w) :: set k v items

def update (d items : Dict κ ν) : Dict κ ν := items.foldl (fun d item => set item.1 item.2 d) d

def erase (k : κ) (d : Dict κ ν) : Dict κ ν := d.filter fun item => item.1 ≠ k

def contains (k : κ) (d : Dict κ ν) : Bool := (get? k d).isSome

@[simp] theorem get?_nil (k : κ) : get? k ([] : Dict κ ν) = none := rfl

theorem get?_set (k j : κ) (v : ν) (d : Dict κ ν) :
    get? j (set k v d) = if k = j then some v else get? j d := by
  induction d with
  | nil => rfl
  | cons item d ih =>
    obtain ⟨i, w⟩ := item
    by_cases hik : i = k
    · subst i
      by_cases hkj : k = j <;> simp [set, get?, hkj]
    · by_cases hij : i = j
      · subst i
        have hkj : k ≠ j := Ne.symm hik
        simp [set, get?, hik, hkj]
      · simp [set, get?, hik, hij, ih]

@[simp] theorem get?_set_self (k : κ) (v : ν) (d : Dict κ ν) : get? k (set k v d) = some v := by
  simp [get?_set]

theorem get?_set_ne {k j : κ} (h : k ≠ j) (v : ν) (d : Dict κ ν) :
    get? j (set k v d) = get? j d := by
  simp [get?_set, h]

@[simp] theorem update_nil (d : Dict κ ν) : update d [] = d := rfl

@[simp] theorem update_cons (d : Dict κ ν) (k : κ) (v : ν) (items : Dict κ ν) :
    update d ((k, v) :: items) = update (set k v d) items := rfl

theorem update_append (d xs ys : Dict κ ν) : update d (xs ++ ys) = update (update d xs) ys :=
  List.foldl_append

theorem get?_update_of_notMem {k : κ} {items : Dict κ ν} (h : k ∉ items.map Prod.fst)
    (d : Dict κ ν) : get? k (update d items) = get? k d := by
  induction items generalizing d with
  | nil => rfl
  | cons item items ih =>
    obtain ⟨hne, hrest⟩ := by simpa using h
    rw [update_cons, ih (by simpa using hrest), get?_set_ne (Ne.symm hne)]

theorem get?_append (k : κ) (xs ys : Dict κ ν) :
    get? k (xs ++ ys) = (get? k xs).or (get? k ys) := by
  induction xs with
  | nil => rfl
  | cons item xs ih =>
    by_cases h : item.1 = k <;> simp [get?, h, ih]

theorem get?_map_values {μ : Type} (f : ν → μ) (k : κ) (d : Dict κ ν) :
    get? k (d.map fun item => (item.1, f item.2)) = (get? k d).map f := by
  induction d with
  | nil => rfl
  | cons item d ih =>
    by_cases h : item.1 = k <;> simp [get?, h, ih]

/-- Keys are renamed in a lookup where no other key gets the new name. -/
theorem get?_map {μ ξ : Type} [DecidableEq μ] (h : κ → μ) (f : ν → ξ) {k : κ} {d : Dict κ ν}
    (hk : ∀ j ∈ d.map Prod.fst, h j = h k → j = k) :
    get? (h k) (d.map fun item => (h item.1, f item.2)) = (get? k d).map f := by
  induction d with
  | nil => rfl
  | cons item d ih =>
    rw [List.map_cons, List.forall_mem_cons] at hk
    by_cases hitem : item.1 = k
    · simp [get?, hitem]
    · simp [get?, hitem, mt hk.1 hitem, ih hk.2]

theorem map_set {μ ξ : Type} [DecidableEq μ] (h : κ → μ) (f : ν → ξ) {k : κ} (v : ν) {d : Dict κ ν}
    (hk : ∀ j ∈ d.map Prod.fst, h j = h k → j = k) :
    (set k v d).map (fun item => (h item.1, f item.2)) =
      set (h k) (f v) (d.map fun item => (h item.1, f item.2)) := by
  induction d with
  | nil => rfl
  | cons item d ih =>
    rw [List.map_cons, List.forall_mem_cons] at hk
    by_cases hitem : item.1 = k
    · simp [set, hitem]
    · simp [set, hitem, mt hk.1 hitem, ih hk.2]

theorem map_update {μ : Type} (f : ν → μ) (d items : Dict κ ν) :
    (update d items).map (fun item => (item.1, f item.2)) =
      update (d.map fun item => (item.1, f item.2)) (items.map fun item => (item.1, f item.2)) := by
  induction items generalizing d with
  | nil => rfl
  | cons item items ih =>
    have hset : (set item.1 item.2 d).map (fun item => (item.1, f item.2)) =
        set item.1 (f item.2) (d.map fun item => (item.1, f item.2)) :=
      map_set id f item.2 fun _ _ h => h
    rw [List.map_cons, update_cons, update_cons, ih, hset]

theorem get?_update_map_values {μ : Type} (f : ν → μ) (k : κ) (items : Dict κ ν) :
    get? k (update [] (items.map fun item => (item.1, f item.2))) =
      (get? k (update [] items)).map f := by
  rw [← get?_map_values, map_update, List.map_nil]

theorem set_of_notMem {k : κ} {d : Dict κ ν} (h : k ∉ d.map Prod.fst) (v : ν) :
    set k v d = d ++ [(k, v)] := by
  induction d with
  | nil => rfl
  | cons item d ih =>
    obtain ⟨hne, hrest⟩ := by simpa using h
    have hd : k ∉ d.map Prod.fst := by simpa using hrest
    simp [set, Ne.symm hne, ih hd]

theorem mem_keys_set {k j : κ} {v : ν} {d : Dict κ ν} :
    j ∈ (set k v d).map Prod.fst ↔ j = k ∨ j ∈ d.map Prod.fst := by
  induction d with
  | nil => simp [set]
  | cons item d ih =>
    by_cases h : item.1 = k
    · simp [set, h]
    · simp only [set, h, if_false, List.map_cons, List.mem_cons, ih]
      tauto

theorem keys_set (k : κ) (v : ν) (d : Dict κ ν) :
    (set k v d).map Prod.fst =
      if k ∈ d.map Prod.fst then d.map Prod.fst else d.map Prod.fst ++ [k] := by
  induction d with
  | nil => rfl
  | cons item d ih =>
    by_cases h : item.1 = k
    · simp [set, h]
    · simp only [set, h, if_false, List.map_cons, ih, List.mem_cons, Ne.symm h, false_or]
      split <;> rfl

theorem mem_set {k : κ} {v : ν} {d : Dict κ ν} {item : κ × ν} (h : item ∈ set k v d) :
    item ∈ d ∨ item = (k, v) := by
  induction d with
  | nil => exact Or.inr (List.mem_singleton.mp h)
  | cons entry d ih =>
    rw [set] at h
    split at h
    · rcases List.mem_cons.mp h with rfl | h
      · exact Or.inr rfl
      · exact Or.inl (List.mem_cons_of_mem entry h)
    · rcases List.mem_cons.mp h with rfl | h
      · exact Or.inl List.mem_cons_self
      · exact (ih h).imp_left (List.mem_cons_of_mem entry)

theorem nodup_keys_set {d : Dict κ ν} (h : (d.map Prod.fst).Nodup) (k : κ) (v : ν) :
    ((set k v d).map Prod.fst).Nodup := by
  induction d with
  | nil => simp [set]
  | cons item d ih =>
    obtain ⟨hni, hd⟩ := List.nodup_cons.mp h
    by_cases hk : item.1 = k
    · simpa [set, hk] using h
    · simp only [set, hk, if_false, List.map_cons, List.nodup_cons]
      refine ⟨fun hm => ?_, ih hd⟩
      obtain he | he := mem_keys_set.mp hm
      · exact hk he
      · exact hni he

theorem nodup_keys_update {d : Dict κ ν} (h : (d.map Prod.fst).Nodup) (items : Dict κ ν) :
    ((update d items).map Prod.fst).Nodup := by
  induction items generalizing d with
  | nil => exact h
  | cons item items ih => exact ih (nodup_keys_set h item.1 item.2)

theorem get?_eq_none {k : κ} {d : Dict κ ν} : get? k d = none ↔ k ∉ d.map Prod.fst := by
  induction d with
  | nil => simp
  | cons item d ih =>
    by_cases h : item.1 = k
    · simp [get?, h]
    · simp [get?, h, ih, Ne.symm h]

/-- Where the items name a key, they decide it. -/
theorem get?_update (k : κ) {items : Dict κ ν} (h : (items.map Prod.fst).Nodup) (d : Dict κ ν) :
    get? k (update d items) = (get? k items).or (get? k d) := by
  induction items generalizing d with
  | nil => rfl
  | cons item items ih =>
    obtain ⟨hni, hd⟩ := List.nodup_cons.mp h
    by_cases hk : item.1 = k
    · subst k
      rw [update_cons, get?_update_of_notMem hni, get?_set_self]
      simp [get?]
    · rw [update_cons, ih hd, get?_set_ne hk]
      simp [get?, hk]

/-- A key that the items name with one value alone has that value. -/
theorem get?_update_of_forall {k : κ} {v : ν} {items : Dict κ ν} (d : Dict κ ν)
    (hsame : ∀ w, (k, w) ∈ items → w = v) (hmem : (k, v) ∈ items ∨ get? k d = some v) :
    get? k (update d items) = some v := by
  induction items generalizing d with
  | nil => simpa using hmem
  | cons item items ih =>
    obtain ⟨j, w⟩ := item
    rw [update_cons]
    refine ih _ (fun w hw => hsame w (List.mem_cons_of_mem _ hw)) ?_
    by_cases hj : j = k
    · subst j
      obtain rfl := hsame w (by simp)
      exact .inr (get?_set_self k w d)
    · rw [get?_set_ne hj]
      simpa [Ne.symm hj] using hmem

/-- A key that the items name has one of the values that they give it. -/
theorem exists_get?_update {k : κ} {items : Dict κ ν} (h : k ∈ items.map Prod.fst) (d : Dict κ ν) :
    ∃ v, (k, v) ∈ items ∧ get? k (update d items) = some v := by
  induction items generalizing d with
  | nil => simp at h
  | cons item items ih =>
    obtain ⟨j, w⟩ := item
    rw [update_cons]
    by_cases hrest : k ∈ items.map Prod.fst
    · obtain ⟨v, hv, hget⟩ := ih hrest (set j w d)
      exact ⟨v, List.mem_cons_of_mem _ hv, hget⟩
    · obtain rfl : k = j := by simpa [hrest] using h
      exact ⟨w, List.mem_cons_self, by rw [get?_update_of_notMem hrest, get?_set_self]⟩

/-- The last item that names a key decides it. -/
theorem get?_update_eq_getLast? (k : κ) (items d : Dict κ ν) : get? k (update d items) =
    ((items.filter fun item => item.1 = k).getLast?.map Prod.snd).or (get? k d) := by
  induction items generalizing d with
  | nil => rfl
  | cons item items ih =>
    rw [update_cons, ih, get?_set]
    by_cases hk : item.1 = k
    · rw [List.filter_cons_of_pos (by simpa using hk), List.getLast?_cons, if_pos hk]
      cases (items.filter fun item => item.1 = k).getLast? <;> simp
    · rw [List.filter_cons_of_neg (by simpa using hk), if_neg hk]

theorem update_eq_append {d items : Dict κ ν} (h : ((d ++ items).map Prod.fst).Nodup) :
    update d items = d ++ items := by
  induction items generalizing d with
  | nil => simp
  | cons item items ih =>
    have hni : item.1 ∉ d.map Prod.fst := by
      simp only [List.map_append, List.map_cons] at h
      exact fun hm => (List.nodup_append.mp h).2.2 _ hm _ (by simp) rfl
    rw [update_cons, set_of_notMem hni, ih (by simpa using h)]
    simp

theorem mem_keys_update {k : κ} {d items : Dict κ ν} :
    k ∈ (update d items).map Prod.fst ↔ k ∈ d.map Prod.fst ∨ k ∈ items.map Prod.fst := by
  induction items generalizing d with
  | nil => simp
  | cons item items ih =>
    rw [update_cons, ih, mem_keys_set, List.map_cons, List.mem_cons]
    tauto

theorem mem_of_get? {k : κ} {v : ν} {d : Dict κ ν} (h : get? k d = some v) : (k, v) ∈ d := by
  induction d with
  | nil => simp at h
  | cons item d ih =>
    obtain ⟨j, w⟩ := item
    by_cases hj : j = k
    · simp_all [get?]
    · simp only [get?, hj, if_false] at h
      exact List.mem_cons_of_mem _ (ih h)

theorem get?_of_mem {k : κ} {v : ν} {d : Dict κ ν} (hd : (d.map Prod.fst).Nodup)
    (h : (k, v) ∈ d) : get? k d = some v := by
  induction d with
  | nil => simp at h
  | cons item d ih =>
    obtain ⟨hni, hd'⟩ := List.nodup_cons.mp hd
    rcases List.mem_cons.mp h with rfl | hm
    · simp [get?]
    · have hne : item.1 ≠ k := by
        rintro rfl
        exact hni (List.mem_map.mpr ⟨_, hm, rfl⟩)
      simp [get?, hne, ih hd' hm]

theorem get?_perm {d e : Dict κ ν} (hd : (d.map Prod.fst).Nodup) (h : d.Perm e) (k : κ) :
    get? k d = get? k e := by
  have he : (e.map Prod.fst).Nodup := (h.map Prod.fst).nodup_iff.mp hd
  cases hg : get? k d with
  | none =>
    rw [get?_eq_none, (h.map Prod.fst).mem_iff] at hg
    exact (get?_eq_none.mpr hg).symm
  | some v => exact (get?_of_mem he (h.mem_iff.mp (mem_of_get? hg))).symm

/-- A dictionary that is filled from a list keeps the last value of each key. -/
theorem get?_index {α : Type} (key : α → κ) (k : κ) (xs : List α) :
    get? k (update [] (xs.map fun x => (key x, x))) = xs.reverse.find? fun x => key x = k := by
  induction xs using List.reverseRecOn with
  | nil => rfl
  | append_singleton xs x ih =>
    rw [List.map_append, update_append, List.map_singleton, update_cons, update_nil, get?_set, ih,
      List.reverse_append, List.reverse_singleton, List.singleton_append, List.find?_cons]
    by_cases h : key x = k <;> simp [h]

@[simp] theorem get?_erase_self (k : κ) (d : Dict κ ν) : get? k (erase k d) = none :=
  get?_eq_none.mpr (by simp [erase])

theorem get?_erase_ne {k j : κ} (h : k ≠ j) (d : Dict κ ν) : get? j (erase k d) = get? j d := by
  induction d with
  | nil => rfl
  | cons item d ih =>
    rw [erase] at ih ⊢
    by_cases hi : item.1 = k
    · rw [List.filter_cons_of_neg (by simpa using hi), ih]
      simp [get?, hi, h]
    · rw [List.filter_cons_of_pos (by simpa using hi)]
      simp only [get?, ih]

end DataForge.Foundation.Dictionary
