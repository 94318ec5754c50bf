import DataForge.Foundation.Dictionary

namespace DataForge.Foundation.Grouping

open DataForge.Foundation.Dictionary

variable {κ α : Type} [DecidableEq κ]

section Counters

/-- A key that a counter does not hold counts zero. -/
def countOf (k : κ) (d : Dict κ Nat) : Nat := (get? k d).getD 0

def addCount (d : Dict κ Nat) (item : κ × Nat) : Dict κ Nat :=
  set item.1 (countOf item.1 d + item.2) d

def addCounts (d items : Dict κ Nat) : Dict κ Nat := items.foldl addCount d

def counter (xs : List κ) : Dict κ Nat := xs.foldl (fun d k => addCount d (k, 1)) []

@[simp] theorem countOf_nil (k : κ) : countOf k [] = 0 := rfl

theorem countOf_addCount (k : κ) (d : Dict κ Nat) (item : κ × Nat) :
    countOf k (addCount d item) = countOf k d + if item.1 = k then item.2 else 0 := by
  by_cases h : item.1 = k
  · subst k
    simp [addCount, countOf]
  · simp [addCount, countOf, get?_set_ne h, h]

theorem countOf_addCounts {items : Dict κ Nat} (h : (items.map Prod.fst).Nodup) (k : κ)
    (d : Dict κ Nat) : countOf k (addCounts d items) = countOf k d + countOf k items := by
  induction items generalizing d with
  | nil => rfl
  | cons item items ih =>
    obtain ⟨hni, hd⟩ := List.nodup_cons.mp h
    have hcons :
        countOf k (item :: items) = (if item.1 = k then item.2 else 0) + countOf k items := by
      by_cases hk : item.1 = k
      · subst k
        simp [countOf, get?, get?_eq_none.mpr hni]
      · simp [countOf, get?, hk]
    rw [addCounts, List.foldl_cons, ← addCounts, ih hd, countOf_addCount, hcons, Nat.add_assoc]

theorem countOf_counter (k : κ) (xs : List κ) : countOf k (counter xs) = xs.count k := by
  have hfold : ∀ d : Dict κ Nat,
      countOf k (xs.foldl (fun d k => addCount d (k, 1)) d) = countOf k d + xs.count k := by
    induction xs with
    | nil => simp
    | cons x xs ih =>
      intro d
      rw [List.foldl_cons, ih, countOf_addCount, List.count_cons]
      simp only [beq_iff_eq]
      omega
  simpa [counter] using hfold []

theorem countOf_counter_map (f : α → κ) (k : κ) (xs : List α) :
    countOf k (counter (xs.map f)) = xs.countP fun x => f x = k := by
  rw [countOf_counter, List.count_eq_countP, List.countP_map]
  exact List.countP_congr fun x _ => by simp

theorem mem_keys_counter {k : κ} {xs : List κ} : k ∈ (counter xs).map Prod.fst ↔ k ∈ xs := by
  have hfold : ∀ d : Dict κ Nat, k ∈ (xs.foldl (fun d k => addCount d (k, 1)) d).map Prod.fst ↔
      k ∈ d.map Prod.fst ∨ k ∈ xs := by
    induction xs with
    | nil => simp
    | cons x xs ih =>
      intro d
      rw [List.foldl_cons, ih, addCount, mem_keys_set, List.mem_cons]
      tauto
  simpa [counter] using hfold []

theorem sum_filter_addCount (p : κ → Bool) (d : Dict κ Nat) (item : κ × Nat) :
    (((addCount d item).filter fun entry => p entry.1).map Prod.snd).sum =
      ((d.filter fun entry => p entry.1).map Prod.snd).sum + if p item.1 then item.2 else 0 := by
  rw [addCount]
  induction d with
  | nil => cases hp : p item.1 <;> simp [Dictionary.set, hp]
  | cons entry d ih =>
    by_cases h : entry.1 = item.1
    · cases hp : p item.1
      · simp [Dictionary.set, countOf, get?, h, hp]
      · simp [Dictionary.set, countOf, get?, h, hp]
        omega
    · cases hp : p entry.1
      · simp [Dictionary.set, countOf, get?, h, hp] at ih ⊢
        exact ih
      · simp [Dictionary.set, countOf, get?, h, hp] at ih ⊢
        omega

/-- The counts of some keys add up to the number of items with such a key. -/
theorem sum_filter_counter (p : κ → Bool) (xs : List κ) :
    (((counter xs).filter fun entry => p entry.1).map Prod.snd).sum = xs.countP p := by
  have hfold : ∀ d : Dict κ Nat,
      (((xs.foldl (fun d k => addCount d (k, 1)) d).filter fun entry => p entry.1).map
        Prod.snd).sum =
        ((d.filter fun entry => p entry.1).map Prod.snd).sum + xs.countP p := by
    induction xs with
    | nil => simp
    | cons x xs ih =>
      intro d
      rw [List.foldl_cons, ih, sum_filter_addCount, List.countP_cons]
      dsimp only
      omega
  simpa [counter] using hfold []

/-- A counter counts every item once. -/
theorem sum_counter (xs : List κ) : ((counter xs).map Prod.snd).sum = xs.length := by
  simpa using sum_filter_counter (fun _ => true) xs

theorem nodup_keys_counter (xs : List κ) : ((counter xs).map Prod.fst).Nodup := by
  have hfold : ∀ d : Dict κ Nat, (d.map Prod.fst).Nodup →
      ((xs.foldl (fun d k => addCount d (k, 1)) d).map Prod.fst).Nodup := by
    induction xs with
    | nil => exact fun d hd => hd
    | cons x xs ih => exact fun d hd => ih _ (nodup_keys_set hd _ _)
  exact hfold [] (by simp)

theorem nodup_keys_addCounts {d : Dict κ Nat} (h : (d.map Prod.fst).Nodup) (items : Dict κ Nat) :
    ((addCounts d items).map Prod.fst).Nodup := by
  rw [addCounts]
  induction items generalizing d with
  | nil => exact h
  | cons item items ih => exact ih (nodup_keys_set h _ _)

/-- Counts that agree as mappings still do when the same counts are added to them. -/
theorem get?_addCounts_congr {d e : Dict κ Nat} (h : ∀ k, get? k d = get? k e)
    (items : Dict κ Nat) (k : κ) : get? k (addCounts d items) = get? k (addCounts e items) := by
  rw [addCounts, addCounts]
  induction items generalizing d e with
  | nil => exact h k
  | cons item items ih =>
    rw [List.foldl_cons, List.foldl_cons]
    apply ih
    intro k
    rw [addCount, addCount, get?_set, get?_set, countOf, countOf, h, h]

/-- Counting on from a count is counting the whole. -/
theorem counter_append (xs ys : List κ) :
    counter (xs ++ ys) = addCounts (counter xs) (ys.map fun k => (k, 1)) := by
  rw [counter, counter, addCounts, List.foldl_append, List.foldl_map]

theorem countP_flatMap_pos {β : Type} {f : β → List α} {p : α → Bool} {xs : List β} {x : β}
    (h : x ∈ xs) {a : α} (ha : a ∈ f x) (hp : p a = true) : 0 < (xs.flatMap f).countP p :=
  List.countP_pos_iff.mpr ⟨a, List.mem_flatMap.mpr ⟨x, h, ha⟩, hp⟩

/-- Two lists that each hold a counted element count for two. -/
theorem one_lt_countP_flatMap {β : Type} {f : β → List α} {p : α → Bool} {xs : List β} {x y : β}
    (hx : x ∈ xs) (hy : y ∈ xs) (hne : x ≠ y) {a b : α} (ha : a ∈ f x) (hpa : p a = true)
    (hb : b ∈ f y) (hpb : p b = true) : 1 < (xs.flatMap f).countP p := by
  induction xs with
  | nil => cases hx
  | cons z xs ih =>
    rw [List.flatMap_cons, List.countP_append]
    rcases List.mem_cons.mp hx with rfl | hx' <;> rcases List.mem_cons.mp hy with rfl | hy'
    · exact absurd rfl hne
    · have hhead : 0 < (f x).countP p := List.countP_pos_iff.mpr ⟨a, ha, hpa⟩
      have htail := countP_flatMap_pos hy' hb hpb
      omega
    · have hhead : 0 < (f y).countP p := List.countP_pos_iff.mpr ⟨b, hb, hpb⟩
      have htail := countP_flatMap_pos hx' ha hpa
      omega
    · have htail := ih hx' hy'
      omega

end Counters

section Folds

variable {ν : Type}

/-- The value of a key, updated by an item of it. -/
def updateKey (start : ν) (f : ν → α → ν) (d : Dict κ ν) (item : κ × α) : Dict κ ν :=
  set item.1 (f ((get? item.1 d).getD start) item.2) d

/-- Each key folds the items of its own. -/
theorem get?_foldl_updateKey (start : ν) (f : ν → α → ν) (k : κ) (items : List (κ × α))
    (d : Dict κ ν) :
    get? k (items.foldl (updateKey start f) d) =
      if k ∈ items.map Prod.fst then
        some (((items.filter fun item => item.1 = k).map Prod.snd).foldl f ((get? k d).getD start))
      else get? k d := by
  induction items generalizing d with
  | nil => simp
  | cons item items ih =>
    rw [List.foldl_cons, ih, updateKey, get?_set]
    by_cases hk : item.1 = k
    · subst k
      by_cases hmem : item.1 ∈ items.map Prod.fst
      · simp [hmem]
      · have hnone : items.filter (fun other => other.1 = item.1) = [] :=
          List.filter_eq_nil_iff.mpr fun other hother => by
            simpa using fun h => hmem (List.mem_map.mpr ⟨other, hother, h⟩)
        simp [hmem, hnone]
    · have hkeys : k ∈ (item :: items).map Prod.fst ↔ k ∈ items.map Prod.fst := by
        rw [List.map_cons, List.mem_cons]
        simp [Ne.symm hk]
      have hsame : (item :: items).filter (fun item => item.1 = k) =
          items.filter fun item => item.1 = k := by simp [hk]
      rw [if_neg hk, if_congr hkeys rfl rfl, hsame]

theorem getD_get?_foldl_updateKey (start : ν) (f : ν → α → ν) (k : κ) (items : List (κ × α))
    (d : Dict κ ν) :
    (get? k (items.foldl (updateKey start f) d)).getD start =
      ((items.filter fun item => item.1 = k).map Prod.snd).foldl f ((get? k d).getD start) := by
  rw [get?_foldl_updateKey]
  by_cases hk : k ∈ items.map Prod.fst
  · rw [if_pos hk, Option.getD_some]
  · have hnone : items.filter (fun item => item.1 = k) = [] :=
      List.filter_eq_nil_iff.mpr fun item hitem => by
        simpa using fun h => hk (List.mem_map.mpr ⟨item, hitem, h⟩)
    rw [if_neg hk, hnone]
    rfl

theorem nodup_keys_foldl_updateKey (start : ν) (f : ν → α → ν) (items : List (κ × α)) {d : Dict κ ν}
    (h : (d.map Prod.fst).Nodup) : ((items.foldl (updateKey start f) d).map Prod.fst).Nodup := by
  induction items generalizing d with
  | nil => exact h
  | cons item items ih => exact ih (nodup_keys_set h _ _)

/-- Counting the elements with a property. -/
theorem foldl_countP (p : α → Bool) (xs : List α) (n : Nat) :
    xs.foldl (fun n x => n + if p x then 1 else 0) n = n + xs.countP p := by
  induction xs generalizing n with
  | nil => rfl
  | cons x xs ih =>
    rw [List.foldl_cons, ih, List.countP_cons]
    omega

/-- Of two counts, one for a stronger condition, the two agree where the conditions do. -/
theorem countP_eq_countP_iff {p q : α → Bool} {xs : List α}
    (himp : ∀ x ∈ xs, q x = true → p x = true) :
    xs.countP p = xs.countP q ↔ ∀ x ∈ xs, p x = true → q x = true := by
  induction xs with
  | nil => simp
  | cons x xs ih =>
    rw [List.forall_mem_cons] at himp
    have hle : xs.countP q ≤ xs.countP p := List.countP_mono_left himp.2
    rw [List.forall_mem_cons, List.countP_cons, List.countP_cons, ← ih himp.2]
    cases hp : p x with
    | false =>
      have hq : q x = false := by
        rw [← Bool.not_eq_true]
        exact fun hq => Bool.false_ne_true (hp.symm.trans (himp.1 hq))
      simp [hq]
    | true =>
      cases hq : q x
      · simp
        omega
      · simp

end Folds

section Groups

/-- `groups.setdefault(key, []).append(value)`. -/
def appendTo (d : Dict κ (List α)) (item : κ × α) : Dict κ (List α) :=
  set item.1 ((get? item.1 d).getD [] ++ [item.2]) d

def groupItems (items : List (κ × α)) : Dict κ (List α) := items.foldl appendTo []

theorem flatMap_appendTo (d : Dict κ (List α)) (item : κ × α) :
    ((appendTo d item).flatMap Prod.snd).Perm (d.flatMap Prod.snd ++ [item.2]) := by
  induction d with
  | nil => simp [appendTo, Dictionary.set]
  | cons entry d ih =>
    by_cases h : entry.1 = item.1
    · simp only [appendTo, get?, h, if_true, Option.getD_some, Dictionary.set, List.flatMap_cons,
        List.append_assoc]
      exact List.perm_append_comm.append_left _
    · simp only [appendTo, get?, h, if_false, Dictionary.set, List.flatMap_cons,
        List.append_assoc] at ih ⊢
      exact ih.append_left _

/-- The groups hold every value once. -/
theorem flatMap_groupItems (items : List (κ × α)) :
    ((groupItems items).flatMap Prod.snd).Perm (items.map Prod.snd) := by
  have hfold : ∀ d : Dict κ (List α),
      ((items.foldl appendTo d).flatMap Prod.snd).Perm
        (d.flatMap Prod.snd ++ items.map Prod.snd) := by
    induction items with
    | nil => simp
    | cons item items ih =>
      intro d
      refine (ih (appendTo d item)).trans ?_
      simpa using (flatMap_appendTo d item).append_right (items.map Prod.snd)
  simpa [groupItems] using hfold []

theorem mem_appendTo {d : Dict κ (List α)} {item : κ × α} {k : κ} {xs : List α}
    (h : (k, xs) ∈ appendTo d item) :
    (k, xs) ∈ d ∨ k = item.1 ∧ xs = (get? item.1 d).getD [] ++ [item.2] := by
  rw [appendTo] at h
  generalize (get? item.1 d).getD [] ++ [item.2] = v at h ⊢
  induction d with
  | nil => simpa [Dictionary.set] using h
  | cons entry d ih =>
    by_cases he : entry.1 = item.1
    · simp only [Dictionary.set, he, if_true, List.mem_cons, Prod.mk.injEq] at h
      rcases h with h | h
      · exact .inr h
      · exact .inl (List.mem_cons_of_mem _ h)
    · simp only [Dictionary.set, he, if_false, List.mem_cons] at h
      rcases h with h | h
      · exact .inl (List.mem_cons.mpr (.inl h))
      · exact (ih h).imp_left (List.mem_cons_of_mem _)

/-- A group is not empty, and each of its values came with its key. -/
theorem mem_groupItems {items : List (κ × α)} {k : κ} {xs : List α}
    (h : (k, xs) ∈ groupItems items) : xs ≠ [] ∧ ∀ x ∈ xs, (k, x) ∈ items := by
  have hfold : ∀ (rest done : List (κ × α)) (d : Dict κ (List α)),
      (∀ k xs, (k, xs) ∈ d → xs ≠ [] ∧ ∀ x ∈ xs, (k, x) ∈ done) →
      (k, xs) ∈ rest.foldl appendTo d → xs ≠ [] ∧ ∀ x ∈ xs, (k, x) ∈ done ++ rest := by
    intro rest
    induction rest with
    | nil => simpa using fun done d hd h => hd k xs h
    | cons item rest ih =>
      intro done d hd h
      have hstep : ∀ k xs, (k, xs) ∈ appendTo d item →
          xs ≠ [] ∧ ∀ x ∈ xs, (k, x) ∈ done ++ [item] := by
        intro k xs hm
        obtain hm | ⟨rfl, rfl⟩ := mem_appendTo hm
        · exact ⟨(hd k xs hm).1, fun x hx => List.mem_append_left _ ((hd k xs hm).2 x hx)⟩
        · refine ⟨by simp, fun x hx => ?_⟩
          rcases List.mem_append.mp hx with hx | hx
          · cases hg : get? item.1 d with
            | none => simp [hg] at hx
            | some ys =>
              rw [hg] at hx
              exact List.mem_append_left _ ((hd _ _ (mem_of_get? hg)).2 x hx)
          · obtain rfl := List.mem_singleton.mp hx
            simp
      simpa using ih (done ++ [item]) (appendTo d item) hstep h
  simpa using hfold items [] [] (by simp) h

theorem nodup_keys_groupItems (items : List (κ × α)) : ((groupItems items).map Prod.fst).Nodup := by
  have hfold : ∀ d : Dict κ (List α), (d.map Prod.fst).Nodup →
      ((items.foldl appendTo d).map Prod.fst).Nodup := by
    induction items with
    | nil => exact fun d hd => hd
    | cons item items ih => exact fun d hd => ih _ (nodup_keys_set hd _ _)
  exact hfold [] (by simp)

theorem get?_appendTo (k : κ) (d : Dict κ (List α)) (item : κ × α) :
    get? k (appendTo d item) =
      if item.1 = k then some ((get? k d).getD [] ++ [item.2]) else get? k d := by
  rw [appendTo, get?_set]
  by_cases h : item.1 = k
  · rw [if_pos h, if_pos h, h]
  · rw [if_neg h, if_neg h]

/-- The group of a key holds the values that came with the key, in their order. -/
theorem get?_groupItems (k : κ) (items : List (κ × α)) :
    get? k (groupItems items) =
      if k ∈ items.map Prod.fst then some ((items.filter fun item => item.1 = k).map Prod.snd)
      else none := by
  induction items using List.reverseRecOn with
  | nil => rfl
  | append_singleton items item ih =>
    have hstep : groupItems (items ++ [item]) = appendTo (groupItems items) item := by
      rw [groupItems, List.foldl_append]
      rfl
    rw [hstep, get?_appendTo, ih]
    by_cases h : item.1 = k
    · by_cases hk : k ∈ items.map Prod.fst
      · simp [h, hk]
      · have hnone : items.filter (fun item => item.1 = k) = [] := by
          apply List.filter_eq_nil_iff.mpr
          intro other hother
          have hne : other.1 ≠ k := fun he => hk (he ▸ List.mem_map_of_mem hother)
          simpa using hne
        simp [h, hk, hnone]
    · have hkeys : k ∈ (items ++ [item]).map Prod.fst ↔ k ∈ items.map Prod.fst := by
        rw [List.map_append, List.mem_append]
        simp [Ne.symm h]
      have hsame : (items ++ [item]).filter (fun item => item.1 = k) =
          items.filter fun item => item.1 = k := by simp [h]
      rw [if_neg h, if_congr hkeys rfl rfl, hsame]

theorem mem_keys_groupItems {k : κ} {items : List (κ × α)} :
    k ∈ (groupItems items).map Prod.fst ↔ k ∈ items.map Prod.fst := by
  have hkey := get?_groupItems k items
  constructor
  · intro h
    by_contra hne
    rw [if_neg hne] at hkey
    exact get?_eq_none.mp hkey h
  · intro h
    by_contra hne
    rw [if_pos h, get?_eq_none.mpr hne] at hkey
    cases hkey

theorem mem_groupItems_iff {items : List (κ × α)} {k : κ} {xs : List α} :
    (k, xs) ∈ groupItems items ↔
      k ∈ items.map Prod.fst ∧ xs = (items.filter fun item => item.1 = k).map Prod.snd := by
  have hkey := get?_groupItems k items
  constructor
  · intro h
    have hk := mem_keys_groupItems.mp (List.mem_map_of_mem h)
    rw [get?_of_mem (nodup_keys_groupItems items) h, if_pos hk] at hkey
    exact ⟨hk, Option.some.inj hkey⟩
  · rintro ⟨hk, rfl⟩
    rw [if_pos hk] at hkey
    exact mem_of_get? hkey

section Renaming

variable {β μ : Type} [DecidableEq μ] (h : κ → μ) (f : α → β)

theorem map_appendTo {d : Dict κ (List α)} {item : κ × α}
    (hk : ∀ j ∈ d.map Prod.fst, h j = h item.1 → j = item.1) :
    (appendTo d item).map (fun entry => (h entry.1, entry.2.map f)) =
      appendTo (d.map fun entry => (h entry.1, entry.2.map f)) (h item.1, f item.2) := by
  rw [appendTo, appendTo, map_set h _ _ hk, get?_map h _ hk]
  cases get? item.1 d with
  | none => simp
  | some xs => simp

/-- Grouping commutes with a map of the values and with an injective one of the keys. -/
theorem groupItems_map {items : List (κ × α)} 
    (hinj : ∀ j ∈ items.map Prod.fst, ∀ k ∈ items.map Prod.fst, h j = h k → j = k) :
    groupItems (items.map fun item => (h item.1, f item.2)) =
      (groupItems items).map fun entry => (h entry.1, entry.2.map f) := by
  induction items using List.reverseRecOn with
  | nil => rfl
  | append_singleton items item ih =>
    have hmem : ∀ j ∈ items.map Prod.fst, j ∈ (items ++ [item]).map Prod.fst := by
      intro j hj
      rw [List.map_append]
      exact List.mem_append_left _ hj
    have hlast : item.1 ∈ (items ++ [item]).map Prod.fst := by simp
    have hstep : groupItems (items ++ [item]) = appendTo (groupItems items) item := by
      rw [groupItems, List.foldl_append]
      rfl
    have hstep' : groupItems ((items ++ [item]).map fun item => (h item.1, f item.2)) =
        appendTo (groupItems (items.map fun item => (h item.1, f item.2)))
          (h item.1, f item.2) := by
      rw [List.map_append, groupItems, List.foldl_append]
      rfl
    rw [hstep', ih fun j hj k hk => hinj j (hmem j hj) k (hmem k hk), hstep, map_appendTo]
    intro j hj heq
    exact hinj j (hmem j (mem_keys_groupItems.mp hj)) item.1 hlast heq

end Renaming

/-- Items that agree on the key make one group at most. -/
theorem length_groupItems_le_one {items : List (κ × α)} :
    (groupItems items).length ≤ 1 ↔ ∀ a ∈ items, ∀ b ∈ items, a.1 = b.1 := by
  have hkeys : ∀ k, k ∈ items.map Prod.fst ↔ k ∈ (groupItems items).map Prod.fst :=
    fun k => mem_keys_groupItems.symm
  have hnodup := nodup_keys_groupItems items
  generalize groupItems items = groups at hkeys hnodup ⊢
  constructor
  · intro hone a ha b hb
    have ha' := (hkeys a.1).mp (List.mem_map_of_mem ha)
    have hb' := (hkeys b.1).mp (List.mem_map_of_mem hb)
    match groups, hone with
    | [], _ => cases ha'
    | [group], _ => exact (List.mem_singleton.mp ha').trans (List.mem_singleton.mp hb').symm
  · intro h
    match groups with
    | [] => simp
    | [_] => simp
    | a :: b :: groups =>
      obtain ⟨x, hx, hax⟩ := List.mem_map.mp ((hkeys a.1).mpr (by simp))
      obtain ⟨y, hy, hby⟩ := List.mem_map.mp ((hkeys b.1).mpr (by simp))
      have hab : a.1 = b.1 := hax.symm.trans ((h x hx y hy).trans hby)
      simp [hab] at hnodup

end Groups

end DataForge.Foundation.Grouping
