import DataForge.Plugins.Tabular.Splits
import Mathlib.Data.List.Pairwise

namespace DataForge.Plugins.Tabular.SplitFidelity

open DataForge.Foundation.Strings
open DataForge.Foundation.Outcome
open DataForge.Foundation.Dictionary
open DataForge.Foundation.Grouping
open DataForge.Foundation.Numbers
open DataForge.Domain.Common
open DataForge.Domain.Splits
open DataForge.Plugins.Tabular.Splits

section Grouped

/-- No group value looks like the key of a row without one. -/
def NoReservedValue (rows : List TabularRow) : Prop :=
  ∀ row ∈ rows, ∀ v, row.groupValue = some v → ¬ rowPrefix <+: v

theorem mem_groups {rows : List TabularRow} {g : Group} (h : g ∈ groups rows) :
    ∃ key, (key, g.rows) ∈ groupItems (rows.mapIdx fun i row => (rowKey i row, row)) ∧
      g = group key g.rows := by
  obtain ⟨⟨key, members⟩, hm, rfl⟩ := List.mem_map.mp h
  exact ⟨key, hm, rfl⟩

theorem rows_of_mem_groups {rows : List TabularRow} {g : Group} (h : g ∈ groups rows) :
    g.rows ≠ [] ∧ ∃ key, g = group key g.rows ∧
      ∀ row ∈ g.rows, row ∈ rows ∧ ∃ i, rowKey i row = key := by
  obtain ⟨key, hm, hg⟩ := mem_groups h
  obtain ⟨hne, hkeys⟩ := mem_groupItems hm
  refine ⟨hne, key, hg, fun row hrow => ?_⟩
  obtain ⟨i, hi, he⟩ := List.mem_mapIdx.mp (hkeys row hrow)
  obtain ⟨hkey, rfl⟩ := Prod.mk.injEq _ _ _ _ ▸ he
  exact ⟨List.getElem_mem hi, i, hkey⟩

theorem groups_perm (rows : List TabularRow) : ((groups rows).flatMap Group.rows).Perm rows := by
  have hrows : ((rows.mapIdx fun i row => (rowKey i row, row)).map Prod.snd) = rows :=
    List.ext_getElem (by simp) (by simp)
  have hperm := flatMap_groupItems (rows.mapIdx fun i row => (rowKey i row, row))
  rw [hrows] at hperm
  rwa [groups, List.flatMap_map]

theorem isPrefixOf_rowKey {i : Nat} {row : TabularRow} (h : row.groupValue = none) :
    rowPrefix.isPrefixOf (rowKey i row) = true := by
  rw [rowKey, h, List.isPrefixOf_iff_prefix]
  exact List.prefix_append _ _

/-- A row carries the group value of its group. -/
theorem groupValue_of_mem {rows : List TabularRow} (hrows : NoReservedValue rows) {g : Group}
    (hg : g ∈ groups rows) {row : TabularRow} (hrow : row ∈ g.rows) :
    g.groupValue = row.groupValue := by
  obtain ⟨-, key, hkey, hmem⟩ := rows_of_mem_groups hg
  obtain ⟨hin, i, rfl⟩ := hmem row hrow
  rw [hkey, group]
  cases hv : row.groupValue with
  | none => simp [isPrefixOf_rowKey hv]
  | some v =>
    have hfree : rowPrefix.isPrefixOf v = false :=
      Bool.eq_false_iff.mpr fun h => hrows row hin v hv (List.isPrefixOf_iff_prefix.mp h)
    simp [rowKey, hv, hfree]

theorem groupValue_free {rows : List TabularRow} {g : Group} (hg : g ∈ groups rows) {v : Text}
    (hv : g.groupValue = some v) : ¬ rowPrefix <+: v := by
  obtain ⟨key, -, hkey⟩ := mem_groups hg
  rw [hkey, group] at hv
  dsimp only at hv
  split at hv
  · cases hv
  · rename_i hfree
    obtain rfl := Option.some.inj hv
    simpa using hfree

def Apart (g h : Group) : Prop := ∀ v, g.groupValue = some v → h.groupValue ≠ some v

theorem apart_symm {g h : Group} (hgh : Apart g h) : Apart h g :=
  fun v hh hg => hgh v hg hh

theorem groupValue_group {key v : Text} {members : List TabularRow}
    (h : (group key members).groupValue = some v) : key = v := by
  rw [group] at h
  dsimp only at h
  split at h
  · cases h
  · exact Option.some.inj h

/-- No two groups have one group value. -/
theorem pairwise_groups (rows : List TabularRow) : (groups rows).Pairwise Apart := by
  have hnd := nodup_keys_groupItems (rows.mapIdx fun i row => (rowKey i row, row))
  rw [groups, List.pairwise_map]
  refine (List.pairwise_map.mp hnd).imp fun {a b} hne v ha hb => hne ?_
  rw [groupValue_group ha, groupValue_group hb]

theorem labelCounts_of_mem {rows : List TabularRow} {g : Group} (hg : g ∈ groups rows) :
    g.labelCounts = counter (g.rows.map fun row => row.label.1) := by
  obtain ⟨key, -, hkey⟩ := mem_groups hg
  rw [hkey, group]

theorem orderGroups_perm (shuffle : Shuffle) (gs : List Group) :
    (orderGroups shuffle gs).Perm gs :=
  (List.perm_insertionSort _ _).trans ((shuffle.perm _).trans (List.perm_insertionSort _ _))

end Grouped

section Loop

variable {F : Type} [FloatLike F] (goals : Goals F)

/-- The split that the greedy loop chooses for each group, in the loop's order. -/
def choices : List Group → Placement → List (Group × DataSplit)
  | [], _ => []
  | g :: gs, placement =>
    (g, bestSplit goals placement g) :: choices gs (place goals placement g)

theorem map_fst_choices (gs : List Group) (placement : Placement) :
    (choices goals gs placement).map Prod.fst = gs := by
  induction gs generalizing placement with
  | nil => rfl
  | cons g gs ih => rw [choices, List.map_cons, ih]

theorem foldl_place (gs : List Group) (placement : Placement) :
    gs.foldl (place goals) placement =
      (choices goals gs placement).foldl (fun p choice => p.put choice.1 choice.2) placement := by
  induction gs generalizing placement with
  | nil => rfl
  | cons g gs ih => exact ih (place goals placement g)

variable (chosen : List (Group × DataSplit)) (placement : Placement)

/-- What the loop has recorded once it made the given choices. -/
def record : Placement := chosen.foldl (fun p choice => p.put choice.1 choice.2) placement

theorem assignmentsByGroup_record :
    (record chosen placement).assignmentsByGroup =
      update placement.assignmentsByGroup (chosen.map fun c => (c.1.groupValue, c.2)) := by
  induction chosen generalizing placement with
  | nil => rfl
  | cons c chosen ih => exact ih (placement.put c.1 c.2)

theorem splitCounts_record (s : DataSplit) :
    (record chosen placement).splitCounts s =
      placement.splitCounts s +
        (chosen.map fun c => if c.2 = s then c.1.rows.length else 0).sum := by
  induction chosen generalizing placement with
  | nil => rfl
  | cons c chosen ih =>
    rw [record, List.foldl_cons, ← record, ih, Placement.put, List.map_cons, List.sum_cons,
      ← Nat.add_assoc, Group.size]
    simp only [eq_comm]

theorem splitLabelCounts_record (hnd : ∀ c ∈ chosen, (c.1.labelCounts.map Prod.fst).Nodup)
    (s : DataSplit) (label : Text) :
    countOf label ((record chosen placement).splitLabelCounts s) =
      countOf label (placement.splitLabelCounts s) +
        (chosen.map fun c => if c.2 = s then countOf label c.1.labelCounts else 0).sum := by
  induction chosen generalizing placement with
  | nil => rfl
  | cons c chosen ih =>
    rw [record, List.foldl_cons, ← record, ih _ fun c hc => hnd c (List.mem_cons_of_mem _ hc),
      List.map_cons, List.sum_cons, ← Nat.add_assoc, Placement.put]
    by_cases hs : s = c.2
    · simp [hs, countOf_addCounts (hnd c (by simp))]
    · simp [hs, Ne.symm hs]

end Loop

section Faithful

variable {F : Type} [FloatLike F]

def rowOf (a : SplitAssignment) : TabularRow := ⟨a.objectId, a.label, a.groupValue⟩

/-- The result has one assignment for each row, and every row sits in the split
that the loop chose for its group. -/
structure Faithful (rows : List TabularRow) (chosen : List (Group × DataSplit))
    (placement : Placement) (result : List SplitAssignment) : Prop where
  rowwise : result.map rowOf = rows
  placed : ∀ c ∈ chosen, ∀ a ∈ result, rowOf a ∈ c.1.rows → a.split = c.2
  counts : ∀ s, result.countP (fun a => a.split = s) = placement.splitCounts s
  labelCounts : ∀ s label, result.countP (fun a => a.split = s ∧ a.label.1 = label) =
    countOf label (placement.splitLabelCounts s)

variable (shuffle : Shuffle) (rows : List TabularRow) (ratios : DataSplit → F)

/-- The choices of the loop of `_assign_splits`. -/
def splitChoices : List (Group × DataSplit) :=
  choices (goals rows ratios) (orderGroups shuffle (groups rows)) .start

theorem placeAll_eq_record : placeAll shuffle rows ratios =
    record (splitChoices shuffle rows ratios) .start := by
  rw [placeAll, foldl_place, record, splitChoices]

theorem map_fst_splitChoices :
    ((splitChoices shuffle rows ratios).map Prod.fst).Perm (groups rows) := by
  rw [splitChoices, map_fst_choices]
  exact orderGroups_perm shuffle (groups rows)

variable {shuffle rows ratios}

theorem mem_groups_of_mem {c : Group × DataSplit} (h : c ∈ splitChoices shuffle rows ratios) :
    c.1 ∈ groups rows :=
  (map_fst_splitChoices shuffle rows ratios).mem_iff.mp (List.mem_map_of_mem h)

variable (shuffle ratios) in
/-- The groups that the loop placed hold every row once. -/
theorem flatMap_splitChoices :
    ((splitChoices shuffle rows ratios).flatMap fun c => c.1.rows).Perm rows := by
  have h := (map_fst_splitChoices shuffle rows ratios).flatMap_right Group.rows
  rw [List.flatMap_map] at h
  exact h.trans (groups_perm rows)

theorem pairwise_splitChoices :
    (splitChoices shuffle rows ratios).Pairwise fun c d => Apart c.1 d.1 := by
  refine List.pairwise_map.mp ?_
  exact (map_fst_splitChoices shuffle rows ratios).symm.pairwise (pairwise_groups rows)
    (fun {_ _} => apart_symm)

/-- The loop placed all groups without a group value in one split. -/
def UngroupedTogether (chosen : List (Group × DataSplit)) : Prop :=
  ∀ c ∈ chosen, ∀ d ∈ chosen, c.1.groupValue = none → d.1.groupValue = none → c.2 = d.2

/-- A row is looked up where its group was placed. -/
theorem lookup_choice (htogether : UngroupedTogether (splitChoices shuffle rows ratios))
    {c : Group × DataSplit} (hc : c ∈ splitChoices shuffle rows ratios) :
    get? c.1.groupValue (placeAll shuffle rows ratios).assignmentsByGroup = some c.2 := by
  rw [placeAll_eq_record, assignmentsByGroup_record]
  refine get?_update_of_forall _ (fun w hw => ?_) (.inl (List.mem_map.mpr ⟨c, hc, rfl⟩))
  obtain ⟨d, hd, he⟩ := List.mem_map.mp hw
  obtain ⟨hgroup, rfl⟩ := Prod.mk.injEq _ _ _ _ ▸ he
  cases hv : c.1.groupValue with
  | none => exact htogether d hd c hc (hgroup.trans hv) hv
  | some v =>
    have hsymm : Std.Symm fun c d : Group × DataSplit => Apart c.1 d.1 := ⟨fun _ _ => apart_symm⟩
    by_contra hne
    exact pairwise_splitChoices.forall hd hc (fun he => hne (congrArg Prod.snd he)) v
      (hgroup.trans hv) hv

variable (shuffle ratios) in
theorem exists_choice {row : TabularRow} (h : row ∈ rows) :
    ∃ c ∈ splitChoices shuffle rows ratios, row ∈ c.1.rows := by
  obtain ⟨c, hc, hrow⟩ := List.mem_flatMap.mp
    ((flatMap_splitChoices shuffle ratios).mem_iff.mpr h)
  exact ⟨c, hc, hrow⟩

/-- The split under which a row is looked up. -/
def splitOf (byGroup : Dict (Option Text) DataSplit) (row : TabularRow) : DataSplit :=
  (get? row.groupValue byGroup).getD .unknown

def assigned (byGroup : Dict (Option Text) DataSplit) (row : TabularRow) : SplitAssignment :=
  ⟨row.objectId, splitOf byGroup row, row.label, row.groupValue⟩

theorem assign_eq_ok {byGroup : Dict (Option Text) DataSplit} {row : TabularRow}
    {a : SplitAssignment} : assign byGroup row = .ok a ↔
      (get? row.groupValue byGroup).isSome ∧ a = assigned byGroup row := by
  rw [assign, assigned, splitOf]
  cases get? row.groupValue byGroup with
  | none => simp
  | some split => simp [eq_comm]

theorem assignSplits_eq_ok {result : List SplitAssignment} :
    assignSplits shuffle rows ratios = .ok result ↔
      (∀ row ∈ rows,
        (get? row.groupValue (placeAll shuffle rows ratios).assignmentsByGroup).isSome) ∧
        result = rows.map (assigned (placeAll shuffle rows ratios).assignmentsByGroup) :=
  mapM_eq_ok_iff fun _ _ => assign_eq_ok

section Together

variable (hrows : NoReservedValue rows)
  (htogether : UngroupedTogether (splitChoices shuffle rows ratios))

include hrows htogether

theorem lookup_row {c : Group × DataSplit} (hc : c ∈ splitChoices shuffle rows ratios)
    {row : TabularRow} (hrow : row ∈ c.1.rows) :
    get? row.groupValue (placeAll shuffle rows ratios).assignmentsByGroup = some c.2 := by
  rw [← groupValue_of_mem hrows (mem_groups_of_mem hc) hrow]
  exact lookup_choice htogether hc

/-- Counting rows by their split is counting the choices by theirs. -/
theorem countP_splitOf (s : DataSplit) (q : TabularRow → Bool) :
    rows.countP (fun row =>
        splitOf (placeAll shuffle rows ratios).assignmentsByGroup row = s ∧ q row) =
      ((splitChoices shuffle rows ratios).map fun c =>
        if c.2 = s then c.1.rows.countP q else 0).sum := by
  rw [← (flatMap_splitChoices shuffle ratios).countP_eq,
    List.countP_flatMap]
  refine congrArg List.sum (List.map_congr_left fun c hc => ?_)
  dsimp only [Function.comp_apply]
  have hsplit : ∀ row ∈ c.1.rows,
      splitOf (placeAll shuffle rows ratios).assignmentsByGroup row = c.2 := fun row hrow => by
    rw [splitOf, lookup_row hrows htogether hc hrow, Option.getD_some]
  by_cases hs : c.2 = s
  · rw [if_pos hs]
    exact List.countP_congr fun row hrow => by simp [hsplit row hrow, hs]
  · rw [if_neg hs, List.countP_eq_zero]
    exact fun row hrow => by simp [hsplit row hrow, hs]

theorem faithful_of_together : ∃ result, assignSplits shuffle rows ratios = .ok result ∧
    Faithful rows (splitChoices shuffle rows ratios) (placeAll shuffle rows ratios) result := by
  refine ⟨_, assignSplits_eq_ok.mpr ⟨fun row hrow => ?_, rfl⟩, ?_, ?_, fun s => ?_,
    fun s label => ?_⟩
  · obtain ⟨c, hc, hmem⟩ := exists_choice shuffle ratios hrow
    rw [lookup_row hrows htogether hc hmem]
    rfl
  · rw [List.map_map]
    exact List.map_id rows
  · intro c hc a ha hmem
    obtain ⟨row, hrow, rfl⟩ := List.mem_map.mp ha
    have hlookup := lookup_row hrows htogether hc hmem
    exact congrArg (·.getD .unknown) hlookup
  · rw [List.countP_map, placeAll_eq_record, splitCounts_record, ← placeAll_eq_record]
    refine (List.countP_congr fun row _ => ?_).trans
      ((countP_splitOf hrows htogether s fun _ => true).trans ?_)
    · simp only [Function.comp_apply, decide_eq_true_eq, and_true]
      exact Iff.rfl
    · simp [Placement.start]
  · have hlabels : ∀ c ∈ splitChoices shuffle rows ratios, c.1.labelCounts =
        counter (c.1.rows.map fun row => row.label.1) := fun c hc =>
      labelCounts_of_mem (mem_groups_of_mem hc)
    have hsum : ((splitChoices shuffle rows ratios).map fun c =>
          if c.2 = s then countOf label c.1.labelCounts else 0) =
        (splitChoices shuffle rows ratios).map fun c =>
          if c.2 = s then c.1.rows.countP fun row => row.label.1 = label else 0 :=
      List.map_congr_left fun c hc => by
        rw [hlabels c hc, countOf_counter_map]
    rw [List.countP_map, placeAll_eq_record, splitLabelCounts_record _ _ fun c hc => by
      rw [hlabels c hc]
      exact nodup_keys_counter _, ← placeAll_eq_record, hsum]
    refine (List.countP_congr fun row _ => ?_).trans
      ((countP_splitOf hrows htogether s fun row => row.label.1 = label).trans ?_)
    · simp only [Function.comp_apply, decide_eq_true_eq]
      exact Iff.rfl
    · simp [Placement.start]

end Together

/-- A lookup that succeeds met no reserved group value. -/
theorem noReserved_of_ok {result : List SplitAssignment}
    (h : assignSplits shuffle rows ratios = .ok result) : NoReservedValue rows := by
  intro row hrow v hv
  have hsome := (assignSplits_eq_ok.mp h).1 row hrow
  obtain ⟨split, hsplit⟩ := Option.isSome_iff_exists.mp hsome
  have hkey : row.groupValue ∈
      (placeAll shuffle rows ratios).assignmentsByGroup.map Prod.fst :=
    List.mem_map.mpr ⟨_, mem_of_get? hsplit, rfl⟩
  rw [placeAll_eq_record, assignmentsByGroup_record, mem_keys_update] at hkey
  obtain hkey | hkey := hkey
  · cases hkey
  · obtain ⟨item, hitem, hgroup⟩ := List.mem_map.mp hkey
    obtain ⟨c, hc, rfl⟩ := List.mem_map.mp hitem
    exact groupValue_free (mem_groups_of_mem hc) (hgroup.trans hv)

/-- Where every row sits in its group's split, the rows without a group value sit
in one. -/
theorem together_of_faithful {result : List SplitAssignment}
    (h : assignSplits shuffle rows ratios = .ok result)
    (hf : Faithful rows (splitChoices shuffle rows ratios) (placeAll shuffle rows ratios) result) :
    UngroupedTogether (splitChoices shuffle rows ratios) := by
  have hrows := noReserved_of_ok h
  have hsplit : ∀ c ∈ splitChoices shuffle rows ratios, c.1.groupValue = none →
      c.2 = (get? none (placeAll shuffle rows ratios).assignmentsByGroup).getD .unknown := by
    intro c hc hnone
    have hgroup := mem_groups_of_mem hc
    obtain ⟨hne, key, -, hmem⟩ := rows_of_mem_groups hgroup
    obtain ⟨row, hrow⟩ := List.exists_mem_of_ne_nil _ hne
    have hin : assigned (placeAll shuffle rows ratios).assignmentsByGroup row ∈ result := by
      rw [(assignSplits_eq_ok.mp h).2]
      exact List.mem_map_of_mem (hmem row hrow).1
    rw [← hf.placed c hc _ hin hrow, ← hnone, groupValue_of_mem hrows hgroup hrow]
    rfl
  intro c hc d hd hcn hdn
  rw [hsplit c hc hcn, hsplit d hd hdn]

/-- One row without a group value has nobody to be taken for. -/
theorem together_of_countP (hrows : NoReservedValue rows)
    (hone : rows.countP (fun row => row.groupValue = none) ≤ 1) :
    UngroupedTogether (splitChoices shuffle rows ratios) := by
  have hmember : ∀ c ∈ splitChoices shuffle rows ratios, c.1.groupValue = none →
      ∃ row ∈ c.1.rows, decide (row.groupValue = none) = true := by
    intro c hc hnone
    have hgroup := mem_groups_of_mem hc
    obtain ⟨row, hrow⟩ := List.exists_mem_of_ne_nil _ (rows_of_mem_groups hgroup).1
    exact ⟨row, hrow, decide_eq_true (groupValue_of_mem hrows hgroup hrow ▸ hnone)⟩
  rw [← (flatMap_splitChoices shuffle ratios).countP_eq] at hone
  intro c hc d hd hcn hdn
  by_contra hne
  obtain ⟨a, ha, hpa⟩ := hmember c hc hcn
  obtain ⟨b, hb, hpb⟩ := hmember d hd hdn
  have htwo := one_lt_countP_flatMap (f := fun c : Group × DataSplit => c.1.rows)
    (p := fun row => decide (row.groupValue = none)) hc hd (fun he => hne (congrArg Prod.snd he))
    ha hpa hb hpb
  omega

/-- `_assign_splits` returns, and every row sits where the loop placed it. -/
def Placed (shuffle : Shuffle) (rows : List TabularRow) (ratios : DataSplit → F) : Prop :=
  ∃ result, assignSplits shuffle rows ratios = .ok result ∧
    Faithful rows (splitChoices shuffle rows ratios) (placeAll shuffle rows ratios) result

theorem placed_iff : Placed shuffle rows ratios ↔
    NoReservedValue rows ∧ UngroupedTogether (splitChoices shuffle rows ratios) :=
  ⟨fun ⟨_, hok, hf⟩ => ⟨noReserved_of_ok hok, together_of_faithful hok hf⟩,
    fun ⟨hrows, htogether⟩ => faithful_of_together hrows htogether⟩

/-- The placement is kept where no group value is reserved and at most one row has
none; a reserved value always breaks it, and several rows without a value do
unless the loop placed them together. -/
theorem assignSplits_placed (shuffle : Shuffle) (rows : List TabularRow) (ratios : DataSplit → F) :
    (NoReservedValue rows ∧ rows.countP (fun row => row.groupValue = none) ≤ 1 →
      Placed shuffle rows ratios) ∧
    (Placed shuffle rows ratios ↔
      NoReservedValue rows ∧ UngroupedTogether (splitChoices shuffle rows ratios)) :=
  ⟨fun ⟨hrows, hone⟩ => placed_iff.mpr ⟨hrows, together_of_countP hrows hone⟩, placed_iff⟩

end Faithful

section Ungrouped

def keepOrder : Shuffle := ⟨id, List.Perm.refl⟩

def ungroupedRow (objectId : NonEmptyStr) : TabularRow := ⟨objectId, ⟨"0".toList, by decide⟩, none⟩

def ungroupedRows : List TabularRow :=
  [ungroupedRow (literal "a"), ungroupedRow (literal "b")]

def halfAndQuarters : DataSplit → ℚ
  | .train => 1 / 2
  | _ => 1 / 4

/-- Two rows without a group value: the loop puts one of them into validation, and
the result puts both into test. -/
theorem ungrouped_misplaced :
    assignSplits keepOrder ungroupedRows halfAndQuarters =
        .ok (ungroupedRows.map fun row => ⟨row.objectId, .test, row.label, row.groupValue⟩) ∧
      (placeAll keepOrder ungroupedRows halfAndQuarters).splitCounts .validation = 1 ∧
      ¬ Placed keepOrder ungroupedRows halfAndQuarters := by
  have hresult : assignSplits keepOrder ungroupedRows halfAndQuarters =
      .ok (ungroupedRows.map fun row => ⟨row.objectId, .test, row.label, row.groupValue⟩) := by
    decide +kernel
  have hvalidation :
      (placeAll keepOrder ungroupedRows halfAndQuarters).splitCounts .validation = 1 := by
    decide +kernel
  refine ⟨hresult, hvalidation, fun ⟨result, hok, hf⟩ => ?_⟩
  obtain rfl := Except.ok.inj (hresult.symm.trans hok)
  have hcount := hf.counts .validation
  rw [hvalidation] at hcount
  exact absurd hcount (by decide)

end Ungrouped

end DataForge.Plugins.Tabular.SplitFidelity
