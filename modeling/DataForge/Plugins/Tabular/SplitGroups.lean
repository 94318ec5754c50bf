import DataForge.Foundation.Features
import DataForge.Plugins.Tabular.SplitFidelity

namespace DataForge.Plugins.Tabular.SplitGroups

open DataForge.Foundation.Strings
open DataForge.Foundation.Dictionary
open DataForge.Foundation.Grouping
open DataForge.Foundation.Features
open DataForge.Domain.Common
open DataForge.Plugins.Tabular.Splits
open DataForge.Plugins.Tabular.SplitFidelity

section Positions

variable {rows : List TabularRow}

def keyedPositions (rows : List TabularRow) : List (Text × Nat) :=
  rows.mapIdx fun i row => (rowKey i row, i)

/-- The positions of the rows that each group takes. -/
def groupPositions (rows : List TabularRow) : List (List Nat) :=
  (groupItems (keyedPositions rows)).map Prod.snd

theorem map_snd_keyedPositions : (keyedPositions rows).map Prod.snd = List.range rows.length := by
  exact List.ext_getElem (by simp [keyedPositions]) (by simp [keyedPositions])

/-- The groups have the rows at their positions. -/
theorem rows_of_groups : (groups rows).map (fun g => g.rows.map some) =
    (groupPositions rows).map fun positions => positions.map fun i => rows[i]? := by
  have hitems :
      (rows.mapIdx fun i row => (rowKey i row, row)).map (fun item => (item.1, some item.2)) =
      (keyedPositions rows).map fun item => (item.1, rows[item.2]?) := by
    exact List.ext_getElem (by simp [keyedPositions]) (by simp [keyedPositions])
  have hgroups := congrArg (fun items => (groupItems items).map Prod.snd) hitems
  have hvalues : ∀ {α : Type} (f : α → Option TabularRow) (items : List (Text × α)),
      groupItems (items.map fun item => (item.1, f item.2)) =
        (groupItems items).map fun entry => (entry.1, entry.2.map f) :=
    fun f _ => groupItems_map id f fun _ _ _ _ heq => heq
  rw [hvalues, hvalues, List.map_map, List.map_map] at hgroups
  rw [groups, groupPositions, List.map_map, List.map_map]
  exact hgroups

theorem together_iff {i j : Nat} (hi : i < rows.length) (hj : j < rows.length) :
    (∃ positions ∈ groupPositions rows, i ∈ positions ∧ j ∈ positions) ↔
      rowKey i rows[i] = rowKey j rows[j] := by
  have hmem : ∀ k n, (k, n) ∈ keyedPositions rows ↔ ∃ h : n < rows.length, k =
      rowKey n rows[n] := by
    intro k n
    rw [keyedPositions, List.mem_mapIdx]
    constructor
    · rintro ⟨m, hm, heq⟩
      obtain ⟨rfl, rfl⟩ := Prod.mk.injEq _ _ _ _ ▸ heq
      exact ⟨hm, rfl⟩
    · rintro ⟨hn, rfl⟩
      exact ⟨n, hn, rfl⟩
  constructor
  · rintro ⟨positions, hpositions, hin, hjn⟩
    obtain ⟨⟨key, _⟩, hentry, rfl⟩ := List.mem_map.mp hpositions
    have hkeys := (mem_groupItems hentry).2
    obtain ⟨_, hki⟩ := (hmem key i).mp (hkeys i hin)
    obtain ⟨_, hkj⟩ := (hmem key j).mp (hkeys j hjn)
    exact hki.symm.trans hkj
  · intro heq
    have hki := (hmem _ i).mpr ⟨hi, rfl⟩
    have hkj := (hmem (rowKey i rows[i]) j).mpr ⟨hj, heq⟩
    have hentry := mem_groupItems_iff.mpr ⟨List.mem_map_of_mem hki, rfl⟩
    refine ⟨_, List.mem_map_of_mem hentry, ?_, ?_⟩
    · exact List.mem_map.mpr ⟨_, List.mem_filter.mpr ⟨hki, decide_eq_true rfl⟩, rfl⟩
    · exact List.mem_map.mpr ⟨_, List.mem_filter.mpr ⟨hkj, decide_eq_true rfl⟩, rfl⟩

end Positions

section Results

variable {rows : List TabularRow}

/-- The groups partition the positions of the rows by the values that the rows carry. -/
structure Faithful (rows : List TabularRow) : Prop where
  members : (groups rows).map (fun g => g.rows.map some) =
    (groupPositions rows).map fun positions => positions.map fun i => rows[i]?
  partition : (groupPositions rows).flatten.Perm (List.range rows.length)
  together : ∀ i j (hi : i < rows.length) (hj : j < rows.length),
    (∃ positions ∈ groupPositions rows, i ∈ positions ∧ j ∈ positions) ↔
      i = j ∨ ∃ v, rows[i].groupValue = some v ∧ rows[j].groupValue = some v
  value : ∀ g ∈ groups rows, ∀ row ∈ g.rows, g.groupValue = row.groupValue
  lookup : ∀ row ∈ rows, ∃ g ∈ groups rows, g.groupValue = row.groupValue

theorem exists_group {row : TabularRow} (h : row ∈ rows) : ∃ g ∈ groups rows, row ∈ g.rows :=
  List.mem_flatMap.mp ((groups_perm rows).mem_iff.mpr h)

theorem rowKey_eq_iff (hrows : NoReservedValue rows) {i j : Nat} (hi : i < rows.length)
    (hj : j < rows.length) :
    rowKey i rows[i] = rowKey j rows[j] ↔
      i = j ∨ ∃ v, rows[i].groupValue = some v ∧ rows[j].groupValue = some v := by
  have hfree : ∀ (n : Nat) (hn : n < rows.length) v, rows[n].groupValue = some v → ∀ m, v ≠
      rowPrefix ++ zeroPadded 6 m :=
    fun n hn v hv m heq => hrows _ (List.getElem_mem hn) v hv (heq ▸ List.prefix_append _ _)
  rw [rowKey, rowKey]
  cases hvi : rows[i].groupValue with
  | none =>
    cases hvj : rows[j].groupValue with
    | none =>
      rw [Option.getD_none, Option.getD_none, List.append_cancel_left_eq,
        (zeroPadded_injective 6).eq_iff]
      simp
    | some w =>
      rw [Option.getD_none, Option.getD_some]
      refine iff_of_false (fun heq => hfree j hj w hvj i heq.symm) ?_
      rintro (rfl | ⟨v, hv, -⟩)
      · rw [hvi] at hvj
        cases hvj
      · cases hv
  | some v =>
    cases hvj : rows[j].groupValue with
    | none =>
      rw [Option.getD_none, Option.getD_some]
      refine iff_of_false (hfree i hi v hvi j) ?_
      rintro (rfl | ⟨w, -, hw⟩)
      · rw [hvj] at hvi
        cases hvi
      · cases hw
    | some w =>
      rw [Option.getD_some, Option.getD_some]
      constructor
      · rintro rfl
        exact .inr ⟨v, rfl, rfl⟩
      · rintro (rfl | ⟨u, hu, hu'⟩)
        · exact Option.some.inj (hvi.symm.trans hvj)
        · exact (Option.some.inj hu).trans (Option.some.inj hu').symm

/-- The groups are a faithful partition exactly where no group value looks like the key of a row without
one. -/
theorem groups_faithful_iff (rows : List TabularRow) : Faithful rows ↔ NoReservedValue rows := by
  constructor
  · intro h row hrow v hv hprefix
    obtain ⟨g, hg, hmem⟩ := exists_group hrow
    obtain ⟨-, key, hkey, hkeys⟩ := rows_of_mem_groups hg
    obtain ⟨-, i, rfl⟩ := hkeys row hmem
    have hvalue := h.value g hg row hmem
    rw [hkey, group, rowKey, hv] at hvalue
    simp [List.isPrefixOf_iff_prefix.mpr hprefix] at hvalue
  · intro hrows
    have hvalue : ∀ g ∈ groups rows, ∀ row ∈ g.rows, g.groupValue = row.groupValue :=
      fun g hg row hrow => groupValue_of_mem hrows hg hrow
    refine ⟨rows_of_groups, ?_, fun i j hi hj => ?_, hvalue, fun row hrow => ?_⟩
    · have hperm := flatMap_groupItems (keyedPositions rows)
      rw [map_snd_keyedPositions] at hperm
      rwa [groupPositions, ← List.flatMap_def]
    · rw [together_iff hi hj, rowKey_eq_iff hrows hi hj]
    · obtain ⟨g, hg, hmem⟩ := exists_group hrow
      exact ⟨g, hg, hvalue g hg row hmem⟩

def reservedRow : TabularRow := ⟨literal "a", literal "0", some "__row_000001".toList⟩

def plainRow : TabularRow := ⟨literal "b", literal "0", none⟩

/-- A row with the key of the next row as its value: both are in one group, which has no value. -/
theorem reserved_not_faithful : ¬ Faithful [reservedRow, plainRow] := by
  rw [groups_faithful_iff]
  intro h
  exact h reservedRow List.mem_cons_self _ rfl (by decide)

end Results

end DataForge.Plugins.Tabular.SplitGroups
