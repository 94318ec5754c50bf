import DataForge.Plugins.Tabular.Duplicates

namespace DataForge.Plugins.Tabular.DuplicateGroups

open DataForge.Foundation.Strings
open DataForge.Foundation.Dictionary
open DataForge.Foundation.Canonical
open DataForge.Foundation.Grouping
open DataForge.Foundation.Tables
open DataForge.Domain.Common
open DataForge.Plugins.Tabular.Sources
open DataForge.Plugins.Tabular.Duplicates

variable {rows : List Row} {idColumn : NonEmptyStr} {columns : List Text}

section Members

/-- The members of the group with a signature, in the order of the rows. -/
def membersOf (rows : List Row) (idColumn : NonEmptyStr) (columns : List Text) (key : Text) :
    List Member :=
  (rows.zipIdx.filter fun item => rowSignature columns item.1 = key).map (memberOf idColumn)

theorem mem_membersOf {key : Text} {member : Member} :
    member ∈ membersOf rows idColumn columns key ↔
      ∃ row, rows[member.1]? = some row ∧ rowSignature columns row = key ∧
        member = memberOf idColumn (row, member.1) := by
  simp only [membersOf, List.mem_map, List.mem_filter, decide_eq_true_eq]
  constructor
  · rintro ⟨⟨row, i⟩, ⟨hitem, hkey⟩, rfl⟩
    exact ⟨row, List.mk_mem_zipIdx_iff_getElem?.mp hitem, hkey, rfl⟩
  · rintro ⟨row, hrow, hkey, hmember⟩
    exact ⟨(row, member.1), ⟨List.mk_mem_zipIdx_iff_getElem?.mpr hrow, hkey⟩, hmember.symm⟩

theorem nodup_membersOf (key : Text) :
    ((membersOf rows idColumn columns key).map Prod.fst).Nodup := by
  have hsub :
      ((rows.zipIdx.filter fun item => rowSignature columns item.1 = key).map Prod.snd).Sublist
      (rows.zipIdx.map Prod.snd) := List.filter_sublist.map _
  rw [membersOf, List.map_map]
  rw [List.zipIdx_map_snd] at hsub
  exact hsub.nodup List.nodup_range'

/-- A group has two members exactly when two positions have its signature. -/
theorem two_le_length_membersOf {key : Text} :
    2 ≤ (membersOf rows idColumn columns key).length ↔
      ∃ (i j : Nat) (row row' : Row), i ≠ j ∧ rows[i]? = some row ∧ rows[j]? = some row' ∧
        rowSignature columns row = key ∧ rowSignature columns row' = key := by
  constructor
  · intro htwo
    have hnodup : ((membersOf rows idColumn columns key).map Prod.fst).Nodup := nodup_membersOf key
    have hmem : ∀ member ∈ membersOf rows idColumn columns key, ∃ row, rows[member.1]? = some row ∧
        rowSignature columns row = key := fun member hmember =>
      let ⟨row, hrow, hkey, _⟩ := mem_membersOf.mp hmember
      ⟨row, hrow, hkey⟩
    match h : membersOf rows idColumn columns key with
    | [] => simp [h] at htwo
    | [_] => simp [h] at htwo
    | a :: b :: rest =>
      rw [h] at hnodup hmem
      obtain ⟨row, hrow, hkey⟩ := hmem a (by simp)
      obtain ⟨row', hrow', hkey'⟩ := hmem b (by simp)
      refine ⟨a.1, b.1, row, row', ?_, hrow, hrow', hkey, hkey'⟩
      rintro hab
      simp [hab] at hnodup
  · rintro ⟨i, j, row, row', hne, hrow, hrow', hkey, hkey'⟩
    have hi : memberOf idColumn (row, i) ∈ membersOf rows idColumn columns key :=
      mem_membersOf.mpr ⟨row, hrow, hkey, rfl⟩
    have hj : memberOf idColumn (row', j) ∈ membersOf rows idColumn columns key :=
      mem_membersOf.mpr ⟨row', hrow', hkey', rfl⟩
    by_contra hlt
    match h : membersOf rows idColumn columns key with
    | [] => simp [h] at hi
    | [member] =>
      rw [h, List.mem_singleton] at hi hj
      exact hne (congrArg Prod.fst (hi.trans hj.symm))
    | _ :: _ :: _ => simp [h] at hlt

theorem mem_duplicateGroups {group : Text × List Member} :
    group ∈ duplicateGroups rows idColumn columns ↔
      group.2 = membersOf rows idColumn columns group.1 ∧ 2 ≤ group.2.length := by
  have hget := get?_groupItems group.1 (rows.zipIdx.map fun item =>
    (rowSignature columns item.1, memberOf idColumn item))
  have hmembers :
      ((rows.zipIdx.map fun item => (rowSignature columns item.1, memberOf idColumn item)).filter
      fun item => item.1 = group.1).map Prod.snd = membersOf rows idColumn columns group.1 := by
    rw [membersOf, List.filter_map, List.map_map]
    rfl
  rw [hmembers] at hget
  rw [duplicateGroups, List.mem_filter, (sortedItems_perm _).mem_iff, decide_eq_true_eq,
    groupBySignature]
  refine and_congr_left fun htwo => ?_
  constructor
  · intro hgroup
    rw [get?_of_mem (nodup_keys_groupItems _) hgroup] at hget
    split at hget
    · exact Option.some.inj hget
    · cases hget
  · intro hgroup
    rw [hgroup] at htwo
    obtain ⟨i, -, row, -, -, hrow, -, hkey, -⟩ := two_le_length_membersOf.mp htwo
    have hitem : (row, i) ∈ rows.zipIdx := List.mk_mem_zipIdx_iff_getElem?.mpr hrow
    rw [if_pos, ← hgroup] at hget
    · exact mem_of_get? hget
    · rw [List.map_map]
      exact List.mem_map.mpr ⟨(row, i), hitem, hkey⟩

end Members

section Canonical

instance : Std.Total memberLe where
  total a b := by
    rcases lt_trichotomy a.2.1 b.2.1 with h | h | h
    · exact .inl (.inl h)
    · rcases le_total a.1 b.1 with hi | hi
      · exact .inl (.inr ⟨h, hi⟩)
      · exact .inr (.inr ⟨h.symm, hi⟩)
    · exact .inr (.inl h)

instance : IsTrans Member memberLe where
  trans a b c hab hbc := by
    rcases hab with hab | ⟨hab, hi⟩ <;> rcases hbc with hbc | ⟨hbc, hj⟩
    · exact .inl (lt_trans hab hbc)
    · exact .inl (hbc ▸ hab)
    · exact .inl (hab ▸ hbc)
    · exact .inr ⟨hab.trans hbc, hi.trans hj⟩

theorem canonicalMember_spec {members : List Member} (h : members ≠ []) :
    ∃ canonical ∈ members, canonicalMember members = some canonical ∧
      ∀ member ∈ members, memberLe canonical member := by
  have hperm := List.perm_insertionSort memberLe members
  have hsorted := List.pairwise_insertionSort memberLe members
  rw [canonicalMember]
  cases hs : members.insertionSort memberLe with
  | nil => exact absurd (hs ▸ hperm).nil_eq.symm h
  | cons canonical rest =>
    rw [hs] at hperm hsorted
    refine ⟨canonical, hperm.mem_iff.mp List.mem_cons_self, rfl, fun member hmember => ?_⟩
    rcases List.mem_cons.mp (hperm.mem_iff.mpr hmember) with rfl | hrest
    · exact .inr ⟨rfl, le_rfl⟩
    · exact List.rel_of_pairwise_cons hsorted hrest

end Canonical

section Remove

/-- Rows with ids of their own. -/
structure Identified (idColumn : NonEmptyStr) (rows : List Row) : Prop where
  nodup : (rows.map (cell idColumn.1)).Nodup
  nonempty : ∀ row ∈ rows, cell idColumn.1 row ≠ []

theorem Identified.position (h : Identified idColumn rows) {i j : Nat} {row row' : Row}
    (hrow : rows[i]? = some row) (hrow' : rows[j]? = some row')
    (hid : cell idColumn.1 row = cell idColumn.1 row') : i = j := by
  have hi : (rows.map (cell idColumn.1))[i]? = some (cell idColumn.1 row) := by
    rw [List.getElem?_map, hrow, Option.map_some]
  have hj : (rows.map (cell idColumn.1))[j]? = some (cell idColumn.1 row') := by
    rw [List.getElem?_map, hrow', Option.map_some]
  obtain ⟨hlt, -⟩ := List.getElem?_eq_some_iff.mp hi
  exact (List.getElem?_inj hlt h.nodup).mp (by rw [hi, hj, hid])

theorem Identified.memberOf (h : Identified idColumn rows) {i : Nat} {row : Row}
    (hrow : rows[i]? = some row) :
    (memberOf idColumn (row, i)).1 = i ∧ (memberOf idColumn (row, i)).2.1 =
      cell idColumn.1 row := by
  have hne := h.nonempty row (List.mem_of_getElem? hrow)
  rw [Duplicates.memberOf]
  simp [hne]

/-- No row of the same signature has a smaller id. -/
def Least (idColumn : NonEmptyStr) (columns : List Text) (rows : List Row) (row : Row) : Prop :=
  ∀ row' ∈ rows, rowSignature columns row' = rowSignature columns row →
    cell idColumn.1 row ≤ cell idColumn.1 row'

theorem mem_flatMap_others {differs : Member → Member → Bool} {member : Member} :
    (member ∈ (duplicateGroups rows idColumn columns).flatMap fun group => others group differs) ↔
      ∃ row, rows[member.1]? = some row ∧ member = memberOf idColumn (row, member.1) ∧
        2 ≤ (membersOf rows idColumn columns (rowSignature columns row)).length ∧
        ∃ canonical, canonicalMember (membersOf rows idColumn columns (rowSignature columns row)) =
          some canonical ∧ differs member canonical = true := by
  simp only [others, List.mem_flatMap, List.mem_filter, Option.any_eq_true, mem_duplicateGroups]
  constructor
  · rintro ⟨⟨key, members⟩, ⟨hgroup, htwo⟩, hmember, canonical, hcanonical, hdiffers⟩
    dsimp only at hgroup htwo hmember hcanonical
    rw [hgroup] at htwo hmember hcanonical
    obtain ⟨row, hrow, rfl, hself⟩ := mem_membersOf.mp hmember
    exact ⟨row, hrow, hself, htwo, canonical, hcanonical, hdiffers⟩
  · rintro ⟨row, hrow, hself, htwo, canonical, hcanonical, hdiffers⟩
    exact ⟨(rowSignature columns row, _), ⟨rfl, htwo⟩, mem_membersOf.mpr ⟨row, hrow, rfl, hself⟩,
      canonical, hcanonical, hdiffers⟩

theorem mem_dropIndices {i : Nat} :
    i ∈ dropIndices (duplicateGroups rows idColumn columns) ↔
      ∃ row, rows[i]? = some row ∧ 2 ≤
        (membersOf rows idColumn columns (rowSignature columns row)).length ∧
        ∃ canonical, canonicalMember (membersOf rows idColumn columns (rowSignature columns row)) =
          some canonical ∧ canonical.1 ≠ i := by
  rw [dropIndices, ← List.map_flatMap, List.mem_map]
  simp only [mem_flatMap_others, samePosition, Bool.not_eq_true', decide_eq_false_iff_not]
  constructor
  · rintro ⟨member, ⟨row, hrow, -, htwo, canonical, hcanonical, hne⟩, rfl⟩
    exact ⟨row, hrow, htwo, canonical, hcanonical, Ne.symm hne⟩
  · rintro ⟨row, hrow, htwo, canonical, hcanonical, hne⟩
    exact ⟨memberOf idColumn (row, i),
      ⟨row, hrow, rfl, htwo, canonical, hcanonical, Ne.symm hne⟩, rfl⟩

/-- The canonical member of a row's group is the row itself exactly when no row of the
group has a smaller id. -/
theorem canonical_of_row (h : Identified idColumn rows) {i : Nat} {row : Row}
    (hrow : rows[i]? = some row) :
    ∃ canonical, canonicalMember (membersOf rows idColumn columns (rowSignature columns row)) =
        some canonical ∧
      canonical ∈ membersOf rows idColumn columns (rowSignature columns row) ∧
      (canonical.1 = i ↔ Least idColumn columns rows row) ∧
      (canonical.2 = (memberOf idColumn (row, i)).2 ↔ canonical.1 = i) := by
  have hself :
      memberOf idColumn (row, i) ∈ membersOf rows idColumn columns (rowSignature columns row) :=
    mem_membersOf.mpr ⟨row, hrow, rfl, rfl⟩
  obtain ⟨canonical, hmem, hcanonical, hleast⟩ := canonicalMember_spec (List.ne_nil_of_mem hself)
  obtain ⟨row₀, hrow₀, hkey₀, hcanonical₀⟩ := mem_membersOf.mp hmem
  have hid₀ : canonical.2.1 = cell idColumn.1 row₀ := by
    rw [hcanonical₀]
    exact (h.memberOf hrow₀).2
  refine ⟨canonical, hcanonical, hmem, ⟨fun hi row' hrow' hkey => ?_, fun hrowLeast => ?_⟩, ?_⟩
  · obtain ⟨j, hj⟩ := List.mem_iff_getElem?.mp hrow'
    have hmember : memberOf idColumn (row', j) ∈
        membersOf rows idColumn columns (rowSignature columns row) :=
      mem_membersOf.mpr ⟨row', hj, hkey, rfl⟩
    have hle := hleast _ hmember
    obtain rfl := Option.some.inj (hrow.symm.trans (hi ▸ hrow₀))
    rw [memberLe, hid₀, (h.memberOf hj).2] at hle
    exact hle.elim le_of_lt fun heq => heq.1.le
  · have hle := hleast _ hself
    rw [memberLe, hid₀, (h.memberOf hrow).2] at hle
    have hle' := hrowLeast row₀ (List.mem_of_getElem? hrow₀) hkey₀
    exact h.position hrow₀ hrow (le_antisymm (hle.elim le_of_lt fun heq => heq.1.le) hle')
  · rw [Subtype.ext_iff, hid₀, (h.memberOf hrow).2]
    constructor
    · exact h.position hrow₀ hrow
    · intro hi
      rw [Option.some.inj (hrow.symm.trans (hi ▸ hrow₀))]

theorem notMem_dropIndices (h : Identified idColumn rows) {i : Nat} {row : Row}
    (hrow : rows[i]? = some row) :
    i ∉ dropIndices (duplicateGroups rows idColumn columns) ↔ Least idColumn columns rows row := by
  obtain ⟨canonical, hcanonical, hmem, hleast, -⟩ := canonical_of_row h hrow
  rw [mem_dropIndices, ← hleast]
  constructor
  · intro hkept
    by_contra hne
    obtain ⟨row₀, hrow₀, hkey₀, -⟩ := mem_membersOf.mp hmem
    have htwo : 2 ≤ (membersOf rows idColumn columns (rowSignature columns row)).length :=
      two_le_length_membersOf.mpr ⟨canonical.1, i, row₀, row, hne, hrow₀, hrow, hkey₀, rfl⟩
    exact hkept ⟨row, hrow, htwo, canonical, hcanonical, hne⟩
  · rintro hi ⟨row', hrow', -, canonical', hcanonical', hne⟩
    obtain rfl := Option.some.inj (hrow.symm.trans hrow')
    obtain rfl := Option.some.inj (hcanonical.symm.trans hcanonical')
    exact hne hi

/-- The rows that removal keeps are the ones with the least id of their signature. -/
theorem mem_buildRemoveOutput (h : Identified idColumn rows) {row : Row} :
    row ∈ buildRemoveOutput rows (duplicateGroups rows idColumn columns) ↔
      row ∈ rows ∧ Least idColumn columns rows row := by
  simp only [buildRemoveOutput, List.mem_map, List.mem_filter, decide_eq_true_eq]
  constructor
  · rintro ⟨⟨row, i⟩, ⟨hitem, hkept⟩, rfl⟩
    have hrow := List.mk_mem_zipIdx_iff_getElem?.mp hitem
    exact ⟨List.mem_of_getElem? hrow, (notMem_dropIndices h hrow).mp hkept⟩
  · rintro ⟨hmem, hleast⟩
    obtain ⟨i, hrow⟩ := List.mem_iff_getElem?.mp hmem
    exact ⟨(row, i),
      ⟨List.mk_mem_zipIdx_iff_getElem?.mpr hrow, (notMem_dropIndices h hrow).mpr hleast⟩, rfl⟩

end Remove

section Mark

/-- The writes that the marking makes, each with its group. -/
def markWrites (groups : List (Text × List Member)) :
    List (((Text × List Member) × Nat) × Member) :=
  groups.zipIdx.flatMap fun item => item.1.2.map fun member => (item, member)

def keptMark (members : List Member) (member : Member) : Text :=
  if (canonicalMember members).any (sameId member) then "1".toList else "0".toList

def markWrite (write : ((Text × List Member) × Nat) × Member) : Row → Row :=
  setMarkers "1".toList (groupIdOf write.1.2) (keptMark write.1.1.2 write.2)

theorem buildMarkOutput_eq_foldl (groups : List (Text × List Member)) :
    buildMarkOutput rows groups = (markWrites groups).foldl
      (fun rows write => rows.modify write.2.1 (markWrite write))
        (rows.map (setMarkers "0".toList [] [])) := by
  rw [buildMarkOutput, markWrites, List.foldl_flatMap]
  simp only [List.foldl_map]
  rfl

theorem length_buildMarkOutput (groups : List (Text × List Member)) :
    (buildMarkOutput rows groups).length = rows.length := by
  rw [buildMarkOutput_eq_foldl, length_foldl_modify, List.length_map]

theorem getElem?_buildMarkOutput (groups : List (Text × List Member)) (i : Nat) :
    (buildMarkOutput rows groups)[i]? = (rows[i]?).map fun row =>
      ((markWrites groups).filter fun write => write.2.1 = i).foldl
        (fun row write => markWrite write row)
        (setMarkers "0".toList [] [] row) := by
  rw [buildMarkOutput_eq_foldl, getElem?_foldl_modify, List.getElem?_map, Option.map_map]
  rfl

theorem cell_setMarkers_ne {column candidate groupId kept : Text} {row : Row}
    (h : column ∉ markerColumns) :
    cell column (setMarkers candidate groupId kept row) = cell column row := by
  simp only [markerColumns, List.mem_cons, List.not_mem_nil, or_false, not_or] at h
  rw [setMarkers, cell_set_ne (Ne.symm h.2.2), cell_set_ne (Ne.symm h.2.1),
    cell_set_ne (Ne.symm h.1)]

theorem cell_kept_setMarkers {candidate groupId kept : Text} {row : Row} :
    cell isDuplicateKeptColumn (setMarkers candidate groupId kept row) = kept := cell_set_self kept

/-- Every write to a row carries the same mark, that of the row in its own group. -/
theorem kept_of_write {i : Nat} {row : Row} (hrow : rows[i]? = some row)
    {write : ((Text × List Member) × Nat) × Member}
    (hwrite : write ∈ markWrites (duplicateGroups rows idColumn columns)) (hi : write.2.1 = i) :
    write.1.1.2 = membersOf rows idColumn columns (rowSignature columns row) ∧
      write.2 = memberOf idColumn (row, i) := by
  obtain ⟨item, hitem, hmember⟩ := List.mem_flatMap.mp hwrite
  obtain ⟨member, hmem, rfl⟩ := List.mem_map.mp hmember
  have hgroup := mem_duplicateGroups.mp (List.fst_mem_of_mem_zipIdx hitem)
  rw [hgroup.1] at hmem
  obtain ⟨row', hrow', hkey, hmember'⟩ := mem_membersOf.mp hmem
  dsimp only at hi hmember' ⊢
  subst hi
  obtain rfl := Option.some.inj (hrow.symm.trans hrow')
  exact ⟨by rw [hgroup.1, hkey], hmember'⟩

theorem cell_foldl_markWrite {column : Text} (h : column ∉ markerColumns)
    (writes : List (((Text × List Member) × Nat) × Member)) (row : Row) :
    cell column (writes.foldl (fun row write => markWrite write row) row) = cell column row := by
  induction writes generalizing row with
  | nil => rfl
  | cons write writes ih => rw [List.foldl_cons, ih, markWrite, cell_setMarkers_ne h]

theorem kept_foldl_markWrite {writes : List (((Text × List Member) × Nat) × Member)} {kept : Text}
    (hne : writes ≠ []) (h : ∀ write ∈ writes, keptMark write.1.1.2 write.2 = kept) (row : Row) :
    cell isDuplicateKeptColumn (writes.foldl (fun row write => markWrite write row) row) =
      kept := by
  obtain ⟨before, last, rfl⟩ := (List.eq_nil_or_concat writes).resolve_left hne
  rw [List.concat_eq_append, List.foldl_append, List.foldl_cons, List.foldl_nil, markWrite,
    cell_kept_setMarkers]
  exact h last (by simp)

theorem cell_candidate_setMarkers {candidate groupId kept : Text} {row : Row} :
    cell isDuplicateCandidateColumn (setMarkers candidate groupId kept row) = candidate := by
  rw [setMarkers, cell_set_ne (by decide), cell_set_ne (by decide), cell_set_self]

theorem candidate_foldl_markWrite {writes : List (((Text × List Member) × Nat) × Member)}
    (hne : writes ≠ []) (row : Row) :
    cell isDuplicateCandidateColumn (writes.foldl (fun row write => markWrite write row) row) =
      "1".toList := by
  obtain ⟨before, last, rfl⟩ := (List.eq_nil_or_concat writes).resolve_left hne
  rw [List.concat_eq_append, List.foldl_append, List.foldl_cons, List.foldl_nil, markWrite,
    cell_candidate_setMarkers]

/-- The rows of the groups are the ones that are written to. -/
theorem writes_ne_nil {i : Nat} {row : Row} (hrow : rows[i]? = some row) :
    ((markWrites (duplicateGroups rows idColumn columns)).filter fun write => write.2.1 = i) ≠ [] ↔
      2 ≤ (membersOf rows idColumn columns (rowSignature columns row)).length := by
  rw [ne_eq, List.filter_eq_nil_iff]
  push Not
  constructor
  · rintro ⟨write, hwrite, hi⟩
    obtain ⟨item, hitem, hmember⟩ := List.mem_flatMap.mp hwrite
    obtain ⟨member, hmem, rfl⟩ := List.mem_map.mp hmember
    have hgroup := mem_duplicateGroups.mp (List.fst_mem_of_mem_zipIdx hitem)
    rw [(kept_of_write hrow hwrite (of_decide_eq_true hi)).1] at hgroup
    exact hgroup.2
  · intro htwo
    have hself :
        memberOf idColumn (row, i) ∈ membersOf rows idColumn columns (rowSignature columns row) :=
      mem_membersOf.mpr ⟨row, hrow, rfl, rfl⟩
    have hgroup :
        (rowSignature columns row, membersOf rows idColumn columns (rowSignature columns row)) ∈
        duplicateGroups rows idColumn columns := mem_duplicateGroups.mpr ⟨rfl, htwo⟩
    obtain ⟨k, hk⟩ := List.mem_iff_getElem?.mp hgroup
    have hwrite : (((rowSignature columns row,
        membersOf rows idColumn columns (rowSignature columns row)), k),
        memberOf idColumn (row, i)) ∈
          markWrites (duplicateGroups rows idColumn columns) :=
      List.mem_flatMap.mpr
        ⟨_, List.mk_mem_zipIdx_iff_getElem?.mpr hk, List.mem_map.mpr ⟨_, hself, rfl⟩⟩
    exact ⟨_, hwrite, decide_eq_true rfl⟩

/-- What marking writes into a row: nothing outside the marker columns; in a group of several
rows its mark there, and elsewhere that it is no candidate. -/
theorem markers_buildMarkOutput {i : Nat} {row : Row} (hrow : rows[i]? = some row) :
    ∃ marked, (buildMarkOutput rows (duplicateGroups rows idColumn columns))[i]? = some marked ∧
      (∀ column ∉ markerColumns, cell column marked = cell column row) ∧
      (2 ≤ (membersOf rows idColumn columns (rowSignature columns row)).length →
        cell isDuplicateCandidateColumn marked = "1".toList ∧
          cell isDuplicateKeptColumn marked = keptMark
            (membersOf rows idColumn columns (rowSignature columns row))
              (memberOf idColumn (row, i))) ∧
      (¬ 2 ≤ (membersOf rows idColumn columns (rowSignature columns row)).length →
        cell isDuplicateCandidateColumn marked =
          "0".toList ∧ cell isDuplicateKeptColumn marked = []) := by
  set groups := duplicateGroups rows idColumn columns with hgroups
  set writes := (markWrites groups).filter fun write => write.2.1 = i with hwrites
  have hne : writes ≠ [] ↔
      2 ≤ (membersOf rows idColumn columns (rowSignature columns row)).length :=
    writes_ne_nil hrow
  have hout : (buildMarkOutput rows groups)[i]? =
      some (writes.foldl (fun row write => markWrite write row)
        (setMarkers "0".toList [] [] row)) := by
    rw [getElem?_buildMarkOutput, hrow, Option.map_some]
  refine ⟨_, hout, fun column hcolumn => ?_, fun htwo => ⟨?_, ?_⟩, fun hone => ?_⟩
  · rw [cell_foldl_markWrite hcolumn, cell_setMarkers_ne hcolumn]
  · exact candidate_foldl_markWrite (hne.mpr htwo) _
  · apply kept_foldl_markWrite (hne.mpr htwo)
    intro write hwrite
    obtain ⟨hmem, hi⟩ := List.mem_filter.mp hwrite
    obtain ⟨hmembers, hmember⟩ := kept_of_write hrow hmem (of_decide_eq_true hi)
    rw [hmembers, hmember]
  · rw [not_not.mp (mt hne.mp hone), List.foldl_nil, cell_candidate_setMarkers,
      cell_kept_setMarkers]
    exact ⟨rfl, rfl⟩

/-- What marking does to a row: nothing outside the marker columns; in a group of
several rows it says whether the row is the one to keep, and elsewhere it says nothing. -/
theorem buildMarkOutput_spec (h : Identified idColumn rows) {i : Nat} {row : Row}
    (hrow : rows[i]? = some row) :
    ∃ marked, (buildMarkOutput rows (duplicateGroups rows idColumn columns))[i]? = some marked ∧
      (∀ column ∉ markerColumns, cell column marked = cell column row) ∧
      (2 ≤ (membersOf rows idColumn columns (rowSignature columns row)).length →
        (cell isDuplicateKeptColumn marked = "1".toList ↔ Least idColumn columns rows row) ∧
          (cell isDuplicateKeptColumn marked = "1".toList ∨
            cell isDuplicateKeptColumn marked = "0".toList)) ∧
      (¬ 2 ≤ (membersOf rows idColumn columns (rowSignature columns row)).length →
        cell isDuplicateKeptColumn marked = []) := by
  obtain ⟨marked, hout, hcells, hgrouped, halone⟩ :=
    @markers_buildMarkOutput _ idColumn columns _ _ hrow
  refine ⟨marked, hout, hcells, fun htwo => ?_, fun hone => (halone hone).2⟩
  obtain ⟨canonical, hcanonical, -, hleast, hid⟩ := canonical_of_row h hrow
  rw [(hgrouped htwo).2, keptMark, hcanonical, Option.any_some, sameId, ← hleast]
  simp only [eq_comm (b := canonical.2), hid, decide_eq_true_eq]
  by_cases hi : canonical.1 = i
  · simp [hi]
  · simp [hi]

end Mark

end DataForge.Plugins.Tabular.DuplicateGroups
