import DataForge.Plugins.Tabular.DuplicateChain
import Mathlib.Data.List.Flatten

namespace DataForge.Plugins.Tabular.MarkRemoveAgreement

open DataForge.Foundation.Strings
open DataForge.Foundation.Outcome
open DataForge.Foundation.Canonical
open DataForge.Foundation.Grouping
open DataForge.Foundation.Tables
open DataForge.Domain.Common
open DataForge.Plugins.Tabular.Sources
open DataForge.Plugins.Tabular.Duplicates
open DataForge.Plugins.Tabular.DuplicateGroups
open DataForge.Plugins.Tabular.DuplicateChain

variable {rows : List Row} {idColumn : NonEmptyStr} {columns : List Text}

section Members

/-- The members that a mode sets apart from the canonical ones of their groups. -/
def setApart (rows : List Row) (idColumn : NonEmptyStr) (columns : List Text)
    (same : Member → Member → Bool) : List Member :=
  (duplicateGroups rows idColumn columns).flatMap fun group => others group fun a b => !same a b

theorem mem_setApart {same : Member → Member → Bool} {member : Member} :
    member ∈ setApart rows idColumn columns same ↔
      ∃ item ∈ rows.zipIdx, member = memberOf idColumn item ∧
        2 ≤ (membersOf rows idColumn columns (rowSignature columns item.1)).length ∧
        ∃ canonical,
          canonicalMember (membersOf rows idColumn columns (rowSignature columns item.1)) =
          some canonical ∧ same member canonical = false := by
  rw [setApart, mem_flatMap_others]
  simp only [Bool.not_eq_true']
  constructor
  · rintro ⟨row, hrow, hmember, hapart⟩
    exact ⟨(row, member.1), List.mk_mem_zipIdx_iff_getElem?.mpr hrow, hmember, hapart⟩
  · rintro ⟨item, hitem, rfl, hapart⟩
    exact ⟨item.1, List.mk_mem_zipIdx_iff_getElem?.mp hitem, rfl, hapart⟩

def CarriesLeast (rows : List Row) (idColumn : NonEmptyStr) (columns : List Text)
    (item : Row × Nat) : Prop :=
  ∀ other ∈ rows.zipIdx, rowSignature columns other.1 = rowSignature columns item.1 →
    (memberOf idColumn item).2.1 ≤ (memberOf idColumn other).2.1

/-- The row that the group of a row keeps. -/
theorem exists_canonical {item : Row × Nat} (hitem : item ∈ rows.zipIdx) :
    ∃ least ∈ rows.zipIdx, rowSignature columns least.1 = rowSignature columns item.1 ∧
      canonicalMember (membersOf rows idColumn columns (rowSignature columns item.1)) =
        some (memberOf idColumn least) ∧
      CarriesLeast rows idColumn columns least := by
  have hmember : ∀ other ∈ rows.zipIdx, rowSignature columns other.1 = rowSignature columns item.1 →
      memberOf idColumn other ∈ membersOf rows idColumn columns (rowSignature columns item.1) :=
    fun other hother hkey =>
      mem_membersOf.mpr ⟨other.1, List.mk_mem_zipIdx_iff_getElem?.mp hother, hkey, rfl⟩
  obtain ⟨canonical, hmem, hcanonical, hleast⟩ :=
    canonicalMember_spec (List.ne_nil_of_mem (hmember item hitem rfl))
  obtain ⟨row, hrow, hkey, hself⟩ := mem_membersOf.mp hmem
  rw [hself] at hcanonical hleast
  refine ⟨(row, canonical.1), List.mk_mem_zipIdx_iff_getElem?.mpr hrow, hkey, hcanonical, ?_⟩
  intro other hother hsame
  rcases hleast _ (hmember other hother (hsame.trans hkey)) with hlt | ⟨heq, -⟩
  · exact le_of_lt hlt
  · exact heq.le

/-- A row is set apart when its group keeps another position, or another id. -/
theorem memberOf_mem_setApart {item least : Row × Nat} (hitem : item ∈ rows.zipIdx)
    (hleast : least ∈ rows.zipIdx)
    (hkey : rowSignature columns least.1 = rowSignature columns item.1)
    (hcanonical : canonicalMember (membersOf rows idColumn columns (rowSignature columns item.1)) =
      some (memberOf idColumn least)) :
    (memberOf idColumn item ∈ setApart rows idColumn columns samePosition ↔ item.2 ≠ least.2) ∧
      (memberOf idColumn item ∈ setApart rows idColumn columns sameId ↔
        (memberOf idColumn item).2 ≠ (memberOf idColumn least).2) := by
  have htwo : item.2 ≠ least.2 →
      2 ≤ (membersOf rows idColumn columns (rowSignature columns item.1)).length := fun hne =>
    two_le_length_membersOf.mpr ⟨item.2, least.2, item.1, least.1, hne,
      List.mk_mem_zipIdx_iff_getElem?.mp hitem, List.mk_mem_zipIdx_iff_getElem?.mp hleast,
      rfl, hkey⟩
  have hrow : ∀ other ∈ rows.zipIdx, memberOf idColumn item = memberOf idColumn other → other =
      item := by
    intro other hother hsame
    have hposition : item.2 = other.2 := congrArg Prod.fst hsame
    have hi := List.mk_mem_zipIdx_iff_getElem?.mp hitem
    rw [hposition, List.mk_mem_zipIdx_iff_getElem?.mp hother] at hi
    exact Prod.ext (Option.some.inj hi) hposition.symm
  have hapart : ∀ same, memberOf idColumn item ∈ setApart rows idColumn columns same ↔
      2 ≤ (membersOf rows idColumn columns (rowSignature columns item.1)).length ∧
        same (memberOf idColumn item) (memberOf idColumn least) = false := by
    intro same
    rw [mem_setApart]
    constructor
    · rintro ⟨other, hother, hsame, hlength, canonical, hcanonical', hfalse⟩
      obtain rfl := hrow other hother hsame
      rw [hcanonical] at hcanonical'
      obtain rfl := Option.some.inj hcanonical'
      exact ⟨hlength, hfalse⟩
    · rintro ⟨hlength, hfalse⟩
      exact ⟨item, hitem, rfl, hlength, _, hcanonical, hfalse⟩
  constructor
  · rw [hapart, samePosition, decide_eq_false_iff_not]
    exact ⟨fun h => h.2, fun h => ⟨htwo h, h⟩⟩
  · rw [hapart, sameId, decide_eq_false_iff_not]
    refine ⟨fun h => h.2, fun h => ⟨htwo fun hposition => h ?_, h⟩⟩
    have hi := List.mk_mem_zipIdx_iff_getElem?.mp hitem
    rw [hposition, List.mk_mem_zipIdx_iff_getElem?.mp hleast] at hi
    rw [Prod.ext (Option.some.inj hi) hposition.symm]

end Members

section Counts

/-- The members of all groups stand at different positions. -/
theorem nodup_groups :
    (((duplicateGroups rows idColumn columns).flatMap Prod.snd).map Prod.fst).Nodup := by
  have hsub : ((duplicateGroups rows idColumn columns).flatMap Prod.snd).Subperm
      (rows.zipIdx.map (memberOf idColumn)) := by
    have hperm := flatMap_groupItems (rows.zipIdx.map fun item =>
      (rowSignature columns item.1, memberOf idColumn item))
    rw [List.map_map] at hperm
    have hsorted :=
      (sortedItems_perm (groupBySignature rows idColumn columns)).flatMap_right Prod.snd
    exact (List.Sublist.flatMap List.filter_sublist Prod.snd).subperm.trans
      (hsorted.trans hperm).subperm
  have hpositions : ((rows.zipIdx.map (memberOf idColumn)).map Prod.fst).Nodup := by
    have hmap : (rows.zipIdx.map (memberOf idColumn)).map Prod.fst = rows.zipIdx.map Prod.snd := by
      rw [List.map_map]
      rfl
    rw [hmap, List.zipIdx_map_snd]
    exact List.nodup_range'
  obtain ⟨members, hperm, hsublist⟩ := hsub
  exact ((hperm.map Prod.fst).nodup_iff).mp ((hsublist.map Prod.fst).nodup hpositions)

theorem nodup_setApart (same : Member → Member → Bool) :
    ((setApart rows idColumn columns same).map Prod.fst).Nodup := by
  have hsub : (setApart rows idColumn columns same).Sublist
      ((duplicateGroups rows idColumn columns).flatMap Prod.snd) :=
    List.Sublist.flatMap_right _ fun group _ => List.filter_sublist
  exact (hsub.map Prod.fst).nodup nodup_groups

/-- Removal reports one row less than each group has. -/
theorem length_setApart_samePosition :
    (setApart rows idColumn columns samePosition).length =
      pairCount (duplicateGroups rows idColumn columns) := by
  rw [setApart, List.length_flatMap, pairCount]
  congr 1
  apply List.map_congr_left
  intro group hgroup
  obtain ⟨hmembers, htwo⟩ := mem_duplicateGroups.mp hgroup
  have hne : group.2 ≠ [] := by
    rintro hnil
    rw [hnil] at htwo
    exact absurd htwo (by decide)
  obtain ⟨canonical, hmem, hcanonical, -⟩ := canonicalMember_spec hne
  have hnodup : (group.2.map Prod.fst).Nodup := hmembers ▸ nodup_membersOf group.1
  have hlength : ((group.2.map Prod.fst).erase canonical.1).length = group.2.length - 1 := by
    rw [List.length_erase_of_mem (List.mem_map_of_mem hmem), List.length_map]
  rw [← hlength, hnodup.erase_eq_filter, List.filter_map, List.length_map, others, hcanonical]
  congr 1

/-- The members apart by id are among those apart by position. -/
theorem sublist_setApart : (setApart rows idColumn columns sameId).Sublist
    (setApart rows idColumn columns samePosition) := by
  apply List.Sublist.flatMap_right
  intro group hgroup
  have hnodup : (group.2.map Prod.fst).Nodup :=
    (mem_duplicateGroups.mp hgroup).1 ▸ nodup_membersOf group.1
  have hfilter : others group (fun a b => !sameId a b) =
      (others group fun a b => !samePosition a b).filter fun member =>
        (canonicalMember group.2).any fun canonical => !sameId member canonical := by
    rw [others, others, List.filter_filter]
    apply List.filter_congr
    intro member hmember
    obtain ⟨canonical, hmem, hcanonical, -⟩ := canonicalMember_spec (List.ne_nil_of_mem hmember)
    rw [hcanonical, Option.any_some, Option.any_some]
    by_cases hposition : member.1 = canonical.1
    · have hsame : member = canonical := List.inj_on_of_nodup_map hnodup hmember hmem hposition
      simp [hsame, sameId]
    · simp [samePosition, hposition]
  rw [hfilter]
  exact List.filter_sublist

/-- The two counts are the same when the two modes set the same members apart and these
have different ids. -/
theorem length_sortedSet_setApart :
    (sortedSet (idsOf (setApart rows idColumn columns sameId))).length =
        pairCount (duplicateGroups rows idColumn columns) ↔
      setApart rows idColumn columns sameId = setApart rows idColumn columns samePosition ∧
        (idsOf (setApart rows idColumn columns samePosition)).Nodup := by
  have hset := length_sortedSet_le (idsOf (setApart rows idColumn columns sameId))
  have hsub := (@sublist_setApart rows idColumn columns).length_le
  rw [← length_setApart_samePosition]
  rw [idsOf, List.length_map] at hset
  constructor
  · intro h
    have hsame := (@sublist_setApart rows idColumn columns).eq_of_length (by rw [idsOf] at h; omega)
    refine ⟨hsame, ?_⟩
    rw [← hsame, ← length_sortedSet_eq_iff, h, hsame, idsOf, List.length_map]
  · rintro ⟨hsame, hnodup⟩
    rw [hsame, length_sortedSet_eq_iff.mpr hnodup, idsOf, List.length_map]

end Counts

section Ambiguity

/-- Rows that share an id differ in their signatures, and one of them carries the least id
of its signature. -/
def Unambiguous (rows : List Row) (idColumn : NonEmptyStr) (columns : List Text) : Prop :=
  ∀ item ∈ rows.zipIdx, ∀ other ∈ rows.zipIdx, item.2 ≠ other.2 →
    (memberOf idColumn item).2 = (memberOf idColumn other).2 →
    rowSignature columns item.1 ≠ rowSignature columns other.1 ∧
      (CarriesLeast rows idColumn columns item ∨ CarriesLeast rows idColumn columns other)

theorem carriesLeast_iff {item : Row × Nat} (hitem : item ∈ rows.zipIdx) :
    CarriesLeast rows idColumn columns item ↔
      memberOf idColumn item ∉ setApart rows idColumn columns sameId := by
  obtain ⟨least, hleast, hkey, hcanonical, hcarries⟩ :=
    @exists_canonical rows idColumn columns item hitem
  rw [(memberOf_mem_setApart hitem hleast hkey hcanonical).2, not_not]
  constructor
  · intro h
    exact Subtype.ext (le_antisymm (h least hleast hkey) (hcarries item hitem hkey.symm))
  · intro hsame other hother hother'
    rw [hsame]
    exact hcarries other hother (hother'.trans hkey.symm)

/-- The modes set the same members apart when no row shares the id that its group keeps. -/
theorem mem_setApart_sameId (h : Unambiguous rows idColumn columns) {member : Member}
    (hmember : member ∈ setApart rows idColumn columns samePosition) :
    member ∈ setApart rows idColumn columns sameId := by
  obtain ⟨item, hitem, rfl, -⟩ := mem_setApart.mp hmember
  obtain ⟨least, hleast, hkey, hcanonical, -⟩ := @exists_canonical rows idColumn columns item hitem
  obtain ⟨hposition, hid⟩ := memberOf_mem_setApart hitem hleast hkey hcanonical
  rw [hid]
  intro hsame
  exact (h item hitem least hleast (hposition.mp hmember) hsame).1 hkey.symm

theorem setApart_eq (h : Unambiguous rows idColumn columns) :
    setApart rows idColumn columns sameId = setApart rows idColumn columns samePosition := by
  have hnodup := (@nodup_setApart rows idColumn columns samePosition).of_map
  have hsubperm := List.subperm_of_subset hnodup fun _ => mem_setApart_sameId h
  exact sublist_setApart.eq_of_length_le hsubperm.length_le

theorem nodup_idsOf_setApart (h : Unambiguous rows idColumn columns) :
    (idsOf (setApart rows idColumn columns samePosition)).Nodup := by
  apply (nodup_setApart samePosition).of_map.map_on
  intro member hmember member' hmember' hsame
  obtain ⟨item, hitem, rfl, -⟩ := mem_setApart.mp hmember
  obtain ⟨other, hother, rfl, -⟩ := mem_setApart.mp hmember'
  rw [← setApart_eq h] at hmember hmember'
  by_contra hne
  have hposition : item.2 ≠ other.2 := fun hposition =>
    hne (Prod.ext hposition (Subtype.ext hsame))
  rcases (h item hitem other hother hposition (Subtype.ext hsame)).2 with hleast | hleast
  · exact (carriesLeast_iff hitem).mp hleast hmember
  · exact (carriesLeast_iff hother).mp hleast hmember'

theorem unambiguous_of_setApart
    (hsame : setApart rows idColumn columns sameId = setApart rows idColumn columns samePosition)
    (hnodup : (idsOf (setApart rows idColumn columns samePosition)).Nodup) :
    Unambiguous rows idColumn columns := by
  intro item hitem other hother hposition hid
  have hone :
      CarriesLeast rows idColumn columns item ∨ CarriesLeast rows idColumn columns other := by
    by_contra hneither
    rw [not_or, carriesLeast_iff hitem, carriesLeast_iff hother, not_not, not_not,
      hsame] at hneither
    have hmember := List.inj_on_of_nodup_map hnodup hneither.1 hneither.2 (congrArg Subtype.val hid)
    exact hposition (congrArg Prod.fst hmember)
  refine ⟨fun hkey => ?_, hone⟩
  have hboth :
      CarriesLeast rows idColumn columns item ∧ CarriesLeast rows idColumn columns other := by
    have hiff :
        CarriesLeast rows idColumn columns item ↔ CarriesLeast rows idColumn columns other := by
      rw [CarriesLeast, CarriesLeast, hkey, hid]
    rcases hone with h | h
    · exact ⟨h, hiff.mp h⟩
    · exact ⟨hiff.mpr h, h⟩
  obtain ⟨least, hleast, hleastKey, hcanonical, -⟩ :=
    @exists_canonical rows idColumn columns item hitem
  have hkept : ∀ {row : Row × Nat}, row ∈ rows.zipIdx → CarriesLeast rows idColumn columns row →
      rowSignature columns row.1 = rowSignature columns item.1 → row.2 = least.2 := by
    intro row hrow hcarries hrowKey
    rw [carriesLeast_iff hrow, hsame,
      (memberOf_mem_setApart hrow hleast (hleastKey.trans hrowKey.symm)
      (hrowKey ▸ hcanonical)).1, not_not] at hcarries
    exact hcarries
  exact hposition ((hkept hitem hboth.1 rfl).trans (hkept hother hboth.2 hkey.symm).symm)

end Ambiguity

section Outputs

variable {t : Table} {marked removed : ExecuteTabularDuplicatesResult}

/-- The cell of a row of the candidate. -/
def markAt (marked : ExecuteTabularDuplicatesResult) (column : Text) (i : Nat) : Option Text :=
  (marked.candidate.records[i]?).map (cell column)

/-- What the two modes say of the same source. -/
structure Agreement (t : Table) (idColumn : NonEmptyStr) (columns : List Text)
    (marked removed : ExecuteTabularDuplicatesResult) : Prop where
  kept : ∀ group ∈ duplicateGroups t.records idColumn columns,
    ∃! i, i ∈ group.2.map Prod.fst ∧ markAt marked isDuplicateKeptColumn i = some "1".toList
  dropped : ∀ i, (markAt marked isDuplicateCandidateColumn i = some "1".toList ∧
    markAt marked isDuplicateKeptColumn i = some "0".toList) ↔
      i ∈ dropIndices (duplicateGroups t.records idColumn columns)
  markedCount : marked.report.markedCount = marked.report.beforeDuplicatePairCount
  removedCount : removed.report.removedCount = marked.report.beforeDuplicatePairCount

theorem markAt_markResult (hne : t.columns ≠ []) {column : Text} (hcolumn : column ∈ markerColumns)
    (i : Nat) :
    markAt (markResult t.records t.columns idColumn columns) column i =
      ((buildMarkOutput t.records (duplicateGroups t.records idColumn columns))[i]?).map
        (cell column) := by
  have hrecords : (markResult t.records t.columns idColumn columns).candidate.records =
      (buildMarkOutput t.records (duplicateGroups t.records idColumn columns)).map fun row =>
        rowOf (candidateColumnsForMark t.columns) fun column => cell column row :=
    records_write (fun hnil => hne (List.append_eq_nil_iff.mp hnil).1) nil_notMem_marked
  rw [markAt, hrecords, List.getElem?_map, Option.map_map]
  congr 1
  funext row
  exact cell_rowOf (mem_candidateColumnsForMark.mpr (.inr hcolumn))

theorem markedCount_markResult :
    (markResult t.records t.columns idColumn columns).report.markedCount =
      (sortedSet (idsOf (setApart t.records idColumn columns sameId))).length := by
  rw [idsOf, setApart, List.map_flatMap]
  rfl

theorem removedCount_removeResult :
    (removeResult t.records t.columns idColumn columns).report.removedCount =
      pairCount (duplicateGroups t.records idColumn columns) :=
  length_setApart_samePosition

/-- The marks of a row that is in a group, and of one that is in none. -/
theorem markAt_row (hne : t.columns ≠ []) {item : Row × Nat} (hitem : item ∈ t.records.zipIdx) :
    (2 ≤ (membersOf t.records idColumn columns (rowSignature columns item.1)).length →
      markAt (markResult t.records t.columns idColumn columns) isDuplicateCandidateColumn item.2 =
          some "1".toList ∧
        markAt (markResult t.records t.columns idColumn columns) isDuplicateKeptColumn item.2 =
          some (keptMark (membersOf t.records idColumn columns (rowSignature columns item.1))
            (memberOf idColumn item))) ∧
    (¬ 2 ≤ (membersOf t.records idColumn columns (rowSignature columns item.1)).length →
      markAt (markResult t.records t.columns idColumn columns) isDuplicateCandidateColumn item.2 =
        some "0".toList) := by
  obtain ⟨out, hout, -, hgrouped, halone⟩ :=
    @markers_buildMarkOutput _ idColumn columns _ _ (List.mk_mem_zipIdx_iff_getElem?.mp hitem)
  rw [markAt_markResult hne (by decide), markAt_markResult hne (by decide), hout, Option.map_some,
    Option.map_some]
  refine ⟨fun htwo => ?_, fun hone => ?_⟩
  · obtain ⟨hcandidate, hkept⟩ := hgrouped htwo
    exact ⟨congrArg some hcandidate, congrArg some hkept⟩
  · exact congrArg some (halone hone).1

theorem exists_of_markAt (hne : t.columns ≠ []) {column value : Text}
    (hcolumn : column ∈ markerColumns)
    {i : Nat} (h : markAt (markResult t.records t.columns idColumn columns) column i = some value) :
    ∃ item ∈ t.records.zipIdx, item.2 = i := by
  rw [markAt_markResult hne hcolumn] at h
  obtain ⟨out, hout, -⟩ := Option.map_eq_some_iff.mp h
  obtain ⟨hlt, -⟩ := List.getElem?_eq_some_iff.mp hout
  rw [length_buildMarkOutput] at hlt
  exact ⟨(t.records[i], i), List.mk_mem_zipIdx_iff_getElem?.mpr (List.getElem?_eq_getElem hlt), rfl⟩

theorem keptMark_eq {members : List Member} {member canonical : Member}
    (hcanonical : canonicalMember members = some canonical) :
    keptMark members member = if member.2 = canonical.2 then "1".toList else "0".toList := by
  rw [keptMark, hcanonical, Option.any_some, sameId]
  simp only [decide_eq_true_eq]

theorem mem_dropIndices_iff {i : Nat} :
    i ∈ dropIndices (duplicateGroups rows idColumn columns) ↔
      ∃ member ∈ setApart rows idColumn columns samePosition, member.1 = i := by
  rw [dropIndices, ← List.map_flatMap, List.mem_map]
  rfl

theorem agreement_of_unambiguous (hne : t.columns ≠ [])
    (h : Unambiguous t.records idColumn columns) :
    Agreement t idColumn columns (markResult t.records t.columns idColumn columns)
      (removeResult t.records t.columns idColumn columns) where
  kept := by
    intro group hgroup
    obtain ⟨hmembers, htwo⟩ := mem_duplicateGroups.mp hgroup
    have hitem : ∀ i ∈ group.2.map Prod.fst, ∃ item ∈ t.records.zipIdx, item.2 = i ∧
        rowSignature columns item.1 = group.1 := by
      intro i hi
      obtain ⟨member, hmember, rfl⟩ := List.mem_map.mp hi
      obtain ⟨row, hrow, hkey, -⟩ := mem_membersOf.mp (hmembers ▸ hmember)
      exact ⟨(row, member.1), List.mk_mem_zipIdx_iff_getElem?.mpr hrow, rfl, hkey⟩
    have hsome : group.2.map Prod.fst ≠ [] := by
      intro hnil
      rw [List.map_eq_nil_iff.mp hnil] at htwo
      exact absurd htwo (by decide)
    obtain ⟨i, hi⟩ := List.exists_mem_of_ne_nil _ hsome
    obtain ⟨item, hmem, -, hkey⟩ := hitem i hi
    obtain ⟨least, hleast, hleastKey, hcanonical, -⟩ :=
      @exists_canonical t.records idColumn columns item hmem
    rw [hkey] at hleastKey hcanonical
    rw [hmembers] at htwo
    have hkept : ∀ other ∈ t.records.zipIdx, rowSignature columns other.1 = group.1 →
        (markAt (markResult t.records t.columns idColumn columns) isDuplicateKeptColumn other.2 =
          some "1".toList ↔ (memberOf idColumn other).2 = (memberOf idColumn least).2) := by
      intro other hother hotherKey
      rw [((markAt_row hne hother).1 (hotherKey ▸ htwo)).2, hotherKey, keptMark_eq hcanonical]
      by_cases hsame : (memberOf idColumn other).2 = (memberOf idColumn least).2
      · simp [hsame]
      · simp [hsame]
    refine ⟨least.2, ⟨?_, (hkept least hleast hleastKey).mpr rfl⟩, ?_⟩
    · rw [hmembers]
      exact List.mem_map.mpr ⟨memberOf idColumn least, mem_membersOf.mpr
        ⟨least.1, List.mk_mem_zipIdx_iff_getElem?.mp hleast, hleastKey, rfl⟩, rfl⟩
    · rintro j ⟨hj, hone⟩
      obtain ⟨other, hother, rfl, hotherKey⟩ := hitem j hj
      by_contra hposition
      exact (h other hother least hleast hposition ((hkept other hother hotherKey).mp hone)).1
        (hotherKey.trans hleastKey.symm)
  dropped := by
    intro i
    rw [mem_dropIndices_iff, ← setApart_eq h]
    constructor
    · rintro ⟨hcandidate, hkept⟩
      obtain ⟨item, hitem, rfl⟩ := exists_of_markAt hne (by decide) hcandidate
      by_cases htwo :
        2 ≤ (membersOf t.records idColumn columns (rowSignature columns item.1)).length
      · obtain ⟨least, -, -, hcanonical, -⟩ :=
          @exists_canonical t.records idColumn columns item hitem
        rw [((markAt_row hne hitem).1 htwo).2, keptMark_eq hcanonical] at hkept
        refine ⟨_, mem_setApart.mpr ⟨item, hitem, rfl, htwo, _, hcanonical, ?_⟩, rfl⟩
        rw [sameId, decide_eq_false_iff_not]
        rintro hsame
        rw [if_pos hsame] at hkept
        exact absurd hkept (by decide)
      · rw [(markAt_row hne hitem).2 htwo] at hcandidate
        exact absurd hcandidate (by decide)
    · rintro ⟨member, hmember, rfl⟩
      obtain ⟨item, hitem, rfl, htwo, canonical, hcanonical, hid⟩ := mem_setApart.mp hmember
      obtain ⟨hcandidate, hkept⟩ := (markAt_row hne hitem).1 htwo
      refine ⟨hcandidate, hkept.trans ?_⟩
      rw [keptMark_eq hcanonical, if_neg (of_decide_eq_false hid)]
  markedCount := by
    rw [markedCount_markResult]
    exact length_sortedSet_setApart.mpr ⟨setApart_eq h, nodup_idsOf_setApart h⟩
  removedCount := removedCount_removeResult

/-- The modes agree on every source in which no row carries the id that the group of another
row keeps, and no two rows to be set apart share an id. -/
theorem agreement_iff (hne : t.columns ≠ []) :
    Agreement t idColumn columns (markResult t.records t.columns idColumn columns)
      (removeResult t.records t.columns idColumn columns) ↔
        Unambiguous t.records idColumn columns := by
  constructor
  · intro h
    have hcount := h.markedCount
    rw [markedCount_markResult] at hcount
    obtain ⟨hsame, hnodup⟩ := length_sortedSet_setApart.mp hcount
    exact unambiguous_of_setApart hsame hnodup
  · exact agreement_of_unambiguous hne

end Outputs

/-- Of a source that the executor marks, it removes the duplicates too, and the two results
agree exactly when the ids of the source are unambiguous. -/
theorem mark_remove_agree_iff {sourceHash : Sha256Digest} {idColumn : NonEmptyStr}
    {listed : Option (List NonEmptyStr)} {source : StoredFile}
    {marked : ExecuteTabularDuplicatesResult} (hmark : executeTabularDuplicatesAction
      ⟨DuplicateActionMode.mark.value, sourceHash, idColumn, listed⟩ source = .ok marked) :
    ∃ t removed, source.table = .ok t ∧
      executeTabularDuplicatesAction
        ⟨DuplicateActionMode.removeCandidate.value, sourceHash, idColumn, listed⟩ source =
          .ok removed ∧
      (Agreement t idColumn (resolveSignatureColumns t.columns listed idColumn) marked removed ↔
        Unambiguous t.records idColumn (resolveSignatureColumns t.columns listed idColumn)) := by
  obtain ⟨hhash, t, htable, hcolumns, hrecords, hid, hsignature, rfl⟩ := execute_eq_ok.mp hmark
  exact ⟨t, _, htable,
    execute_eq_ok.mpr ⟨hhash, t, htable, hcolumns, hrecords, hid, hsignature, rfl⟩,
    agreement_iff hcolumns⟩

section Example

/-- Two rows that repeat each other, id included. -/
def repeated : Table where
  header := ["object_id".toList, "amount".toList]
  lines := [["a".toList, "1".toList], ["a".toList, "1".toList]]

theorem execute_repeated (mode : DuplicateActionMode) :
    executeTabularDuplicatesAction ⟨mode.value, sha256Digest .empty, defaultIdColumn, none⟩
        ⟨.empty, .ok repeated⟩ =
      .ok (match mode with
        | .mark => markResult repeated.records repeated.columns defaultIdColumn ["amount".toList]
        | .removeCandidate =>
          removeResult repeated.records repeated.columns defaultIdColumn ["amount".toList]) :=
  execute_eq_ok.mpr ⟨rfl, repeated, rfl, by decide, by decide, by decide, by decide, rfl⟩

theorem mark_remove_agree_repeated :
    ∃ t removed, Except.ok (ε := Raised) repeated = .ok t ∧
      executeTabularDuplicatesAction
        ⟨DuplicateActionMode.removeCandidate.value, sha256Digest .empty, defaultIdColumn, none⟩
          ⟨.empty, .ok repeated⟩ = .ok removed ∧
      (Agreement t defaultIdColumn (resolveSignatureColumns t.columns none defaultIdColumn)
          (markResult repeated.records repeated.columns defaultIdColumn ["amount".toList]) removed ↔
        Unambiguous t.records defaultIdColumn
          (resolveSignatureColumns t.columns none defaultIdColumn)) :=
  mark_remove_agree_iff (execute_repeated .mark)

/-- Both rows are marked as the one to keep, where removal drops one of them. -/
theorem repeated_kept_twice :
    ¬ ∀ (sourceHash : Sha256Digest) (idColumn : NonEmptyStr) (listed : Option (List NonEmptyStr))
      (source : StoredFile) (t : Table) (marked removed : ExecuteTabularDuplicatesResult),
      source.table = .ok t →
      executeTabularDuplicatesAction
        ⟨DuplicateActionMode.mark.value, sourceHash, idColumn, listed⟩ source = .ok marked →
      executeTabularDuplicatesAction
        ⟨DuplicateActionMode.removeCandidate.value, sourceHash, idColumn, listed⟩ source =
          .ok removed →
      Agreement t idColumn (resolveSignatureColumns t.columns listed idColumn) marked removed := by
  intro h
  have hagree :=
    h (sha256Digest .empty) defaultIdColumn none ⟨.empty, .ok repeated⟩ repeated _ _ rfl
    (execute_repeated .mark) (execute_repeated .removeCandidate)
  have hids := (agreement_iff (t := repeated) (by decide)).mp hagree
  have hrows : repeated.records.zipIdx =
      [(rowOf repeated.columns (repeated.value ["a".toList, "1".toList]), 0),
        (rowOf repeated.columns (repeated.value ["a".toList, "1".toList]), 1)] := rfl
  rw [Unambiguous, hrows] at hids
  exact (hids _ List.mem_cons_self _ (List.mem_cons_of_mem _ List.mem_cons_self) (by decide)
    rfl).1 rfl

end Example

end DataForge.Plugins.Tabular.MarkRemoveAgreement
