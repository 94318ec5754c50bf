import DataForge.Plugins.Tabular.LeakageChecks
import DataForge.Plugins.Tabular.SplitCreation

namespace DataForge.Plugins.Tabular.SplitConsumers

open DataForge.Foundation.Strings
open DataForge.Foundation.Dictionary
open DataForge.Foundation.Canonical
open DataForge.Foundation.Grouping
open DataForge.Foundation.Numbers
open DataForge.Foundation.Outcome
open DataForge.Foundation.Scores
open DataForge.Foundation.Tables
open DataForge.Domain.Common
open DataForge.Domain.Leakage
open DataForge.Domain.Profile
open DataForge.Domain.Splits
open DataForge.Plugins.Tabular.Sources
open DataForge.Plugins.Tabular.Splits
open DataForge.Plugins.Tabular.SplitFidelity
open DataForge.Plugins.Tabular.SplitCreation
open DataForge.Plugins.Tabular.LeakageChecks

variable {F : Type} [FloatLike F] {shuffle : Int → Shuffle} {request : SplitRequest F} {t : Table}
  {groupKey : Option NonEmptyStr} {manifest : SplitManifest}

section Assignments

/-- The assignments stand in the order of the rows. -/
def AssignedBy (splitOf : Option Text → DataSplit) (t : Table) (groupKey : Option NonEmptyStr)
    (manifest : SplitManifest) : Prop :=
  ∀ (i : Nat) (row : Row) (a : SplitAssignment),
    t.records[i]? = some row → manifest.assignments[i]? = some a →
      a.objectId = effectiveId i row ∧ a.split = splitOf (rowGroup groupKey row) ∧
        a.groupValue = rowGroup groupKey row

theorem assignedBy (h : createSplit shuffle request t groupKey = .ok manifest) :
    manifest.assignments.length = t.records.length ∧
      ∃ splitOf, AssignedBy splitOf t groupKey manifest := by
  obtain ⟨-, -, splitOf, hassign⟩ := createSplit_spec h
  have hlength := congrArg List.length hassign
  rw [List.length_map, List.length_map, List.length_zipIdx] at hlength
  refine ⟨hlength, splitOf, fun i row a hrow ha => ?_⟩
  have hi := congrArg (·[i]?) hassign
  simp only [List.getElem?_map, List.getElem?_zipIdx, ha, hrow, Option.map_some, Option.some.injEq,
    placed, Prod.mk.injEq, Nat.zero_add] at hi
  exact hi

theorem getElem?_identifiedRows (rows : List Row) (i : Nat) :
    (identifiedRows rows)[i]? = (rows[i]?).map fun row => identify (row, i) := by
  simp [identifiedRows, List.getElem?_zipIdx, Function.comp_def]

/-- The index answers with an assignment of the id. -/
theorem get?_indexAssignments {a : SplitAssignment} (h : a ∈ manifest.assignments) :
    ∃ b ∈ manifest.assignments, b.objectId = a.objectId ∧
      get? a.objectId.1 (indexAssignments manifest) = some (b.split, b.groupValue) := by
  have hkey : a.objectId.1 ∈ (manifest.assignments.map fun a =>
      (a.objectId.1, (a.split, a.groupValue))).map Prod.fst := by
    rw [List.map_map]
    exact List.mem_map_of_mem h
  obtain ⟨v, hv, hget⟩ := exists_get?_update hkey []
  obtain ⟨b, hb, heq⟩ := List.mem_map.mp hv
  obtain ⟨hid, rfl⟩ := Prod.mk.injEq _ _ _ _ ▸ heq
  exact ⟨b, hb, Subtype.ext hid, hget⟩

end Assignments

section Ids

/-- No two assignments of one id name different splits. -/
def FunctionOfIds (manifest : SplitManifest) : Prop :=
  ∀ a ∈ manifest.assignments, ∀ b ∈ manifest.assignments, a.objectId =
    b.objectId → a.split = b.split

/-- What a consumer finds under the id of a row is the split of the row's own assignment. -/
def SeenAsRecorded (t : Table) (manifest : SplitManifest) : Prop :=
  ∀ (i : Nat) (row : IdentifiedRow) (a : SplitAssignment),
    (identifiedRows t.records)[i]? = some row → manifest.assignments[i]? = some a →
      (get? (objectId row).1 (indexAssignments manifest)).map Prod.fst = some a.split

/-- Rows of one id have one group value. -/
def IdsShareGroup (t : Table) (groupKey : Option NonEmptyStr) : Prop :=
  ∀ (i j : Nat) (row row' : Row), t.records[i]? = some row → t.records[j]? = some row' →
    effectiveId i row = effectiveId j row' → rowGroup groupKey row = rowGroup groupKey row'

theorem row_of_id (hids : ((identifiedRows t.records).map objectId).Nodup) {i j : Nat}
    {row row' : Row} (hrow : t.records[i]? = some row) (hrow' : t.records[j]? = some row')
    (hid : effectiveId i row = effectiveId j row') : i = j := by
  have hat : ∀ {k : Nat} {r : Row}, t.records[k]? = some r →
      ((identifiedRows t.records).map objectId)[k]? = some (effectiveId k r) := by
    intro k r hr
    rw [List.getElem?_map, getElem?_identifiedRows, hr, Option.map_some, Option.map_some,
      objectId_identify]
  obtain ⟨hlt, -⟩ := List.getElem?_eq_some_iff.mp (hat hrow)
  exact (List.getElem?_inj hlt hids).mp (by rw [hat hrow, hat hrow', hid])

theorem idsShareGroup_of_nodup (hids : ((identifiedRows t.records).map objectId).Nodup) :
    IdsShareGroup t groupKey := by
  intro i j row row' hrow hrow' hid
  obtain rfl := row_of_id hids hrow hrow' hid
  rw [Option.some.inj (hrow.symm.trans hrow')]

theorem exists_row (h : createSplit shuffle request t groupKey = .ok manifest) {a : SplitAssignment}
    (ha : a ∈ manifest.assignments) :
    ∃ (i : Nat) (row : Row), t.records[i]? = some row ∧ manifest.assignments[i]? = some a := by
  obtain ⟨i, hi⟩ := List.mem_iff_getElem?.mp ha
  obtain ⟨hlt, -⟩ := List.getElem?_eq_some_iff.mp hi
  rw [(assignedBy h).1] at hlt
  exact ⟨i, t.records[i], List.getElem?_eq_getElem hlt, hi⟩

theorem functionOfIds_of_share (h : createSplit shuffle request t groupKey = .ok manifest)
    (hshare : IdsShareGroup t groupKey) : FunctionOfIds manifest := by
  obtain ⟨-, splitOf, hassign⟩ := assignedBy h
  intro a ha b hb hid
  obtain ⟨i, row, hrow, hi⟩ := exists_row h ha
  obtain ⟨j, row', hrow', hj⟩ := exists_row h hb
  obtain ⟨haid, hasplit, -⟩ := hassign i row a hrow hi
  obtain ⟨hbid, hbsplit, -⟩ := hassign j row' b hrow' hj
  rw [hasplit, hbsplit, hshare i j row row' hrow hrow' (haid.symm.trans (hid.trans hbid))]

theorem functionOfIds_iff (h : createSplit shuffle request t groupKey = .ok manifest) :
    FunctionOfIds manifest ↔ SeenAsRecorded t manifest := by
  obtain ⟨-, splitOf, hassign⟩ := assignedBy h
  have hrowId : ∀ (i : Nat) (row : Row) (a : SplitAssignment), t.records[i]? = some row →
      manifest.assignments[i]? = some a → objectId (identify (row, i)) = a.objectId :=
    fun i row a hrow ha => by rw [objectId_identify, (hassign i row a hrow ha).1]
  constructor
  · intro hfun i row a hrow ha
    rw [getElem?_identifiedRows, Option.map_eq_some_iff] at hrow
    obtain ⟨record, hrecord, rfl⟩ := hrow
    have hmem := List.mem_of_getElem? ha
    obtain ⟨b, hb, hid, hget⟩ := get?_indexAssignments hmem
    rw [hrowId i record a hrecord ha, hget, Option.map_some, hfun b hb a hmem hid]
  · intro hseen a ha b hb hid
    have hown : ∀ c ∈ manifest.assignments,
        (get? c.objectId.1 (indexAssignments manifest)).map Prod.fst = some c.split := by
      intro c hc
      obtain ⟨i, row, hrow, hi⟩ := exists_row h hc
      have hident : (identifiedRows t.records)[i]? = some (identify (row, i)) := by
        rw [getElem?_identifiedRows, hrow, Option.map_some]
      have hsplit := hseen i _ c hident hi
      rwa [hrowId i row c hrow hi] at hsplit
    exact Option.some.inj ((hown a ha).symm.trans (hid ▸ hown b hb))

/-- Where rows of one id have one group value, the manifest is a function of the ids;
and it is one exactly where every index of its assignments is right about every row. -/
theorem manifest_function_of_ids (h : createSplit shuffle request t groupKey = .ok manifest) :
    (IdsShareGroup t groupKey → FunctionOfIds manifest) ∧
      (FunctionOfIds manifest ↔ SeenAsRecorded t manifest) :=
  ⟨functionOfIds_of_share h, functionOfIds_iff h⟩

def caseRequest : SplitRequest ℚ :=
  ⟨"split_manifest".toList, literal "label", 42, halfAndQuarters⟩

/-- Two rows of different cases. -/
def caseTable (first second : NonEmptyStr) : Table where
  header := ["object_id".toList, "label".toList, "case_id".toList]
  lines := [[first.1, "0".toList, "c1".toList], [second.1, "0".toList, "c2".toList]]

def caseAssignments (first second : NonEmptyStr) : List SplitAssignment :=
  [⟨first, .validation, literal "0", some "c1".toList⟩,
    ⟨second, .test, literal "0", some "c2".toList⟩]

def caseManifest (first second : NonEmptyStr) : SplitManifest where
  splitManifestId := "split_manifest".toList
  targetColumn := literal "label"
  seed := 42
  groupKey := some (literal "case_id")
  assignments := caseAssignments first second
  classDistribution := classDistribution (caseAssignments first second)

/-- Two rows of one id in different cases: one is in the validation split, the other in
the test split. -/
theorem shared_id_two_splits :
    createSplit (fun _ => keepOrder) caseRequest (caseTable (literal "a") (literal "a"))
        (some (literal "case_id")) = .ok (caseManifest (literal "a") (literal "a")) ∧
      ¬ FunctionOfIds (caseManifest (literal "a") (literal "a")) := by
  refine ⟨by decide +kernel, fun h => ?_⟩
  have hsplit := h ⟨literal "a", .validation, literal "0", some "c1".toList⟩ (by decide)
    ⟨literal "a", .test, literal "0", some "c2".toList⟩ (by decide) rfl
  exact absurd hsplit (by decide)

theorem caseTable_splits :
    createSplit (fun _ => keepOrder) caseRequest (caseTable (literal "a") (literal "b"))
      (some (literal "case_id")) = .ok (caseManifest (literal "a") (literal "b")) := by
  decide +kernel

theorem manifest_function_of_ids_cases :
    FunctionOfIds (caseManifest (literal "a") (literal "b")) := by
  apply (manifest_function_of_ids caseTable_splits).1
  exact idsShareGroup_of_nodup (by decide +kernel)

end Ids

section Groups

variable (hids : ((identifiedRows t.records).map objectId).Nodup)

theorem groupOf_identify {key : NonEmptyStr} (h : key.1 ≠ objectIdColumn) (item : Row × Nat) :
    groupOf key (identify item) = rowGroup (some key) item.1 := by
  have hcell : cell key.1 (identify item).1 = cell key.1 item.1 := cell_withObjectId_ne h
  rw [groupOf, rowGroup, Option.bind_some, hcell]

include hids in
/-- With distinct ids the index is right about every row and about its group. -/
theorem get?_index_of_row {splitOf : Option Text → DataSplit}
    (h : createSplit shuffle request t groupKey = .ok manifest)
    (hassign : AssignedBy splitOf t groupKey manifest) {i : Nat} {row : Row}
    {x : DataSplit × Option Text} (hrow : t.records[i]? = some row)
    (hx : get? (objectId (identify (row, i))).1 (indexAssignments manifest) = some x) :
    x.1 = splitOf (rowGroup groupKey row) := by
  obtain ⟨hlt, -⟩ := List.getElem?_eq_some_iff.mp hrow
  rw [← (assignedBy h).1] at hlt
  have ha : manifest.assignments[i]? = some manifest.assignments[i] := List.getElem?_eq_getElem hlt
  obtain ⟨hid, -, -⟩ := hassign i row _ hrow ha
  obtain ⟨b, hb, hbid, hget⟩ := get?_indexAssignments (List.mem_of_getElem? ha)
  rw [hid] at hbid hget
  rw [objectId_identify, hget] at hx
  obtain rfl := Option.some.inj hx
  obtain ⟨j, row', hrow', hj⟩ := exists_row h hb
  obtain ⟨hbid', hbsplit, -⟩ := hassign j row' b hrow' hj
  obtain rfl := row_of_id hids hrow hrow' (hbid.symm.trans hbid')
  obtain rfl := Option.some.inj (hrow.symm.trans hrow')
  exact hbsplit

include hids in
theorem groupKeyCheck_not_failed (h : createSplit shuffle request t groupKey = .ok manifest) :
    (groupKeyCheck (identifiedRows t.records) (indexAssignments manifest) groupKey).status ≠
      .failed := by
  obtain ⟨-, splitOf, hassign⟩ := assignedBy h
  cases groupKey with
  | none => simp [groupKeyCheck]
  | some key =>
    have hnone : crossing (spread (groupOf key) (identifiedRows t.records)
        (indexAssignments manifest)) = [] := by
      by_contra hne
      obtain ⟨row, hrow, row', hrow', k, x, y, hk, hk', hx, hy, hxy⟩ := crossing_ne_nil_iff.mp hne
      apply hxy
      obtain ⟨i, hi⟩ := List.mem_iff_getElem?.mp hrow
      obtain ⟨j, hj⟩ := List.mem_iff_getElem?.mp hrow'
      rw [getElem?_identifiedRows, Option.map_eq_some_iff] at hi hj
      obtain ⟨record, hrecord, rfl⟩ := hi
      obtain ⟨record', hrecord', rfl⟩ := hj
      rw [get?_index_of_row hids h hassign hrecord hx, get?_index_of_row hids h hassign hrecord' hy]
      by_cases hkey : key.1 = objectIdColumn
      · -- the group is the id itself, which no other row has
        have hgroup : ∀ item :
            Row × Nat, groupOf key (identify item) = some (effectiveId item.2 item.1).1 := by
          intro item
          rw [groupOf, hkey, if_neg (identify item).2, ← objectId_identify]
          rfl
        have hid := (hgroup _).symm.trans (hk.trans (hk'.symm.trans (hgroup _)))
        obtain rfl := row_of_id hids hrecord hrecord' (Subtype.ext (Option.some.inj hid))
        obtain rfl := Option.some.inj (hrecord.symm.trans hrecord')
        rfl
      · rw [groupOf_identify hkey] at hk hk'
        rw [hk, hk']
    simp [groupKeyCheck, hnone]

theorem verifyAssignments_ok (h : createSplit shuffle request t groupKey = .ok manifest) :
    verifyAssignmentsMatchRows (indexAssignments manifest) (identifiedRows t.records) = .ok () := by
  rw [verifyAssignmentsMatchRows, guardOk_eq_ok]
  intro item hitem
  have hkey : item.1 ∈ (indexAssignments manifest).map Prod.fst := List.mem_map_of_mem hitem
  rw [indexAssignments, mem_keys_update, List.map_map] at hkey
  obtain ⟨a, ha, hid⟩ := List.mem_map.mp (hkey.resolve_left List.not_mem_nil)
  obtain ⟨i, row, hrow, hi⟩ := exists_row h ha
  obtain ⟨-, splitOf, hassign⟩ := assignedBy h
  refine List.mem_map.mpr ⟨identify (row, i), ?_, ?_⟩
  · apply List.mem_of_getElem?
    rw [getElem?_identifiedRows, hrow, Option.map_some]
  · rw [objectId_identify, ← (hassign i row a hrow hi).1]
    exact hid


/-- Rows with one group value stay together, and the leakage checks on the same table
find no group in two splits. -/
theorem createSplit_group_safe {F : Type} [ScoreLike F] {shuffle : Int → Shuffle}
    {request : SplitRequest F} {t : Table} {groupKey : Option NonEmptyStr}
    {manifest : SplitManifest} (hids : ((identifiedRows t.records).map objectId).Nodup)
    (h : createSplit shuffle request t groupKey = .ok manifest)
    (profile : Option (TabularProfileReport F)) :
    (∀ (i j : Nat) (row row' : Row) (a b : SplitAssignment), t.records[i]? = some row →
      t.records[j]? = some row' → manifest.assignments[i]? = some a →
      manifest.assignments[j]? = some b → rowGroup groupKey row ≠ none →
      rowGroup groupKey row = rowGroup groupKey row' → a.split = b.split) ∧
      ∃ report, runSplitLeakageChecks manifest profile t = .ok report ∧
        ∀ check ∈ report.checks, check.checkType = .groupKey → check.status ≠ .failed := by
  obtain ⟨hread, hkey, -⟩ := createSplit_spec h
  obtain ⟨hlength, splitOf, hassign⟩ := assignedBy h
  constructor
  · intro i j row row' a b hrow hrow' ha hb _ hgroup
    rw [(hassign i row a hrow ha).2.1, (hassign j row' b hrow' hb).2.1, hgroup]
  · have hne : manifest.assignments ≠ [] := by
      rw [← List.length_pos_iff, hlength, List.length_pos_iff]
      exact hread.2.2
    refine ⟨_, runSplitLeakageChecks_eq_ok.mpr ⟨hne, hread, verifyAssignments_ok h, rfl⟩, ?_⟩
    intro check hcheck htype
    have hcases : check = exactHashCheck (identifiedRows t.records) (indexAssignments manifest) ∨
        check = groupKeyCheck (identifiedRows t.records) (indexAssignments manifest)
          manifest.groupKey ∨
        check = targetLeakageCandidateCheck profile manifest := by
      simpa [buildReport, runChecks] using hcheck
    obtain rfl | rfl | rfl := hcases
    · rw [checkType_exactHashCheck] at htype
      cases htype
    · rw [hkey]
      exact groupKeyCheck_not_failed hids h
    · rw [checkType_targetLeakageCandidateCheck] at htype
      cases htype

theorem createSplit_group_safe_cases :
    ∃ report, runSplitLeakageChecks (F := ℚ) (caseManifest (literal "a") (literal "b")) none
        (caseTable (literal "a") (literal "b")) = .ok report ∧
      ∀ check ∈ report.checks, check.checkType = .groupKey → check.status ≠ .failed :=
  (createSplit_group_safe (by decide +kernel) caseTable_splits none).2

end Groups

end DataForge.Plugins.Tabular.SplitConsumers
