import DataForge.Domain.Profile
import DataForge.Domain.Splits
import DataForge.Foundation.Canonical
import DataForge.Foundation.Grouping
import DataForge.Plugins.Tabular.Sources

namespace DataForge.Plugins.Tabular.LeakageChecks

open DataForge.Foundation.Strings
open DataForge.Foundation.Outcome
open DataForge.Foundation.Dictionary
open DataForge.Foundation.Canonical
open DataForge.Foundation.Grouping
open DataForge.Foundation.Numbers
open DataForge.Foundation.Scores
open DataForge.Foundation.Tables
open DataForge.Domain.Common
open DataForge.Domain.Leakage
open DataForge.Domain.Profile
open DataForge.Domain.Splits
open DataForge.Plugins.Tabular.Sources

def leakageError (reasonCode : String) (code : ErrorCode) (message : String) : Raised :=
  .reasoned "SplitLeakageCheckError" reasonCode code none message

section Inputs

def readLeakageRows (t : Table) (targetColumn : NonEmptyStr) : Result (List IdentifiedRow) := do
  let rows ← readRows "SplitLeakageCheckError" "Split target column is not present in source CSV."
    .invalidJobPayload t targetColumn
  pure (identifiedRows rows)

abbrev Assignments := Dict Text (DataSplit × Option Text)

/-- The last assignment of an id decides. -/
def indexAssignments (manifest : SplitManifest) : Assignments :=
  update [] (manifest.assignments.map fun a => (a.objectId.1, (a.split, a.groupValue)))

def verifyAssignmentsMatchRows (assignments : Assignments) (rows : List IdentifiedRow) :
    Result Unit :=
  guardOk (∀ item ∈ assignments, item.1 ∈ rows.map fun row => (objectId row).1)
    (leakageError "split_manifest_object_id_missing_in_source" .leakageDetected
      "Split manifest references object_ids that are not present in the source CSV.")

end Inputs

section Crossing

/-- The ids of the assigned rows that have a key, by key and then by split. -/
def spread (key : IdentifiedRow → Option Text) (rows : List IdentifiedRow)
    (assignments : Assignments) : Dict Text (Dict DataSplit (List Text)) :=
  let items := rows.filterMap fun row =>
    (get? (objectId row).1 assignments).bind fun assigned =>
      (key row).map fun k => (k, (assigned.1, (objectId row).1))
  (groupItems items).map fun group => (group.1, groupItems group.2)

def splitNames (splits : List DataSplit) : List Text :=
  (splits.map DataSplit.value).insertionSort (· ≤ ·)

def memberIds (bySplit : Dict DataSplit (List Text)) : List Text :=
  (bySplit.flatMap Prod.snd).insertionSort (· ≤ ·)

/-- The keys that more than one split has, in order, with their places among all keys. -/
def crossing (spread : Dict Text (Dict DataSplit (List Text))) :
    List ((Text × Dict DataSplit (List Text)) × Nat) :=
  (sortedItems spread).zipIdx.filter fun item => 2 ≤ item.1.2.length

/-- Two rows that share a key are assigned to different splits. -/
def Crosses (key : IdentifiedRow → Option Text) (rows : List IdentifiedRow)
    (assignments : Assignments) : Prop :=
  ∃ row ∈ rows, ∃ row' ∈ rows, ∃ k x y, key row = some k ∧ key row' = some k ∧
    get? (objectId row).1 assignments = some x ∧ get? (objectId row').1 assignments = some y ∧
      x.1 ≠ y.1

/-- The assigned rows that have a key, with their splits. -/
def keyed (key : IdentifiedRow → Option Text) (rows : List IdentifiedRow)
    (assignments : Assignments) : List (Text × (DataSplit × Text)) :=
  rows.filterMap fun row =>
    (get? (objectId row).1 assignments).bind fun assigned =>
      (key row).map fun k => (k, (assigned.1, (objectId row).1))

variable {key : IdentifiedRow → Option Text} {rows : List IdentifiedRow} {assignments : Assignments}

theorem mem_keyed {k : Text} {split : DataSplit} {id : Text} :
    (k, (split, id)) ∈ keyed key rows assignments ↔
      ∃ row ∈ rows, ∃ x, get? (objectId row).1 assignments = some x ∧ key row = some k ∧
        x.1 = split ∧ (objectId row).1 = id := by
  simp only [keyed, List.mem_filterMap, Option.bind_eq_some_iff, Option.map_eq_some_iff,
    Prod.mk.injEq]
  constructor
  · rintro ⟨row, hrow, x, hx, _, hk, rfl, hsplit, hid⟩
    exact ⟨row, hrow, x, hx, hk, hsplit, hid⟩
  · rintro ⟨row, hrow, x, hx, hk, hsplit, hid⟩
    exact ⟨row, hrow, x, hx, k, hk, rfl, hsplit, hid⟩

/-- The splits and ids of a key. -/
def members (key : IdentifiedRow → Option Text) (rows : List IdentifiedRow)
    (assignments : Assignments) (k : Text) : List (DataSplit × Text) :=
  ((keyed key rows assignments).filter fun item => item.1 = k).map Prod.snd

theorem mem_members {k : Text} {split : DataSplit} {id : Text} :
    (split, id) ∈ members key rows assignments k ↔
      ∃ row ∈ rows, ∃ x, get? (objectId row).1 assignments = some x ∧ key row = some k ∧
        x.1 = split ∧ (objectId row).1 = id := by
  rw [← mem_keyed, members, List.mem_map]
  constructor
  · rintro ⟨⟨k', member⟩, hitem, rfl⟩
    obtain ⟨hkeyed, hk⟩ := List.mem_filter.mp hitem
    rwa [← of_decide_eq_true hk]
  · intro h
    exact ⟨_, List.mem_filter.mpr ⟨h, decide_eq_true rfl⟩, rfl⟩

theorem mem_spread {k : Text} {bySplit : Dict DataSplit (List Text)} :
    (k, bySplit) ∈ spread key rows assignments ↔ k ∈ (keyed key rows assignments).map Prod.fst ∧
      bySplit = groupItems (members key rows assignments k) := by
  show (k, bySplit) ∈ (groupItems (keyed key rows assignments)).map _ ↔ _
  rw [List.mem_map]
  constructor
  · rintro ⟨⟨k', group⟩, hgroup, hitem⟩
    obtain ⟨rfl, rfl⟩ := Prod.mk.inj hitem
    obtain ⟨hk, rfl⟩ := mem_groupItems_iff.mp hgroup
    exact ⟨hk, rfl⟩
  · rintro ⟨hk, rfl⟩
    exact ⟨_, mem_groupItems_iff.mpr ⟨hk, rfl⟩, rfl⟩

/-- The keys that two splits have, each with its members by split. -/
theorem mem_crossing {k : Text} {bySplit : Dict DataSplit (List Text)} :
    (k, bySplit) ∈ (crossing (spread key rows assignments)).map Prod.fst ↔
      bySplit = groupItems (members key rows assignments k) ∧
        ∃ a ∈ members key rows assignments k, ∃ b ∈ members key rows assignments k, a.1 ≠ b.1 := by
  have hsplits : 2 ≤ (groupItems (members key rows assignments k)).length ↔
      ∃ a ∈ members key rows assignments k, ∃ b ∈ members key rows assignments k, a.1 ≠ b.1 := by
    rw [← not_iff_not, not_le, Nat.lt_succ_iff, length_groupItems_le_one]
    push Not
    rfl
  rw [← hsplits, List.mem_map]
  constructor
  · rintro ⟨⟨item, i⟩, hitem, rfl⟩
    obtain ⟨hzip, htwo⟩ := List.mem_filter.mp hitem
    obtain ⟨-, hgroups⟩ :=
      mem_spread.mp ((sortedItems_perm _).mem_iff.mp (List.fst_mem_of_mem_zipIdx hzip))
    have hlength : 2 ≤ bySplit.length := of_decide_eq_true htwo
    exact ⟨hgroups, hgroups ▸ hlength⟩
  · rintro ⟨rfl, htwo⟩
    obtain ⟨⟨split, id⟩, hmember, -⟩ := hsplits.mp htwo
    have hk : k ∈ (keyed key rows assignments).map Prod.fst :=
      List.mem_map_of_mem (f := Prod.fst) (mem_keyed.mpr (mem_members.mp hmember))
    obtain ⟨i, hi⟩ :=
      List.mem_iff_getElem?.mp ((sortedItems_perm _).mem_iff.mpr (mem_spread.mpr ⟨hk, rfl⟩))
    exact ⟨(_, i),
      List.mem_filter.mpr ⟨List.mk_mem_zipIdx_iff_getElem?.mpr hi, decide_eq_true htwo⟩, rfl⟩

theorem crossing_ne_nil_iff :
    crossing (spread key rows assignments) ≠ [] ↔ Crosses key rows assignments := by
  constructor
  · intro hne
    obtain ⟨⟨⟨k, bySplit⟩, i⟩, hitem⟩ := List.exists_mem_of_ne_nil _ hne
    obtain ⟨-, ⟨split, id⟩, ha, ⟨split', id'⟩, hb, hab⟩ :=
      mem_crossing.mp (List.mem_map_of_mem hitem)
    obtain ⟨row, hrow, x, hx, hk, hxa, -⟩ := mem_members.mp ha
    obtain ⟨row', hrow', y, hy, hk', hyb, -⟩ := mem_members.mp hb
    exact ⟨row, hrow, row', hrow', k, x, y, hk, hk', hx, hy, by rwa [hxa, hyb]⟩
  · rintro ⟨row, hrow, row', hrow', k, x, y, hk, hk', hx, hy, hxy⟩
    have ha := mem_members.mpr ⟨row, hrow, x, hx, hk, rfl, rfl⟩
    have hb := mem_members.mpr ⟨row', hrow', y, hy, hk', rfl, rfl⟩
    exact List.map_eq_nil_iff.not.mp
      (List.ne_nil_of_mem (mem_crossing.mpr ⟨rfl, _, ha, _, hb, hxy⟩))

end Crossing

section Checks

/-- The signature leaves out the id and keeps the target column. -/
def rowSignature (row : IdentifiedRow) : Text :=
  signature ((row.1.map Prod.fst).filter (· ≠ objectIdColumn)) row.1

def exactHashFinding (item : (Text × Dict DataSplit (List Text)) × Nat) :
    LeakageCrossSplitFinding where
  findingId := "exact_hash_".toList ++ zeroPadded 4 item.2 ++ '_' :: item.1.1.take 16
  splits := splitNames (item.1.2.map Prod.fst)
  objectIds := memberIds item.1.2
  groupValue := none
  column := none
  notes := "row content identical across splits".toList

def exactHashCheck (rows : List IdentifiedRow) (assignments : Assignments) : LeakageCheckResult :=
  let found := crossing (spread (fun row => some (rowSignature row)) rows assignments)
  if found = [] then
    { checkType := .exactHash
      status := .passed
      severity := .info
      reasonCode := "no_exact_hash_leakage".toList
      blockAction := none
      affectedObjectIds := []
      affectedGroups := []
      affectedColumns := []
      findings := []
      notes := some "no exact row content overlap across splits".toList }
  else
    { checkType := .exactHash
      status := .failed
      severity := .blocker
      reasonCode := "split_leakage".toList
      blockAction := some .blockModelEvaluation
      affectedObjectIds := sortedSet (found.flatMap fun item => memberIds item.1.2)
      affectedGroups := []
      affectedColumns := []
      findings := found.map exactHashFinding
      notes := some
        (Nat.toDigits 10 found.length ++ " row signature(s) span multiple splits".toList) }

/-- The value of the row decides, not the one that the assignment records. -/
def groupOf (groupKey : NonEmptyStr) (row : IdentifiedRow) : Option Text :=
  if cell groupKey.1 row.1 = [] then none else some (cell groupKey.1 row.1)

def groupKeyFinding (groupKey : NonEmptyStr) (item : (Text × Dict DataSplit (List Text)) × Nat) :
    LeakageCrossSplitFinding where
  findingId := "group_leakage_".toList ++ item.1.1
  splits := splitNames (item.1.2.map Prod.fst)
  objectIds := memberIds item.1.2
  groupValue := some item.1.1
  column := some groupKey
  notes := "group key appears in ".toList ++ Nat.toDigits 10 item.1.2.length ++ " splits".toList

def groupKeyCheck (rows : List IdentifiedRow) (assignments : Assignments) :
    Option NonEmptyStr → LeakageCheckResult
  | none =>
    { checkType := .groupKey
      status := .notApplicable
      severity := .info
      reasonCode := "group_key_not_configured".toList
      blockAction := none
      affectedObjectIds := []
      affectedGroups := []
      affectedColumns := []
      findings := []
      notes := some "split manifest has no group_key configured".toList }
  | some groupKey =>
    let found := crossing (spread (groupOf groupKey) rows assignments)
    if found = [] then
      { checkType := .groupKey
        status := .passed
        severity := .info
        reasonCode := "no_group_key_leakage".toList
        blockAction := none
        affectedObjectIds := []
        affectedGroups := []
        affectedColumns := [groupKey.1]
        findings := []
        notes := some ("all ".toList ++ groupKey.1 ++ " values stay in a single split".toList) }
    else
      { checkType := .groupKey
        status := .failed
        severity := .blocker
        reasonCode := "split_leakage".toList
        blockAction := some .blockModelEvaluation
        affectedObjectIds := sortedSet (found.flatMap fun item => memberIds item.1.2)
        affectedGroups := sortedSet (found.map fun item => item.1.1)
        affectedColumns := [groupKey.1]
        findings := found.map (groupKeyFinding groupKey)
        notes := some (Nat.toDigits 10 found.length ++ ' ' :: groupKey.1 ++
          " value(s) span multiple splits".toList) }

def highTargetMatchReason : Text := "high_target_match_rate".toList

def splitsInManifest (manifest : SplitManifest) : List Text :=
  sortedSet (manifest.assignments.map fun a => a.split.value)

def candidateFinding (label : Text) (manifest : SplitManifest) (candidate : LeakageCandidate) :
    LeakageCrossSplitFinding where
  findingId := label ++ candidate.column.1
  splits :=
    if splitsInManifest manifest = [] then ["train".toList, "test".toList]
    else splitsInManifest manifest
  objectIds := []
  groupValue := none
  column := some candidate.column
  notes := candidate.reasonCode.1

/-- A failed scan of the candidates, by the ones that it is about. -/
def candidateCheck (severity : LeakageCheckSeverity) (blockAction : Option BlockAction)
    (label notes : Text) (manifest : SplitManifest) (candidates : List LeakageCandidate) :
    LeakageCheckResult where
  checkType := .targetLeakageCandidate
  status := .failed
  severity := severity
  reasonCode := "target_leakage_candidate".toList
  blockAction := blockAction
  affectedObjectIds := []
  affectedGroups := []
  affectedColumns := sortedSet (candidates.map fun candidate => candidate.column.1)
  findings := candidates.map (candidateFinding label manifest)
  notes := some (Nat.toDigits 10 candidates.length ++ notes)

def noCandidates (status : LeakageCheckStatus) (reasonCode notes : String) :
    LeakageCheckResult where
  checkType := .targetLeakageCandidate
  status := status
  severity := .info
  reasonCode := reasonCode.toList
  blockAction := none
  affectedObjectIds := []
  affectedGroups := []
  affectedColumns := []
  findings := []
  notes := some notes.toList

variable {F : Type} [ScoreLike F]

/-- Confirmed candidates block the training; the others give a warning where there is
no confirmed one. -/
def targetLeakageCandidateCheck (profile : Option (TabularProfileReport F))
    (manifest : SplitManifest) : LeakageCheckResult :=
  match profile with
  | none => noCandidates .notApplicable "tabular_profile_report_not_provided"
      "no tabular profile report supplied"
  | some profile =>
    let candidates := profile.leakageCandidates.getD []
    let confirmed := candidates.filter fun candidate => candidate.reasonCode.1 =
        highTargetMatchReason
    if candidates = [] then
      noCandidates .passed "no_target_leakage_candidate" "no leakage candidates in tabular profile"
    else if confirmed = [] then
      candidateCheck .warning none "target_leakage_warning_".toList
        " target leakage candidate(s) without confirmed target match rate".toList manifest
          candidates
    else
      candidateCheck .blocker (some .blockTraining) "target_leakage_".toList
        " column(s) flagged with high_target_match_rate".toList manifest confirmed

theorem exactHashCheck_failed {rows : List IdentifiedRow} {assignments : Assignments} :
    (exactHashCheck rows assignments).status = .failed ↔
      Crosses (fun row => some (rowSignature row)) rows assignments := by
  rw [← crossing_ne_nil_iff, exactHashCheck]
  split
  · next h => simp [h]
  · next h => simp [h]

theorem groupKeyCheck_failed {rows : List IdentifiedRow} {assignments : Assignments}
    {groupKey : Option NonEmptyStr} :
    (groupKeyCheck rows assignments groupKey).status = .failed ↔
      ∃ key ∈ groupKey, Crosses (groupOf key) rows assignments := by
  cases groupKey with
  | none => simp [groupKeyCheck]
  | some key =>
    simp only [Option.mem_def, Option.some.injEq, exists_eq_left', ← crossing_ne_nil_iff]
    rw [groupKeyCheck]
    split
    · next h => simp [h]
    · next h => simp [h]

theorem checkType_groupKeyCheck (rows : List IdentifiedRow) (assignments : Assignments)
    (groupKey : Option NonEmptyStr) :
    (groupKeyCheck rows assignments groupKey).checkType = .groupKey := by
  cases groupKey with
  | none => rfl
  | some key =>
    rw [groupKeyCheck]
    split <;> rfl

theorem checkType_exactHashCheck (rows : List IdentifiedRow) (assignments : Assignments) :
    (exactHashCheck rows assignments).checkType = .exactHash := by
  rw [exactHashCheck]
  split <;> rfl

theorem checkType_targetLeakageCandidateCheck (profile : Option (TabularProfileReport F))
    (manifest : SplitManifest) :
    (targetLeakageCandidateCheck profile manifest).checkType = .targetLeakageCandidate := by
  unfold targetLeakageCandidateCheck
  split
  · rfl
  · dsimp only
    split
    · rfl
    · split <;> rfl

end Checks

section Report

variable {F : Type} [ScoreLike F]

def raiseScore (score level : Score F) : Score F :=
  if FloatLike.lt score.1 level.1 then level else score

def leakageRiskScore (checks : List LeakageCheckResult) : Score F :=
  let failed := checks.filter fun check => check.status = .failed
  if failed.any fun check => check.severity = .blocker then Score.one
  else failed.foldl (fun score check =>
    raiseScore score
      (if check.severity = .warning then Score.fraction 5 1 else Score.fraction 25 2)) Score.zero

def isBlocking (check : LeakageCheckResult) : Bool :=
  decide (check.status = .failed ∧ check.severity = .blocker)

def buildReport (manifest : SplitManifest) (checks : List LeakageCheckResult) :
    SplitLeakageReport F where
  splitManifestId := manifest.splitManifestId
  targetColumn := manifest.targetColumn
  leakageDetected := checks.any isBlocking
  leakageRiskScore := leakageRiskScore checks
  blockModelEvaluation := checks.any fun check =>
    isBlocking check && decide (check.blockAction = some .blockModelEvaluation)
  blockTraining := checks.any fun check =>
    isBlocking check && decide (check.blockAction = some .blockTraining)
  checks := checks

def runChecks (manifest : SplitManifest) (profile : Option (TabularProfileReport F))
    (rows : List IdentifiedRow) : List LeakageCheckResult :=
  let assignments := indexAssignments manifest
  [exactHashCheck rows assignments,
    groupKeyCheck rows assignments manifest.groupKey,
    targetLeakageCandidateCheck profile manifest]

def runSplitLeakageChecks (manifest : SplitManifest) (profile : Option (TabularProfileReport F))
    (t : Table) : Result (SplitLeakageReport F) := do
  guardOk (manifest.assignments ≠ [])
    (leakageError "empty_split_manifest" .invalidJobPayload
      "Split manifest does not contain any assignments.")
  let rows ← readLeakageRows t manifest.targetColumn
  verifyAssignmentsMatchRows (indexAssignments manifest) rows
  pure (buildReport manifest (runChecks manifest profile rows))

theorem readLeakageRows_eq_ok {t : Table} {targetColumn : NonEmptyStr} {rows : List IdentifiedRow} :
    readLeakageRows t targetColumn = .ok rows ↔
      (t.columns ≠ [] ∧ targetColumn.1 ∈ t.columns ∧ t.records ≠ []) ∧
        rows = identifiedRows t.records := by
  rw [readLeakageRows, bind_eq_ok]
  simp only [readRows_eq_ok, pure_eq, Except.ok.injEq]
  constructor
  · rintro ⟨records, ⟨hcolumns, htarget, hrecords, rfl⟩, rfl⟩
    exact ⟨⟨hcolumns, htarget, hrecords⟩, rfl⟩
  · rintro ⟨⟨hcolumns, htarget, hrecords⟩, rfl⟩
    exact ⟨t.records, ⟨hcolumns, htarget, hrecords, rfl⟩, rfl⟩

theorem runSplitLeakageChecks_eq_ok {manifest : SplitManifest}
    {profile : Option (TabularProfileReport F)} {t : Table} {report : SplitLeakageReport F} :
    runSplitLeakageChecks manifest profile t = .ok report ↔
      manifest.assignments ≠ [] ∧
        (t.columns ≠ [] ∧ manifest.targetColumn.1 ∈ t.columns ∧ t.records ≠ []) ∧
        verifyAssignmentsMatchRows (indexAssignments manifest) (identifiedRows t.records) = .ok () ∧
        report = buildReport manifest (runChecks manifest profile (identifiedRows t.records)) := by
  rw [runSplitLeakageChecks, check_bind_eq_ok, guardOk_eq_ok, bind_eq_ok]
  simp only [readLeakageRows_eq_ok, check_bind_eq_ok, pure_eq, Except.ok.injEq]
  constructor
  · rintro ⟨hassignments, rows, ⟨hread, rfl⟩, hverify, rfl⟩
    exact ⟨hassignments, hread, hverify, rfl⟩
  · rintro ⟨hassignments, hread, hverify, rfl⟩
    exact ⟨hassignments, _, ⟨hread, rfl⟩, hverify, rfl⟩

end Report

end DataForge.Plugins.Tabular.LeakageChecks
