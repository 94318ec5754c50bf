import DataForge.Foundation.Canonical
import DataForge.Foundation.Grouping
import DataForge.Plugins.Tabular.Sources

namespace DataForge.Plugins.Tabular.Duplicates

open DataForge.Foundation.Strings
open DataForge.Foundation.Outcome
open DataForge.Foundation.Dictionary
open DataForge.Foundation.Canonical
open DataForge.Foundation.Grouping
open DataForge.Foundation.Tables
open DataForge.Domain.Common
open DataForge.Plugins.Tabular.Sources

def isDuplicateCandidateColumn : Text := "is_duplicate_candidate".toList

def duplicateGroupIdColumn : Text := "duplicate_group_id".toList

def isDuplicateKeptColumn : Text := "is_duplicate_kept".toList

def markerColumns : List Text :=
  [isDuplicateCandidateColumn, duplicateGroupIdColumn, isDuplicateKeptColumn]

def duplicateError (reasonCode : String) (message : String)
    (code : ErrorCode := .actionPlanPreconditionFailed) : Raised :=
  .reasoned "DuplicateActionError" reasonCode code none message

inductive DuplicateActionMode where
  | mark
  | removeCandidate
deriving DecidableEq

def DuplicateActionMode.value : DuplicateActionMode → Text
  | .mark => "MARK_DUPLICATE_CANDIDATES".toList
  | .removeCandidate => "REMOVE_DUPLICATES".toList

structure DuplicateGroupSummary where
  groupId : Text
  signatureHash : Text
  affectedObjectIds : List Text
  keptObjectId : Text
  removedObjectIds : List Text
  markedObjectIds : List Text

structure DuplicateActionReport where
  mode : DuplicateActionMode
  idColumn : NonEmptyStr
  signatureColumns : List Text
  beforeRowCount : Nat
  afterRowCount : Nat
  beforeDuplicatePairCount : Nat
  beforeDuplicateGroupCount : Nat
  afterDuplicatePairCount : Nat
  afterDuplicateGroupCount : Nat
  markedCount : Nat
  removedCount : Nat
  groups : List DuplicateGroupSummary

structure ExecuteTabularDuplicatesRequest where
  stepType : Text
  sourceHash : Sha256Digest
  idColumn : NonEmptyStr
  signatureColumns : Option (List NonEmptyStr)

structure ExecuteTabularDuplicatesResult where
  report : DuplicateActionReport
  candidate : Table

section Groups

/-- A row of a group: its position and its id. -/
abbrev Member := Nat × NonEmptyStr

def memberOf (idColumn : NonEmptyStr) (item : Row × Nat) : Member :=
  (item.2, if h : cell idColumn.1 item.1 ≠ [] then ⟨cell idColumn.1 item.1, h⟩
    else fallbackId item.2)

def resolveSignatureColumns (columns : List Text) (explicit : Option (List NonEmptyStr))
    (idColumn : NonEmptyStr) : List Text :=
  match explicit with
  | some listed => ((listed.map Subtype.val).filter fun column =>
      column ∈ columns ∧ column ≠ idColumn.1).eraseDups
  | none => (columns.filter (· ≠ idColumn.1)).insertionSort (· ≤ ·)

def rowSignature (signatureColumns : List Text) (row : Row) : Text :=
  "sha256:".toList ++ signature signatureColumns row

def groupBySignature (rows : List Row) (idColumn : NonEmptyStr) (signatureColumns : List Text) :
    Dict Text (List Member) :=
  groupItems
    (rows.zipIdx.map fun item => (rowSignature signatureColumns item.1, memberOf idColumn item))

def duplicateGroups (rows : List Row) (idColumn : NonEmptyStr) (signatureColumns : List Text) :
    List (Text × List Member) :=
  (sortedItems (groupBySignature rows idColumn signatureColumns)).filter fun group => 2 ≤
    group.2.length

/-- The least id, and the first position among equal ones. -/
def memberLe (a b : Member) : Prop := a.2.1 < b.2.1 ∨ a.2.1 = b.2.1 ∧ a.1 ≤ b.1

instance : DecidableRel memberLe := fun _ _ => inferInstanceAs (Decidable (_ ∨ _))

def canonicalMember (members : List Member) : Option Member :=
  (members.insertionSort memberLe).head?

def groupIdOf (index : Nat) : Text := "duplicate_group_".toList ++ zeroPadded 4 index

def idsOf (members : List Member) : List Text := members.map fun member => member.2.1

def others (group : Text × List Member) (differs : Member → Member → Bool) : List Member :=
  group.2.filter fun member => (canonicalMember group.2).any (differs member)

def summary (item : (Text × List Member) × Nat) (removed marked : List Member) :
    DuplicateGroupSummary where
  groupId := groupIdOf item.2
  signatureHash := item.1.1
  affectedObjectIds := sortedSet (idsOf item.1.2)
  keptObjectId := ((canonicalMember item.1.2).map fun member => member.2.1).getD []
  removedObjectIds := sortedSet (idsOf removed)
  markedObjectIds := sortedSet (idsOf marked)

end Groups

section Mark

def setMarkers (candidate groupId kept : Text) (row : Row) : Row :=
  set isDuplicateKeptColumn kept (set duplicateGroupIdColumn groupId
    (set isDuplicateCandidateColumn candidate row))

def sameId (member canonical : Member) : Bool := decide (member.2 = canonical.2)

/-- The row of one member of a group, marked. -/
def markMember (item : (Text × List Member) × Nat) (rows : List Row) (member : Member) : List Row :=
  rows.modify member.1 (setMarkers "1".toList (groupIdOf item.2)
    (if (canonicalMember item.1.2).any (sameId member) then "1".toList else "0".toList))

def buildMarkOutput (rows : List Row) (groups : List (Text × List Member)) : List Row :=
  groups.zipIdx.foldl (fun rows item => item.1.2.foldl (markMember item) rows)
    (rows.map (setMarkers "0".toList [] []))

def candidateColumnsForMark (columns : List Text) : List Text :=
  columns ++ markerColumns.filter fun column => column ∉ columns

end Mark

section Remove

def samePosition (member canonical : Member) : Bool := decide (member.1 = canonical.1)

def dropIndices (groups : List (Text × List Member)) : List Nat :=
  groups.flatMap fun group => (others group fun a b => !samePosition a b).map Prod.fst

def buildRemoveOutput (rows : List Row) (groups : List (Text × List Member)) : List Row :=
  (rows.zipIdx.filter fun item => item.2 ∉ dropIndices groups).map Prod.fst

end Remove

section Execution

def resolveMode (stepType : Text) : Result DuplicateActionMode :=
  if stepType = DuplicateActionMode.mark.value then .ok .mark
  else if stepType = DuplicateActionMode.removeCandidate.value then .ok .removeCandidate
  else .error (duplicateError "unsupported_action_step_type"
    "Duplicate executor only handles MARK_DUPLICATE_CANDIDATES and REMOVE_DUPLICATES steps.")

def pairCount (groups : List (Text × List Member)) : Nat :=
  (groups.map fun group => group.2.length - 1).sum

def markResult (rows : List Row) (columns : List Text) (idColumn : NonEmptyStr)
    (signatureColumns : List Text) : ExecuteTabularDuplicatesResult :=
  let groups := duplicateGroups rows idColumn signatureColumns
  let marked := fun group => others group fun a b => !sameId a b
  { report :=
      { mode := .mark
        idColumn := idColumn
        signatureColumns := signatureColumns
        beforeRowCount := rows.length
        afterRowCount := rows.length
        beforeDuplicatePairCount := pairCount groups
        beforeDuplicateGroupCount := groups.length
        afterDuplicatePairCount := pairCount groups
        afterDuplicateGroupCount := groups.length
        markedCount := (sortedSet (groups.flatMap fun group => idsOf (marked group))).length
        removedCount := 0
        groups := groups.zipIdx.map fun item => summary item [] (marked item.1) }
    candidate := Table.write (candidateColumnsForMark columns) (buildMarkOutput rows groups) }

def removeResult (rows : List Row) (columns : List Text) (idColumn : NonEmptyStr)
    (signatureColumns : List Text) : ExecuteTabularDuplicatesResult :=
  let groups := duplicateGroups rows idColumn signatureColumns
  let removed := fun group => others group fun a b => !samePosition a b
  let kept := buildRemoveOutput rows groups
  { report :=
      { mode := .removeCandidate
        idColumn := idColumn
        signatureColumns := signatureColumns
        beforeRowCount := rows.length
        afterRowCount := kept.length
        beforeDuplicatePairCount := pairCount groups
        beforeDuplicateGroupCount := groups.length
        afterDuplicatePairCount := 0
        afterDuplicateGroupCount := 0
        markedCount := 0
        removedCount := (groups.flatMap removed).length
        groups := groups.zipIdx.map fun item => summary item (removed item.1) [] }
    candidate := Table.write columns kept }

def executeTabularDuplicatesAction (request : ExecuteTabularDuplicatesRequest)
    (source : StoredFile) :
    Result ExecuteTabularDuplicatesResult := do
  let mode ← resolveMode request.stepType
  guardOk (sha256 source.data = request.sourceHash.1)
    (duplicateError "source_artifact_hash_mismatch"
      "Source artifact content does not match the request hash." .contractValidationFailed)
  let t ← source.table
  guardOk (t.columns ≠ [])
    (duplicateError "empty_tabular_source" "Source CSV has no header columns." .invalidJobPayload)
  guardOk (t.records ≠ [])
    (duplicateError "empty_tabular_source" "Source CSV has no data rows." .invalidJobPayload)
  guardOk (request.idColumn.1 ∈ t.columns)
    (duplicateError "id_column_not_found" "Configured id_column is not present in source CSV.")
  let signatureColumns :=
    resolveSignatureColumns t.columns request.signatureColumns request.idColumn
  guardOk (signatureColumns ≠ [])
    (duplicateError "no_signature_columns"
      "Duplicate detection requires at least one non-id signature column.")
  pure <| match mode with
    | .mark => markResult t.records t.columns request.idColumn signatureColumns
    | .removeCandidate => removeResult t.records t.columns request.idColumn signatureColumns

end Execution

end DataForge.Plugins.Tabular.Duplicates
