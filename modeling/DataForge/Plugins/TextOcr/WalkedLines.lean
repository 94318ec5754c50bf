import DataForge.Foundation.Failures
import DataForge.Plugins.TextOcr.Validator

namespace DataForge.Plugins.TextOcr.WalkedLines

open DataForge.Foundation.Strings
open DataForge.Foundation.Lines
open DataForge.Foundation.Dictionary
open DataForge.Foundation.Canonical
open DataForge.Foundation.Grouping
open DataForge.Foundation.Json
open DataForge.Foundation.JsonReader
open DataForge.Foundation.Scores
open DataForge.Foundation.Sha256
open DataForge.Foundation.Outcome
open DataForge.Foundation.Failures
open DataForge.Domain.Common
open DataForge.Domain.Artifact
open DataForge.Domain.TextOcr
open DataForge.Plugins.TextOcr.Validator

variable {p : Platform} {loads : Text → Option Value} {F : Type} [MetricLike F]
  {parser : TextRecordParser}

section Numbers

theorem raisesOnly_parseConfidence (n : Nat) (objectId : Text) (payload : Dict Text Value) :
    RaisesOnly (fun issue : TextValidationIssue => issue.lineNumber = n)
      (parseConfidence (F := F) n objectId payload) := by
  rw [parseConfidence]
  split
  · exact .ok none
  · exact .ok none
  · split
    · split
      · exact .ok _
      · exact .error rfl
    · exact .error rfl

/-- An issue names the line it is about. -/
theorem raisesOnly_parseLine (n : Nat) (line : Text) :
    RaisesOnly (fun issue : TextValidationIssue => issue.lineNumber = n)
      (parseLine (F := F) p loads parser n line) := by
  rw [parseLine]
  split
  · exact .error rfl
  · exact .error rfl
  · rw [parseRecord]
    split
    · exact .error rfl
    · dsimp only
      split
      · refine .bind (.guard _ rfl) fun _ _ => .bind (.guard _ rfl) fun _ _ => ?_
        split
        · exact .bind (raisesOnly_parseConfidence n _ _) fun _ _ =>
            .bind (.guard _ rfl) fun _ _ => .ok _
        · exact .error rfl
      · exact .error rfl

/-- What a walk has after the lines with these numbers: each is the number of an issue or
counts for a record, and the records have ids of their own. -/
structure Counts (numbers : List Nat) (walk : Walk F) : Prop where
  issues : (walk.issues.map TextValidationIssue.lineNumber).Sublist numbers
  total : walk.records.length + walk.issues.length = numbers.length
  nodup : (walk.records.map ParsedRecord.objectId).Nodup
  seen : ∀ record ∈ walk.records, get? record.objectId.1 walk.seen ≠ none

omit [MetricLike F] in
theorem counts_issue {numbers : List Nat} {walk : Walk F} {issue : TextValidationIssue} {n : Nat}
    (h : Counts numbers walk) (hn : issue.lineNumber = n) :
    Counts (numbers ++ [n]) { walk with issues := walk.issues ++ [issue] } := by
  refine ⟨?_, ?_, h.nodup, h.seen⟩
  · rw [List.map_append, List.map_singleton, hn]
    exact h.issues.append (List.Sublist.refl [n])
  · rw [List.length_append, List.length_append, ← h.total]
    simp only [List.length_singleton]
    omega

omit [MetricLike F] in
theorem counts_record {numbers : List Nat} {walk : Walk F} {record : ParsedRecord F} {n : Nat}
    (h : Counts numbers walk) (hnew : get? record.objectId.1 walk.seen = none) :
    Counts (numbers ++ [n]) { walk with
      records := walk.records ++ [record]
      seen := DataForge.Foundation.Dictionary.set record.objectId.1 n walk.seen } := by
  refine ⟨?_, ?_, ?_, ?_⟩
  · exact h.issues.trans (List.sublist_append_left numbers [n])
  · rw [List.length_append, List.length_append, ← h.total]
    simp only [List.length_singleton]
    omega
  · rw [List.map_append, List.map_singleton, List.nodup_append]
    refine ⟨h.nodup, List.nodup_singleton _, fun id hid other hother heq => ?_⟩
    obtain ⟨kept, hkept, rfl⟩ := List.mem_map.mp hid
    rw [List.mem_singleton.mp hother] at heq
    exact h.seen kept hkept (heq ▸ hnew)
  · intro kept hkept
    rw [get?_set]
    split
    · exact Option.some_ne_none n
    · next hne =>
      rcases List.mem_append.mp hkept with hkept | hkept
      · exact h.seen kept hkept
      · exact absurd (by rw [List.mem_singleton.mp hkept]) hne

theorem counts_walkLine {numbers : List Nat} {walk : Walk F} {numbered : Text × Nat}
    (h : Counts numbers walk) : Counts (numbers ++ if Blank numbered.1 then [] else [numbered.2])
      (walkLine p loads parser walk numbered) := by
  rw [walkLine]
  split
  · rwa [List.append_nil]
  · split
    · next issue hparse => exact counts_issue h (raisesOnly_parseLine _ _ issue hparse)
    · split
      · exact counts_issue h rfl
      · next hnone => exact counts_record h hnone

/-- The lines that are not blank, by their numbers. -/
def lineNumbers (text : Text) : List Nat :=
  (((splitLines text).zipIdx 1).filter fun numbered => decide (¬ Blank numbered.1)).map Prod.snd

theorem counts_walkJsonl {data : Bytes} {text : Text} (h : decodeUtf8 data = some text) :
    Counts (lineNumbers text) (walkJsonl (F := F) p loads parser data) := by
  have hrun :
      ∀ (rest : List (Text × Nat)) (numbers : List Nat) (walk : Walk F), Counts numbers walk →
      Counts (numbers ++ (rest.filter fun numbered => decide (¬ Blank numbered.1)).map Prod.snd)
        (rest.foldl (walkLine p loads parser) walk) := by
    intro rest
    induction rest with
    | nil =>
      intro numbers walk hwalk
      rwa [List.filter_nil, List.map_nil, List.append_nil]
    | cons numbered rest ih =>
      intro numbers walk hwalk
      have hnext := ih _ _ (@counts_walkLine p loads F _ parser numbers walk numbered hwalk)
      by_cases hblank : Blank numbered.1
      · simpa [hblank] using hnext
      · simpa [hblank] using hnext
  rw [walkJsonl, h]
  exact hrun _ [] ⟨[], [], []⟩ ⟨List.Sublist.refl [], rfl, List.nodup_nil, by simp⟩

end Numbers

section Duplicates

omit [MetricLike F]

variable {records : List (ParsedRecord F)}

theorem mem_duplicateIds {id : NonEmptyStr} :
    id ∈ (buildDuplicateGroups records).flatMap TextDuplicateGroup.objectIds ↔
      ∃ record ∈ records, record.objectId = id ∧
        2 ≤ (records.filter fun other => other.normalizedTextHash =
          record.normalizedTextHash).length := by
  have hids : ∀ hash : Sha256Digest,
      ((records.map fun record => (record.normalizedTextHash, record.objectId)).filter
          fun item => item.1 = hash).map Prod.snd =
        (records.filter fun other => other.normalizedTextHash = hash).map
          ParsedRecord.objectId := by
    intro hash
    rw [List.filter_map, List.map_map]
    rfl
  rw [List.mem_flatMap]
  constructor
  · rintro ⟨group, hgroup, hid⟩
    obtain ⟨⟨hash, ids⟩, hitems, hsome⟩ := List.mem_filterMap.mp hgroup
    obtain ⟨hmem, hall⟩ := mem_groupItems_iff.mp ((sortedItems_perm _).mem_iff.mp hitems)
    rw [hids] at hall
    subst hall
    split at hsome
    · cases hsome
    · next hlong =>
      obtain rfl := Option.some.inj hsome
      have hid' := (List.perm_insertionSort _ _).mem_iff.mp hid
      obtain ⟨record, hrecord, rfl⟩ := List.mem_map.mp hid'
      obtain ⟨hrecord, hhash⟩ := List.mem_filter.mp hrecord
      refine ⟨record, hrecord, rfl, ?_⟩
      rw [of_decide_eq_true hhash]
      have hlong' := Nat.not_lt.mp hlong
      rwa [List.length_map] at hlong'
  · rintro ⟨record, hrecord, rfl, hlong⟩
    have hitems := mem_groupItems_iff.mpr ⟨List.mem_map.mpr
      ⟨(record.normalizedTextHash, record.objectId), List.mem_map.mpr ⟨record, hrecord, rfl⟩, rfl⟩,
      (hids record.normalizedTextHash).symm⟩
    have hid : record.objectId ∈ (records.filter fun other =>
        other.normalizedTextHash = record.normalizedTextHash).map ParsedRecord.objectId :=
      List.mem_map.mpr ⟨record, List.mem_filter.mpr ⟨hrecord, decide_eq_true rfl⟩, rfl⟩
    have hlong' : ¬ ((records.filter fun other =>
        other.normalizedTextHash = record.normalizedTextHash).map ParsedRecord.objectId).length <
          2 := by
      rwa [List.length_map, Nat.not_lt]
    exact ⟨_, List.mem_filterMap.mpr ⟨_, (sortedItems_perm _).mem_iff.mpr hitems, if_neg hlong'⟩,
      (List.perm_insertionSort _ _).mem_iff.mpr hid⟩

/-- The ids in the groups are those of the records whose text another record has too. -/
theorem mem_duplicateIds_iff (hnodup : (records.map ParsedRecord.objectId).Nodup)
    {id : NonEmptyStr} :
    id ∈ (buildDuplicateGroups records).flatMap TextDuplicateGroup.objectIds ↔
      ∃ record ∈ records, record.objectId = id ∧ ∃ other ∈ records,
        other.objectId ≠ id ∧ other.normalizedTextHash = record.normalizedTextHash := by
  rw [mem_duplicateIds]
  refine exists_congr fun record => and_congr_right fun hrecord => and_congr_right fun hid => ?_
  subst hid
  have hsame : record ∈ records.filter fun other =>
      other.normalizedTextHash = record.normalizedTextHash :=
    List.mem_filter.mpr ⟨hrecord, decide_eq_true rfl⟩
  have hkept : ((records.filter fun other =>
      other.normalizedTextHash = record.normalizedTextHash).map ParsedRecord.objectId).Nodup :=
    hnodup.sublist (List.filter_sublist.map _)
  constructor
  · intro hlong
    by_contra hnone
    push Not at hnone
    -- then the id of the record is the only one among those with its text
    have hall : ∀ x ∈ (records.filter fun other =>
        other.normalizedTextHash = record.normalizedTextHash).map ParsedRecord.objectId,
        x = record.objectId := by
      intro x hx
      obtain ⟨other, hother, rfl⟩ := List.mem_map.mp hx
      obtain ⟨hother, hhash⟩ := List.mem_filter.mp hother
      by_contra hne
      exact hnone other hother hne (of_decide_eq_true hhash)
    rw [List.eq_replicate_of_mem hall, List.nodup_replicate, List.length_map] at hkept
    omega
  · rintro ⟨other, hother, hne, hhash⟩
    have hmem : other ∈ records.filter fun other =>
        other.normalizedTextHash = record.normalizedTextHash :=
      List.mem_filter.mpr ⟨hother, decide_eq_true hhash⟩
    by_contra hshort
    have hone : (records.filter fun other =>
        other.normalizedTextHash = record.normalizedTextHash).length = 1 := by
      have := List.length_pos_of_mem hsame
      omega
    obtain ⟨only, honly⟩ := List.length_eq_one_iff.mp hone
    rw [honly, List.mem_singleton] at hsame hmem
    exact hne (by rw [hsame, hmem])

end Duplicates

end DataForge.Plugins.TextOcr.WalkedLines
