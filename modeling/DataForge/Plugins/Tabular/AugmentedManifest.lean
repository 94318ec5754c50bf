import DataForge.Foundation.Failures
import DataForge.Plugins.Tabular.SplitCreation
import DataForge.Plugins.Tabular.SyntheticCommon

namespace DataForge.Plugins.Tabular.AugmentedManifest

open DataForge.Foundation.Strings
open DataForge.Foundation.Outcome
open DataForge.Foundation.Failures
open DataForge.Foundation.Canonical
open DataForge.Foundation.Dictionary
open DataForge.Foundation.Grouping
open DataForge.Foundation.Tables
open DataForge.Domain.Common
open DataForge.Domain.Splits
open DataForge.Plugins.Tabular.Sources
open DataForge.Plugins.Tabular.Splits
open DataForge.Plugins.Tabular.SplitCreation
open DataForge.Plugins.Tabular.SyntheticCommon

section Distribution

variable {assignments added : List SplitAssignment} {split : DataSplit}

def labelsOf (assignments : List SplitAssignment) (split : DataSplit) : List Text :=
  (assignments.filter fun assignment => assignment.split = split).map fun assignment =>
    assignment.label.1

/-- One entry of a distribution, by the counts of its labels. -/
def entryOf (split : DataSplit) (total : Nat) (counts : Dict Text Nat) : SplitClassDistribution :=
  ⟨split, total, sortedItems counts,
    (sortedItems counts).map fun item => (item.1, classRatio total item.2)⟩

section Fields

variable {total : Nat} {counts : Dict Text Nat}

@[simp] theorem split_entryOf : (entryOf split total counts).split = split := rfl

@[simp] theorem totalCount_entryOf : (entryOf split total counts).totalCount = total := rfl

@[simp] theorem classCounts_entryOf :
    (entryOf split total counts).classCounts = sortedItems counts := rfl

end Fields

theorem classDistribution_eq (assignments : List SplitAssignment) : classDistribution assignments =
    splitOrder.map fun split =>
      entryOf split (labelsOf assignments split).length
        (counter (labelsOf assignments split)) := rfl

theorem labelsOf_append_train (h : ∀ assignment ∈ added, assignment.split = .train) :
    labelsOf (assignments ++ added) split =
      labelsOf assignments split ++
        if split = .train then added.map (fun a => a.label.1) else [] := by
  rw [labelsOf, List.filter_append, List.map_append, labelsOf]
  congr 1
  split
  · next htrain =>
    rw [List.filter_eq_self.mpr fun assignment hmem => by simp [h assignment hmem, htrain]]
  · next hother =>
    rw [List.filter_eq_nil_iff.mpr fun assignment
      hmem => by simp [h assignment hmem, Ne.symm hother]]
    rfl

/-- The entry of a split is looked up in the distribution. -/
theorem get?_entries {α : Type} (f : SplitClassDistribution → α) (hsplit : split ∈ splitOrder) :
    get? split (update [] ((classDistribution assignments).map fun item => (item.split, f item))) =
      some (f (entryOf split (labelsOf assignments split).length
        (counter (labelsOf assignments split)))) := by
  rw [classDistribution_eq, List.map_map]
  rcases split with _ | _ | _ | _ | _
  · rfl
  · rfl
  · rfl
  · exact absurd hsplit (by decide)
  · exact absurd hsplit (by decide)

theorem entryOf_congr {total : Nat} {counts counts' : Dict Text Nat}
    (hcounts : (counts.map Prod.fst).Nodup)
    (hcounts' : (counts'.map Prod.fst).Nodup)
    (h : ∀ label, get? label counts = get? label counts') :
    entryOf split total counts = entryOf split total counts' := by
  rw [entryOf, entryOf, (sortedItems_eq_iff hcounts hcounts').mpr h]

/-- The entry that the augmentation makes of an entry, by the counts and the total it finds. -/
theorem augmentedDistribution_map (distribution : List SplitClassDistribution)
    (labels : List Text) :
    augmentedDistribution distribution labels = distribution.map fun item =>
      let labelCounts : Dict DataSplit (Dict Text Nat) :=
        update [] (distribution.map fun item => (item.split, item.classCounts))
      let totalCounts : Dict DataSplit Nat :=
        update [] (distribution.map fun item => (item.split, item.totalCount))
      let trainCounts :=
        addCounts ((get? .train labelCounts).getD []) (labels.map fun label => (label, 1))
      let trainTotal := countOf .train totalCounts + labels.length
      entryOf item.split
        ((get? item.split (set .train trainTotal totalCounts)).getD item.totalCount)
        ((get? item.split (set .train trainCounts labelCounts)).getD item.classCounts) := by
  rw [augmentedDistribution]
  apply List.map_congr_left
  intro item _
  simp only [entryOf, sortedItems_map_values]

/-- Counting the new labels on the old entries gives the entries of all assignments. -/
theorem augmentedDistribution_eq (h : ∀ assignment ∈ added, assignment.split = .train) :
    augmentedDistribution (classDistribution assignments) (added.map fun a => a.label.1) =
      classDistribution (assignments ++ added) := by
  have hmap : ∀ f : SplitClassDistribution → SplitClassDistribution,
      (classDistribution assignments).map f = splitOrder.map fun split =>
        f (entryOf split (labelsOf assignments split).length
          (counter (labelsOf assignments split))) :=
    fun f => by rw [classDistribution_eq, List.map_map]; rfl
  rw [augmentedDistribution_map, hmap, classDistribution_eq (assignments ++ added)]
  apply List.map_congr_left
  intro split hsplit
  have htrain : DataSplit.train ∈ splitOrder := by decide
  have hnodup : ∀ split, ((counter (labelsOf assignments split)).map Prod.fst).Nodup :=
    fun split => nodup_keys_counter _
  simp only [split_entryOf, totalCount_entryOf, classCounts_entryOf, countOf, get?_set,
    get?_entries _ htrain, get?_entries _ hsplit, Option.getD_some, labelsOf_append_train h]
  by_cases hcase : split = .train
  · subst hcase
    have htotal : (labelsOf assignments .train ++ added.map fun a => a.label.1).length =
        (labelsOf assignments .train).length + (added.map fun a => a.label.1).length :=
          List.length_append
    rw [if_pos rfl, if_pos rfl, if_pos rfl, htotal]
    refine entryOf_congr (nodup_keys_addCounts (nodup_keys_sortedItems (hnodup .train)) _)
      (nodup_keys_counter _) fun label => ?_
    rw [counter_append]
    exact get?_addCounts_congr (get?_sortedItems (hnodup .train)) _ label
  · rw [if_neg (Ne.symm hcase), if_neg (Ne.symm hcase), if_neg hcase, List.append_nil]
    exact entryOf_congr (nodup_keys_sortedItems (hnodup split)) (hnodup split)
      (get?_sortedItems (hnodup split))

end Distribution

section Manifest

variable {manifest augmented : SplitManifest} {syntheticRows : List Row}
  {targetColumn : NonEmptyStr}
  {method : String}

/-- A manifest whose distribution is the count of its assignments. -/
def Consistent (manifest : SplitManifest) : Prop :=
  manifest.classDistribution = classDistribution manifest.assignments

/-- The assignment of a synthetic row: its id and its label in the training split. -/
def IsAssignmentOf (targetColumn : NonEmptyStr) (row : Row) (assignment : SplitAssignment) : Prop :=
  assignment.objectId.1 = cell objectIdColumn row ∧ assignment.split = .train ∧
    assignment.label = syntheticLabel targetColumn row ∧ assignment.groupValue = none

/-- The old assignments with one of each synthetic row, counted anew; the entries of the
other splits are the old ones. -/
structure Augments (manifest augmented : SplitManifest) (syntheticRows : List Row)
    (targetColumn : NonEmptyStr) : Prop where
  assignments : ∃ added, augmented.assignments = manifest.assignments ++ added ∧
    List.Forall₂ (IsAssignmentOf targetColumn) syntheticRows added
  consistent : Consistent augmented
  others : augmented.classDistribution.filter (fun item => item.split ≠ .train) =
    manifest.classDistribution.filter fun item => item.split ≠ .train

theorem syntheticAssignment_eq_ok {row : Row} {assignment : SplitAssignment}
    (h : syntheticAssignment targetColumn row = .ok assignment) :
    IsAssignmentOf targetColumn row assignment := by
  rw [syntheticAssignment] at h
  split at h
  · obtain rfl := Except.ok.inj h
    exact ⟨rfl, rfl, rfl, rfl⟩
  · cases h

theorem split_of_added {added : List SplitAssignment}
    (h : List.Forall₂ (IsAssignmentOf targetColumn) syntheticRows added) :
    ∀ assignment ∈ added, assignment.split = .train := by
  induction h with
  | nil => exact fun _ hmem => absurd hmem List.not_mem_nil
  | cons hrow _ ih => exact List.forall_mem_cons.mpr ⟨hrow.2.1, ih⟩

/-- The entries besides the training one do not see training assignments. -/
theorem filter_classDistribution {assignments added : List SplitAssignment}
    (h : ∀ assignment ∈ added, assignment.split = .train) :
    (classDistribution (assignments ++ added)).filter (fun item => item.split ≠ .train) =
      (classDistribution assignments).filter fun item => item.split ≠ .train := by
  have hentries : ∀ assignments : List SplitAssignment,
      (classDistribution assignments).filter (fun item => item.split ≠ .train) =
        [DataSplit.validation, .test].map fun split =>
          entryOf split (labelsOf assignments split).length
            (counter (labelsOf assignments split)) :=
    fun assignments => rfl
  rw [hentries, hentries]
  apply List.map_congr_left
  intro split hsplit
  have hother : split ≠ .train := by
    rintro rfl
    exact absurd hsplit (by decide)
  rw [labelsOf_append_train h, if_neg hother, List.append_nil]

theorem augments_of_ok (hconsistent : Consistent manifest)
    (h : buildAugmentedSplitManifest manifest syntheticRows targetColumn method = .ok augmented) :
    Augments manifest augmented syntheticRows targetColumn := by
  rw [buildAugmentedSplitManifest] at h
  split at h
  · next hnone =>
    obtain rfl := Except.ok.inj h
    subst hnone
    exact ⟨⟨[], (List.append_nil _).symm, .nil⟩, hconsistent, rfl⟩
  · obtain ⟨added, hadded, h⟩ := bind_eq_ok.mp h
    obtain rfl := Except.ok.inj h
    have hrows : List.Forall₂ (IsAssignmentOf targetColumn) syntheticRows added :=
      (mapM_eq_ok_iff_forall₂.mp hadded).imp fun _ _ => syntheticAssignment_eq_ok
    have htrain := split_of_added hrows
    have hcounted :
        augmentedDistribution manifest.classDistribution (added.map fun a => a.label.1) =
        classDistribution (manifest.assignments ++ added) := by
      rw [hconsistent]
      exact augmentedDistribution_eq htrain
    refine ⟨⟨added, rfl, hrows⟩, hcounted, ?_⟩
    show (augmentedDistribution manifest.classDistribution _).filter _ = _
    rw [hcounted, hconsistent]
    exact filter_classDistribution htrain

/-- A consistent manifest stays consistent under augmentation, which fails for a row
without an id only. -/
theorem augmented_consistent (hconsistent : Consistent manifest) :
    ((∃ augmented,
      buildAugmentedSplitManifest manifest syntheticRows targetColumn method = .ok augmented) ↔
        ∀ row ∈ syntheticRows, cell objectIdColumn row ≠ []) ∧
      ∀ augmented, buildAugmentedSplitManifest manifest syntheticRows targetColumn method =
        .ok augmented →
        Augments manifest augmented syntheticRows targetColumn := by
  refine ⟨⟨?_, fun hids => ?_⟩, fun augmented => augments_of_ok hconsistent⟩
  · rintro ⟨augmented, h⟩ row hrow hid
    rw [buildAugmentedSplitManifest, if_neg (List.ne_nil_of_mem hrow)] at h
    obtain ⟨added, hadded, -⟩ := bind_eq_ok.mp h
    have herror : ∃ e, syntheticAssignment targetColumn row = .error e :=
      ⟨_, by rw [syntheticAssignment, dif_neg (not_not.mpr hid)]⟩
    obtain ⟨e, he⟩ := exists_mapM_error hrow herror
    rw [he] at hadded
    cases hadded
  · rw [buildAugmentedSplitManifest]
    split
    · exact ⟨_, rfl⟩
    · obtain ⟨added, hadded⟩ :=
        exists_mapM_ok (f := syntheticAssignment targetColumn) fun row hrow =>
        ⟨_, by rw [syntheticAssignment, dif_pos (hids row hrow)]⟩
      rw [hadded]
      exact ⟨_, rfl⟩

end Manifest

section Example

def countedManifest : SplitManifest where
  splitManifestId := "split".toList
  targetColumn := literal "label"
  seed := 42
  groupKey := none
  assignments := [⟨literal "a", .train, literal "1", none⟩, ⟨literal "b", .test, literal "0", none⟩]
  classDistribution :=
    classDistribution
      [⟨literal "a", .train, literal "1", none⟩, ⟨literal "b", .test, literal "0", none⟩]

def syntheticRow : Row := [(objectIdColumn, "s".toList), ("label".toList, "1".toList)]

theorem augmented_countedManifest :
    ((∃ augmented,
      buildAugmentedSplitManifest countedManifest [syntheticRow] (literal "label") "smote" =
        .ok augmented) ↔ ∀ row ∈ [syntheticRow], cell objectIdColumn row ≠ []) ∧
      ∀ augmented,
        buildAugmentedSplitManifest countedManifest [syntheticRow] (literal "label") "smote" =
        .ok augmented → Augments countedManifest augmented [syntheticRow] (literal "label") :=
  augmented_consistent rfl

end Example

end DataForge.Plugins.Tabular.AugmentedManifest
