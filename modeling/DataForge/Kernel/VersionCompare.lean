import DataForge.Domain.Profile
import DataForge.Plugins.Tabular.Duplicates
import DataForge.Plugins.Tabular.Imputation

namespace DataForge.Kernel.VersionCompare

open DataForge.Foundation.Numbers
open DataForge.Foundation.Scores
open DataForge.Domain.Common
open DataForge.Domain.Profile
open DataForge.Plugins.Tabular.Duplicates
open DataForge.Plugins.Tabular.Imputation

section Reports

structure ObjectCountDiff where
  before : Nat
  after : Nat
  delta : Int

structure ChangedObjectsBlock where
  changedObjectsTotal : Nat
  imputedObjectCount : Nat
  duplicateMarkedCount : Nat
  duplicateRemovedCount : Nat
  redactedObjectCount : Nat
  syntheticAddedCount : Nat
  removedOrBlockedCount : Nat

structure TabularImputationReport where
  columns : List ImputationColumnReport

/-- The part of a synthesis report that a comparison reads. -/
structure SyntheticDatasetReport where
  generatedCount : Nat

end Reports

section Counts

variable {F : Type} [ScoreLike F]

def buildObjectCounts (baseline candidate : Option (TabularProfileReport F)) : ObjectCountDiff :=
  let before := (baseline.map TabularProfileReport.rowCount).getD 0
  let after := (candidate.map TabularProfileReport.rowCount).getD before
  ⟨before, after, after - before⟩

def imputedCount (imputation : Option TabularImputationReport) : Nat :=
  (imputation.map fun report => (report.columns.map ImputationColumnReport.imputedCount).sum).getD 0

def duplicateMarked (duplicates : Option DuplicateActionReport) : Nat :=
  ((duplicates.filter fun report => report.mode = .mark).map
    DuplicateActionReport.markedCount).getD 0

def duplicateRemoved (duplicates : Option DuplicateActionReport) : Nat :=
  ((duplicates.filter fun report => report.mode = .removeCandidate).map
    DuplicateActionReport.removedCount).getD 0

def syntheticAdded (synthetic : Option SyntheticDatasetReport) : Nat :=
  (synthetic.map SyntheticDatasetReport.generatedCount).getD 0

/-- Truncated subtraction is `max(0, after - before)`. -/
def redactedRecordDelta : Option TextOcrReport → Option TextOcrReport → Nat
  | some before, some after => after.totalRedactedRecordCount - before.totalRedactedRecordCount
  | _, _ => 0

def removedOrBlocked (delta : Int) (syntheticAdded duplicateRemoved : Nat) : Int :=
  let gap := max 0 ((if syntheticAdded = 0 then -delta else 0) - duplicateRemoved)
  if 0 < duplicateRemoved ∧ delta < 0 then max gap (-delta - duplicateRemoved) else gap

def buildChangedObjects (imputation : Option TabularImputationReport)
    (duplicates : Option DuplicateActionReport) (synthetic : Option SyntheticDatasetReport)
    (textOcrBefore textOcrAfter : Option TextOcrReport) (objectCounts : ObjectCountDiff) :
    ChangedObjectsBlock :=
  let imputed := imputedCount imputation
  let marked := duplicateMarked duplicates
  let removed := duplicateRemoved duplicates
  let added := syntheticAdded synthetic
  let redacted := redactedRecordDelta textOcrBefore textOcrAfter
  let lost := (removedOrBlocked objectCounts.delta added removed).toNat
  ⟨imputed + marked + removed + redacted + added + lost, imputed, marked, removed, redacted,
    added, lost⟩

end Counts

section Accounting

/-- Every row of the baseline and every generated one is in the candidate, removed as a
duplicate or counted as lost, and the total counts each change once. -/
structure AccountsForRows (counts : ObjectCountDiff) (block : ChangedObjectsBlock) : Prop where
  lost : (block.removedOrBlockedCount : Int) =
    max 0 ((counts.before : Int) + block.syntheticAddedCount - block.duplicateRemovedCount -
      counts.after)
  total : block.changedObjectsTotal = block.imputedObjectCount + block.duplicateMarkedCount +
    block.duplicateRemovedCount + block.redactedObjectCount + block.syntheticAddedCount +
    block.removedOrBlockedCount

theorem removedOrBlocked_nonneg (delta : Int) (added removed : Nat) :
    0 ≤ removedOrBlocked delta added removed := by
  rw [removedOrBlocked]
  split <;> omega

theorem removedOrBlocked_zero (delta : Int) (removed : Nat) :
    removedOrBlocked delta 0 removed = max 0 (-delta - removed) := by
  rw [removedOrBlocked, if_pos rfl]
  split <;> omega

/-- Beside generated rows a loss is not counted in full. -/
theorem removedOrBlocked_le (delta : Int) {added : Nat} (hadded : 0 < added) (removed : Nat) :
    removedOrBlocked delta added removed ≤ max 0 (-delta - removed) := by
  rw [removedOrBlocked, if_neg (Nat.ne_of_gt hadded)]
  split <;> omega

theorem removedOrBlocked_eq_iff (before after added removed : Nat) :
    removedOrBlocked (after - before) added removed =
      max 0 ((before : Int) + added - removed - after) ↔
      added = 0 ∨ before + added ≤ removed + after := by
  obtain rfl | hadded := Nat.eq_zero_or_pos added
  · rw [removedOrBlocked_zero]
    simp only [true_or, iff_true]
    congr 1
    omega
  · have hle := removedOrBlocked_le (after - before) hadded removed
    have hnonneg := removedOrBlocked_nonneg (after - before) added removed
    constructor
    · intro h
      omega
    · rintro (h | h) <;> omega

variable {F : Type} [ScoreLike F] (baseline candidate : Option (TabularProfileReport F))
  (imputation : Option TabularImputationReport) (duplicates : Option DuplicateActionReport)
  (synthetic : Option SyntheticDatasetReport) (textOcrBefore textOcrAfter : Option TextOcrReport)

theorem delta_buildObjectCounts : (buildObjectCounts baseline candidate).delta =
    (buildObjectCounts baseline candidate).after -
      (buildObjectCounts baseline candidate).before := rfl

/-- The comparison accounts for every row exactly when nothing was generated or nothing
was lost. -/
theorem accountsForRows_iff :
    AccountsForRows (buildObjectCounts baseline candidate)
        (buildChangedObjects imputation duplicates synthetic textOcrBefore textOcrAfter
          (buildObjectCounts baseline candidate)) ↔
      syntheticAdded synthetic = 0 ∨
        (buildObjectCounts baseline candidate).before + syntheticAdded synthetic ≤
          duplicateRemoved duplicates + (buildObjectCounts baseline candidate).after := by
  have hnat :
      (((removedOrBlocked (buildObjectCounts baseline candidate).delta (syntheticAdded synthetic)
      (duplicateRemoved duplicates)).toNat : Nat) : Int) = _ :=
    Int.toNat_of_nonneg (removedOrBlocked_nonneg _ _ _)
  rw [delta_buildObjectCounts] at hnat
  rw [← removedOrBlocked_eq_iff]
  constructor
  · rintro ⟨hlost, -⟩
    exact hnat.symm.trans hlost
  · intro h
    exact ⟨hnat.trans h, rfl⟩

def profileOf (rowCount : Nat) : TabularProfileReport ℚ where
  rowCount := rowCount
  columnCount := 0
  nullCounts := []
  missingness := none
  duplicateObjectIds := none
  classImbalance := none
  leakageCandidates := none
  businessRulePassRates := none
  lineage := ⟨literal "d", literal "v2", literal "v1", literal "job", zeroDigest, literal "source",
    zeroDigest⟩

/-- Of a hundred rows fifteen are lost while ten are generated, and none is counted. -/
theorem lost_beside_generated : ¬ AccountsForRows
    (buildObjectCounts (some (profileOf 100)) (some (profileOf 95)))
    (buildChangedObjects none none (some ⟨10⟩) none none
      (buildObjectCounts (some (profileOf 100)) (some (profileOf 95)))) := by
  rintro ⟨hlost, -⟩
  exact absurd hlost (by decide)

end Accounting

end DataForge.Kernel.VersionCompare
