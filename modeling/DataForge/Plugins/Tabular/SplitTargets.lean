import DataForge.Foundation.Runs
import DataForge.Plugins.Tabular.Splits

namespace DataForge.Plugins.Tabular.SplitTargets

open DataForge.Foundation.Loops
open DataForge.Foundation.Numbers
open DataForge.Domain.Splits
open DataForge.Plugins.Tabular.Splits

section Steps

variable {targets : Targets}

theorem total_eq (targets : Targets) :
    targets.total = targets .train + targets .validation + targets .test := by
  simp [Targets.total, splitOrder, add_assoc]

theorem total_change {split : DataSplit} (h : split ∈ splitOrder) (n : Int) :
    (targets.change split n).total = targets.total + n := by
  rw [total_eq, total_eq]
  simp only [splitOrder, List.mem_cons, List.not_mem_nil, or_false] at h
  obtain rfl | rfl | rfl := h
  · simp [Targets.change]
    omega
  · simp [Targets.change]
    omega
  · simp [Targets.change]
    omega

def largest (targets : Targets) : DataSplit :=
  maxBy (fun a b => decide (a < b)) targets .train [.validation, .test]

def smallest (targets : Targets) : DataSplit :=
  minBy (fun a b => decide (a < b)) targets .train [.validation, .test]

theorem largest_mem (targets : Targets) : largest targets ∈ splitOrder := mem_maxBy _ _ _ _

theorem smallest_mem (targets : Targets) : smallest targets ∈ splitOrder := mem_minBy _ _ _ _

theorem le_largest (targets : Targets) : targets .train ≤ targets (largest targets) ∧
    targets .validation ≤ targets (largest targets) ∧ targets .test ≤
      targets (largest targets) := by
  simp only [largest, maxBy, List.foldl_cons, List.foldl_nil]
  split_ifs <;> simp_all <;> omega

theorem total_lowerLargest : (lowerLargest targets).total = targets.total - 1 :=
  total_change (largest_mem targets) (-1)

theorem total_raiseSmallest : (raiseSmallest targets).total = targets.total + 1 :=
  total_change (smallest_mem targets) 1

/-- Each of the three targets is at least this large. -/
def AtLeast (bound : Int) (targets : Targets) : Prop := ∀ split ∈ splitOrder, bound ≤ targets split

/-- More is shared out than three times the bound, so that the largest target lies above it. -/
theorem atLeast_lowerLargest {bound : Int} (h : AtLeast bound targets)
    (hexcess : 3 * bound < targets.total) : AtLeast bound (lowerLargest targets) := by
  obtain ⟨htrain, hvalidation, htest⟩ := le_largest targets
  rw [total_eq] at hexcess
  intro split hsplit
  have hbound := h split hsplit
  change bound ≤ targets.change (largest targets) (-1) split
  rw [Targets.change]
  by_cases heq : split = largest targets
  · rw [if_pos heq, heq]
    omega
  · rw [if_neg heq]
    exact hbound

theorem atLeast_raiseSmallest {bound : Int} (h : AtLeast bound targets) :
    AtLeast bound (raiseSmallest targets) := by
  intro split hsplit
  have hbound := h split hsplit
  change bound ≤ targets.change (smallest targets) 1 split
  rw [Targets.change]
  split <;> omega

end Steps

section Runs

variable {totalCount : Int}

/-- The condition of the first loop. -/
def Above (totalCount : Int) (targets : Targets) : Prop := totalCount < targets.total

/-- The condition of the second loop. -/
def Below (totalCount : Int) (targets : Targets) : Prop := targets.total < totalCount

instance : DecidablePred (Above totalCount) :=
  fun targets => inferInstanceAs (Decidable (_ < targets.total))

instance : DecidablePred (Below totalCount) :=
  fun targets => inferInstanceAs (Decidable (targets.total < _))

theorem lowerWhile_eq (n : Nat) (targets : Targets) :
    lowerWhile totalCount n targets = turns (Above totalCount) lowerLargest n targets := by
  induction n generalizing targets with
  | zero => rfl
  | succ n ih =>
    rw [lowerWhile, turns, ih]
    rfl

theorem raiseWhile_eq (n : Nat) (targets : Targets) :
    raiseWhile totalCount n targets = turns (Below totalCount) raiseSmallest n targets := by
  induction n generalizing targets with
  | zero => rfl
  | succ n ih =>
    rw [raiseWhile, turns, ih]
    rfl

theorem loop_lower (targets : Targets) : Loop (Above totalCount) lowerLargest targets
    (lowerWhile totalCount (targets.total - totalCount).toNat targets) := by
  rw [lowerWhile_eq]
  refine loop_turns (fun targets => (targets.total - totalCount).toNat) (fun s hs => ?_) (le_refl _)
  rw [Above] at hs
  rw [total_lowerLargest]
  omega

theorem loop_raise (targets : Targets) : Loop (Below totalCount) raiseSmallest targets
    (raiseWhile totalCount (totalCount - targets.total).toNat targets) := by
  rw [raiseWhile_eq]
  refine loop_turns (fun targets => (totalCount - targets.total).toNat) (fun s hs => ?_) (le_refl _)
  rw [Below] at hs
  rw [total_raiseSmallest]
  omega

/-- A run of `_rebalance_targets`: the first loop, and then the second. -/
def Rebalances (totalCount : Int) (targets result : Targets) : Prop :=
  ∃ lowered, Loop (Above totalCount) lowerLargest targets lowered ∧
    Loop (Below totalCount) raiseSmallest lowered result

theorem rebalances (targets : Targets) :
    Rebalances totalCount targets (rebalanceTargets targets totalCount) :=
  ⟨_, loop_lower targets, loop_raise _⟩

theorem total_of_rebalances {targets result : Targets} (h : Rebalances totalCount targets result) :
    result.total = totalCount := by
  obtain ⟨lowered, hlower, hraise⟩ := h
  have hnotAbove : ¬ Above totalCount lowered := hlower.left
  have hnotAbove' : ¬ Above totalCount result := by
    refine hraise.invariant (I := fun targets => ¬ Above totalCount targets) hnotAbove fun u
      hu _ => ?_
    rw [Below] at hu
    rw [Above, total_raiseSmallest]
    omega
  have hnotBelow : ¬ Below totalCount result := hraise.left
  rw [Above] at hnotAbove'
  rw [Below] at hnotBelow
  omega

theorem atLeast_of_rebalances {bound : Int} {targets result : Targets}
    (hbound : 3 * bound ≤ totalCount)
    (hstart : AtLeast bound targets) (h : Rebalances totalCount targets result) :
    AtLeast bound result := by
  obtain ⟨lowered, hlower, hraise⟩ := h
  have hlowered : AtLeast bound lowered :=
    hlower.invariant hstart fun u hu hI => atLeast_lowerLargest hI (hbound.trans_lt hu)
  exact hraise.invariant hlowered fun u _ hI => atLeast_raiseSmallest hI

end Runs

section Results

variable {F : Type} [FloatLike F]

/-- `max(1, round(total_count * ratio))`. -/
def startTargets (totalCount : Nat) (ratios : DataSplit → F) : Targets := fun split =>
  max 1 (FloatLike.round (FloatLike.mul (FloatLike.ofInt totalCount) (ratios split)))

theorem atLeast_startTargets (totalCount : Nat) (ratios : DataSplit → F) :
    AtLeast 1 (startTargets totalCount ratios) := fun _ _ => le_max_left _ _

/-- Whatever the ratios and their rounding, the two loops are left in the targets of the model, and in no
others; these share out the rows. -/
theorem rebalanceTargets_spec (totalCount : Nat) (ratios : DataSplit → F) (h : 1 ≤ totalCount) :
    (∀ result, Rebalances totalCount (startTargets totalCount ratios) result ↔
      result = rebalanceTargets (startTargets totalCount ratios) totalCount) ∧
    (rebalanceTargets (startTargets totalCount ratios) totalCount).total = totalCount ∧
    AtLeast 0 (rebalanceTargets (startTargets totalCount ratios) totalCount) ∧
    (3 ≤ totalCount →
      AtLeast 1 (rebalanceTargets (startTargets totalCount ratios) totalCount)) := by
  have hrun : Rebalances totalCount (startTargets totalCount ratios)
      (rebalanceTargets (startTargets totalCount ratios) totalCount) := rebalances _
  have hstart := atLeast_startTargets totalCount ratios
  refine ⟨fun result => ⟨?_, fun heq => heq ▸ hrun⟩, total_of_rebalances hrun, ?_, fun hthree => ?_⟩
  · rintro ⟨lowered, hlower, hraise⟩
    obtain ⟨lowered', hlower', hraise'⟩ := hrun
    obtain rfl := hlower.unique hlower'
    exact hraise.unique hraise'
  · exact atLeast_of_rebalances (by omega)
      (fun split hsplit => zero_le_one.trans (hstart split hsplit)) hrun
  · exact atLeast_of_rebalances (by omega) hstart hrun

def quarters : DataSplit → ℚ
  | .train => 1 / 2
  | _ => 1 / 4

/-- Two rows for three splits: one of them is left without. -/
theorem rebalanceTargets_two : (rebalanceTargets (startTargets 2 quarters) 2).total = 2 ∧
    AtLeast 0 (rebalanceTargets (startTargets 2 quarters) 2) :=
  ⟨(rebalanceTargets_spec 2 quarters (by decide)).2.1,
    (rebalanceTargets_spec 2 quarters (by decide)).2.2.1⟩

end Results

end DataForge.Plugins.Tabular.SplitTargets
