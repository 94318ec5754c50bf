import DataForge.Domain.Splits
import DataForge.Foundation.Grouping
import DataForge.Foundation.Numbers
import Mathlib.Data.List.Lex
import Mathlib.Data.List.Sort

namespace DataForge.Plugins.Tabular.Splits

open DataForge.Foundation.Strings
open DataForge.Foundation.Outcome
open DataForge.Foundation.Dictionary
open DataForge.Foundation.Grouping
open DataForge.Foundation.Numbers
open DataForge.Domain.Common
open DataForge.Domain.Splits

/-- The reader gives every row an id and refuses an empty label. -/
structure TabularRow where
  objectId : NonEmptyStr
  label : NonEmptyStr
  groupValue : Option Text
deriving DecidableEq

structure Group where
  groupValue : Option Text
  rows : List TabularRow
  labelCounts : Dict Text Nat

def Group.size (g : Group) : Nat := g.rows.length

def Group.primaryLabel (g : Group) : Text :=
  if contains "1".toList g.labelCounts then "1".toList
  else ((g.labelCounts.insertionSort fun a b => b.2 < a.2 ∨ a.2 = b.2 ∧ a.1 ≤ b.1).head?.map
    Prod.fst).getD []

section Groups

def rowPrefix : Text := "__row_".toList

def rowKey (index : Nat) (row : TabularRow) : Text :=
  row.groupValue.getD (rowPrefix ++ zeroPadded 6 index)

def group (key : Text) (rows : List TabularRow) : Group where
  groupValue := if rowPrefix.isPrefixOf key then none else some key
  rows := rows
  labelCounts := counter (rows.map fun row => row.label.1)

def groups (rows : List TabularRow) : List Group :=
  (groupItems (rows.mapIdx fun i row => (rowKey i row, row))).map fun entry => group entry.1 entry.2

/-- What `random.Random(seed).shuffle` does to the groups. -/
structure Shuffle where
  run : List Group → List Group
  perm : ∀ gs, (run gs).Perm gs

def rareFirst (g h : Group) : Prop := g.primaryLabel = "1".toList ∧ h.primaryLabel ≠ "1".toList

def sameRarity (g h : Group) : Prop := g.primaryLabel = "1".toList ↔ h.primaryLabel = "1".toList

instance (g h : Group) : Decidable (rareFirst g h) := inferInstanceAs (Decidable (_ ∧ _))

instance (g h : Group) : Decidable (sameRarity g h) := inferInstanceAs (Decidable (_ ↔ _))

def orderGroups (shuffle : Shuffle) (gs : List Group) : List Group :=
  let ordered := gs.insertionSort fun g h =>
    rareFirst g h ∨ sameRarity g h ∧ g.groupValue.getD [] ≤ h.groupValue.getD []
  (shuffle.run ordered).insertionSort fun g h => rareFirst g h ∨ sameRarity g h ∧ h.size ≤ g.size

end Groups

section Targets

def splitOrder : List DataSplit := [.train, .validation, .test]

abbrev Targets := DataSplit → Int

def Targets.total (targets : Targets) : Int := (splitOrder.map targets).sum

def Targets.change (targets : Targets) (split : DataSplit) (n : Int) : Targets := fun s =>
  if s = split then targets s + n else targets s

def lowerLargest (targets : Targets) : Targets :=
  targets.change (maxBy (fun a b => decide (a < b)) targets .train [.validation, .test]) (-1)

def raiseSmallest (targets : Targets) : Targets :=
  targets.change (minBy (fun a b => decide (a < b)) targets .train [.validation, .test]) 1

def lowerWhile (totalCount : Int) : Nat → Targets → Targets
  | 0, targets => targets
  | n + 1, targets =>
    if totalCount < targets.total then lowerWhile totalCount n (lowerLargest targets) else targets

def raiseWhile (totalCount : Int) : Nat → Targets → Targets
  | 0, targets => targets
  | n + 1, targets =>
    if targets.total < totalCount then raiseWhile totalCount n (raiseSmallest targets) else targets

/-- Every turn of the two loops closes the gap by one, so that they take no more
turns than the gap they start with. -/
def rebalanceTargets (targets : Targets) (totalCount : Int) : Targets :=
  let lowered := lowerWhile totalCount (targets.total - totalCount).toNat targets
  raiseWhile totalCount (totalCount - lowered.total).toNat lowered

end Targets

section Placement

variable {F : Type} [FloatLike F]

structure Goals (F : Type) where
  targetCounts : Targets
  targetLabelCounts : DataSplit → Dict Text F

structure Placement where
  assignmentsByGroup : Dict (Option Text) DataSplit
  splitCounts : DataSplit → Nat
  splitLabelCounts : DataSplit → Dict Text Nat

def Placement.start : Placement := ⟨[], fun _ => 0, fun _ => []⟩

variable (goals : Goals F)

def sizePenalty (placement : Placement) (g : Group) (split : DataSplit) : F :=
  let nextCount : Int := placement.splitCounts split + g.size
  FloatLike.div (FloatLike.ofInt |goals.targetCounts split - nextCount|)
    (FloatLike.ofInt (max 1 (goals.targetCounts split)))

def labelPenalty (placement : Placement) (split : DataSplit) (item : Text × Nat) : F :=
  let expected := (get? item.1 (goals.targetLabelCounts split)).getD (FloatLike.ofInt 0)
  let nextLabelCount : Int := countOf item.1 (placement.splitLabelCounts split) + item.2
  FloatLike.div (FloatLike.abs (FloatLike.sub expected (FloatLike.ofInt nextLabelCount)))
    (FloatLike.max (FloatLike.ofInt 1) expected)

def score (placement : Placement) (g : Group) (split : DataSplit) : F × Nat :=
  (FloatLike.add (sizePenalty goals placement g split)
    (FloatLike.sum (g.labelCounts.map (labelPenalty goals placement split))),
    splitOrder.idxOf split)

/-- The order of two scores as tuples. -/
def scoreLt (a b : F × Nat) : Bool :=
  if FloatLike.beq a.1 b.1 then decide (a.2 < b.2) else FloatLike.lt a.1 b.1

def bestSplit (placement : Placement) (g : Group) : DataSplit :=
  minBy scoreLt (score goals placement g) .train [.validation, .test]

def Placement.put (placement : Placement) (g : Group) (split : DataSplit) : Placement where
  assignmentsByGroup := set g.groupValue split placement.assignmentsByGroup
  splitCounts s := placement.splitCounts s + if s = split then g.size else 0
  splitLabelCounts s :=
    if s = split then addCounts (placement.splitLabelCounts s) g.labelCounts
    else placement.splitLabelCounts s

def place (placement : Placement) (g : Group) : Placement :=
  placement.put g (bestSplit goals placement g)

end Placement

section Assignment

variable {F : Type} [FloatLike F]

def goals (rows : List TabularRow) (ratios : DataSplit → F) : Goals F where
  targetCounts := rebalanceTargets
    (fun split => max 1 (FloatLike.round
      (FloatLike.mul (FloatLike.ofInt rows.length) (ratios split)))) rows.length
  targetLabelCounts split := (counter (rows.map fun row => row.label.1)).map fun item =>
    (item.1, FloatLike.mul (FloatLike.ofInt item.2) (ratios split))

def placeAll (shuffle : Shuffle) (rows : List TabularRow) (ratios : DataSplit → F) : Placement :=
  (orderGroups shuffle (groups rows)).foldl (place (goals rows ratios)) .start

/-- The lookup of a row's split under its own group value. -/
def assign (assignmentsByGroup : Dict (Option Text) DataSplit) (row : TabularRow) :
    Result SplitAssignment :=
  match get? row.groupValue assignmentsByGroup with
  | some split => .ok ⟨row.objectId, split, row.label, row.groupValue⟩
  | none => .error (.plain "KeyError" (String.ofList (row.groupValue.getD "None".toList)))

def assignSplits (shuffle : Shuffle) (rows : List TabularRow) (ratios : DataSplit → F) :
    Result (List SplitAssignment) :=
  rows.mapM (assign (placeAll shuffle rows ratios).assignmentsByGroup)

end Assignment

end DataForge.Plugins.Tabular.Splits
