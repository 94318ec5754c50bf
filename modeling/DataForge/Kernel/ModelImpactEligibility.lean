import DataForge.Domain.ImpactEligibility
import DataForge.Foundation.Canonical
import DataForge.Foundation.Grouping
import DataForge.Foundation.Outcome

namespace DataForge.Kernel.ModelImpactEligibility

open DataForge.Foundation.Strings
open DataForge.Foundation.Outcome
open DataForge.Foundation.Dictionary
open DataForge.Foundation.Canonical
open DataForge.Foundation.Grouping
open DataForge.Foundation.Scores
open DataForge.Domain.Common
open DataForge.Domain.Splits
open DataForge.Domain.Leakage
open DataForge.Domain.ImpactEligibility

/-- The inputs of the check, with the minimums that it has by default. -/
structure CheckModelImpactEligibilityRequest (F : Type) [ScoreLike F] where
  taskType : ModelImpactTaskType := .supervisedTabularClassification
  tabularProfile : Option TabularProfileReport := none
  splitManifest : Option SplitManifest := none
  splitLeakageReport : Option (SplitLeakageReport F) := none
  minimumLabeledSamples : Int := 50
  minimumRareClassSamples : Int := 5
  minimumSplits : Int := 2

section Helpers

variable {F : Type} [ScoreLike F]

/-- The column of the profile, or else that of the manifest. -/
def resolveTargetColumn (request : CheckModelImpactEligibilityRequest F) : Option Text :=
  ((request.tabularProfile.bind TabularProfileReport.targetColumn).filter (· ≠ [])).or
    (request.splitManifest.map fun manifest => manifest.targetColumn.1)

def hasTargetMissingValues (profile : Option TabularProfileReport) : Bool :=
  (profile.bind TabularProfileReport.missingness).any MissingnessDiagnostics.targetColumnMissing

def classImbalance (profile : Option TabularProfileReport) : Option ClassImbalanceDiagnostics :=
  profile.bind TabularProfileReport.classImbalance

def resolveCohortStats (profile : Option TabularProfileReport) : List ModelImpactCohortStats :=
  match classImbalance profile with
  | none => []
  | some diagnostics => diagnostics.classCounts.map fun entry =>
    { label := entry.label
      count := entry.count
      ratio := Min.min (Max.max (classRatio diagnostics.totalSamples entry.count) 0) 1
      isRareClass := decide (entry.label = diagnostics.rareClassLabel) }

/-- Cohorts are there only where the profile has diagnostics, so these name the label. -/
def resolveRareClassLabel (profile : Option TabularProfileReport) : Option NonEmptyStr :=
  (classImbalance profile).map ClassImbalanceDiagnostics.rareClassLabel

def resolveTotalLabeled (cohorts : List ModelImpactCohortStats)
    (profile : Option TabularProfileReport) : Nat :=
  if cohorts ≠ [] then (cohorts.map ModelImpactCohortStats.count).sum
  else (classImbalance profile).elim 0 ClassImbalanceDiagnostics.totalSamples

def resolveRareClassCount (cohorts : List ModelImpactCohortStats)
    (rareClassLabel : Option NonEmptyStr) : Nat :=
  (cohorts.find? fun cohort => some cohort.label = rareClassLabel).elim 0
    ModelImpactCohortStats.count

/-- The assignments of each split, and those of them that have the rare label. -/
def resolveSplitStats (manifest : Option SplitManifest) (rareClassLabel : Option NonEmptyStr) :
    List ModelImpactSplitStats :=
  match manifest with
  | none => []
  | some manifest =>
    let counts : Dict Text (Nat × Nat) := (manifest.assignments.map fun a =>
        (a.split.value, decide (some a.label = rareClassLabel))).foldl
      (updateKey (0, 0) fun bucket rare => (bucket.1 + 1, bucket.2 + if rare then 1 else 0)) []
    (sortedItems counts).map fun entry => ⟨entry.1, entry.2.1, entry.2.2⟩

def hasValidSplit (manifest : Option SplitManifest) (minimumSplits : Int) : Bool :=
  manifest.any fun manifest => decide (manifest.assignments ≠ []) &&
    decide (minimumSplits ≤ (manifest.assignments.map SplitAssignment.split).dedup.length)

def hasLeakageBlocker (report : Option (SplitLeakageReport F)) : Bool :=
  report.any fun report => report.blockTraining || report.blockModelEvaluation ||
    report.leakageDetected

end Helpers

section Checks

/-- What the check finds out before it puts the report together. -/
structure Findings where
  supportedTask : Bool
  targetPresent : Bool
  targetMissingValues : Bool
  enoughLabeled : Bool
  enoughRare : Bool
  manifestPresent : Bool
  validSplit : Bool
  leakageBlocker : Bool

def itemIf {α : Type} (condition : Bool) (item : α) : List α := if condition then [item] else []

variable (found : Findings)

def Findings.targetUsable : Bool := found.targetPresent && !found.targetMissingValues

def Findings.notEligibleReasonCodes : List ModelImpactNotEligibleReasonCode :=
  itemIf (!found.supportedTask) .unsupportedTaskType ++
    itemIf (!found.targetPresent) .targetLabelMissing ++
    itemIf found.targetMissingValues .targetColumnHasMissingValues ++
    itemIf (!found.enoughLabeled) .notEnoughLabeledSamples ++
    itemIf (!found.enoughRare) .notEnoughRareClassSamples ++
    itemIf (!found.validSplit)
      (if found.manifestPresent then .splitManifestInsufficientSplits else .splitManifestMissing) ++
    itemIf found.leakageBlocker .leakageBlockerPresent

def Findings.reasons : List String :=
  (if found.targetUsable then ["target_label_present"]
    else itemIf (!found.targetPresent) "target_label_missing" ++
      itemIf found.targetMissingValues "target_column_has_missing_values") ++
    (if found.enoughLabeled && found.enoughRare then ["enough_labeled_samples"]
    else itemIf (!found.enoughLabeled) "not_enough_labeled_samples" ++
      itemIf (!found.enoughRare) "not_enough_rare_class_samples") ++
    [if found.validSplit then "split_manifest_valid"
      else if found.manifestPresent then "split_manifest_insufficient_splits" else "split_manifest_missing"] ++
    [if found.leakageBlocker then "leakage_blocker_present" else "no_leakage_blockers"]

/-- The inputs in the order in which they are looked at, with whether they are there. -/
def Findings.inputs : List (ModelImpactInputName × Bool) :=
  [(.targetLabel, found.targetUsable),
    (.enoughLabeledSamples, found.enoughLabeled && found.enoughRare),
    (.validSplitStrategy, found.validSplit), (.noLeakageBlockers, !found.leakageBlocker)]

/-- A task without a baseline does not count as a missing input. -/
def Findings.requiredInputsPresent : List ModelImpactInputName :=
  itemIf found.supportedTask .baselineModelAvailable ++ (found.inputs.filter Prod.snd).map Prod.fst

def Findings.requiredInputsMissing : List ModelImpactInputName :=
  (found.inputs.filter fun input => !input.2).map Prod.fst

def Findings.eligible : Bool :=
  decide (found.notEligibleReasonCodes = []) &&
    [.targetLabel, .enoughLabeledSamples, .validSplitStrategy, .noLeakageBlockers,
      .baselineModelAvailable].all fun input => decide (input ∈ found.requiredInputsPresent)

def Findings.primaryReasonCode : String :=
  if found.eligible then "supervised_classification_with_target"
  else (found.notEligibleReasonCodes.head?.map ModelImpactNotEligibleReasonCode.value).getD
    "unknown_eligibility_failure"

variable {found}

theorem itemIf_eq_nil {α : Type} {condition : Bool} {item : α} :
    itemIf condition item = [] ↔ condition = false := by
  cases condition <;> simp [itemIf]

theorem notEligibleReasonCodes_eq_nil : found.notEligibleReasonCodes = [] ↔
    found.supportedTask = true ∧ found.targetPresent = true ∧ found.targetMissingValues = false ∧
      found.enoughLabeled = true ∧ found.enoughRare = true ∧ found.validSplit = true ∧
      found.leakageBlocker = false := by
  simp only [Findings.notEligibleReasonCodes, List.append_eq_nil_iff, itemIf_eq_nil,
    Bool.not_eq_false', and_assoc]

/-- Nothing against a candidate means that every input is there. -/
theorem eligible_iff : found.eligible = true ↔ found.notEligibleReasonCodes = [] := by
  rw [Findings.eligible, Bool.and_eq_true, decide_eq_true_iff]
  refine and_iff_left_of_imp fun hnone => ?_
  obtain ⟨htask, htarget, hmissing, hlabeled, hrare, hsplit, hleakage⟩ :=
    notEligibleReasonCodes_eq_nil.mp hnone
  simp [Findings.requiredInputsPresent, Findings.inputs, Findings.targetUsable, itemIf, htask,
    htarget, hmissing, hlabeled, hrare, hsplit, hleakage]

end Checks

section Check

variable {F : Type} [ScoreLike F] (request : CheckModelImpactEligibilityRequest F)

def findings : Findings :=
  let cohorts := resolveCohortStats request.tabularProfile
  let rareClassLabel := resolveRareClassLabel request.tabularProfile
  { supportedTask := decide (request.taskType = .supervisedTabularClassification)
    targetPresent := (resolveTargetColumn request).isSome
    targetMissingValues := hasTargetMissingValues request.tabularProfile
    enoughLabeled :=
      decide (request.minimumLabeledSamples ≤ resolveTotalLabeled cohorts request.tabularProfile)
    enoughRare :=
      decide (request.minimumRareClassSamples ≤ resolveRareClassCount cohorts rareClassLabel)
    manifestPresent := request.splitManifest.isSome
    validSplit := hasValidSplit request.splitManifest request.minimumSplits
    leakageBlocker := hasLeakageBlocker request.splitLeakageReport }

def eligibilityReport : ModelImpactEligibilityReport :=
  let found := findings request
  let cohorts := resolveCohortStats request.tabularProfile
  let rareClassLabel := resolveRareClassLabel request.tabularProfile
  { status := if found.eligible then .eligible else .notEligible
    eligible := found.eligible
    taskType := request.taskType
    targetColumn := resolveTargetColumn request
    rareClassLabel := rareClassLabel
    primaryReasonCode := found.primaryReasonCode
    reasons := found.reasons.eraseDups
    requiredInputsPresent := found.requiredInputsPresent.eraseDups
    requiredInputsMissing := found.requiredInputsMissing.eraseDups
    notEligibleReasonCodes := found.notEligibleReasonCodes.eraseDups
    cohortStats := cohorts
    splitStats := resolveSplitStats request.splitManifest rareClassLabel
    minimumLabeledSamples := request.minimumLabeledSamples
    minimumRareClassSamples := request.minimumRareClassSamples }

/-- The report has no place for a negative minimum. -/
def checkModelImpactEligibility : Result ModelImpactEligibilityReport := do
  guardOk (0 ≤ request.minimumLabeledSamples)
    (.validation "ModelImpactEligibilityReport" "minimum_labeled_samples")
  guardOk (0 ≤ request.minimumRareClassSamples)
    (.validation "ModelImpactEligibilityReport" "minimum_rare_class_samples")
  pure (eligibilityReport request)

variable {request}

theorem checkModelImpactEligibility_eq_ok {report : ModelImpactEligibilityReport}
    (h : checkModelImpactEligibility request = .ok report) :
    report = eligibilityReport request := by
  obtain ⟨-, h⟩ := check_bind_eq_ok.mp h
  obtain ⟨-, h⟩ := check_bind_eq_ok.mp h
  exact (Except.ok.inj h).symm

/-- What an eligible candidate is known to have. -/
theorem eligible_findings {report : ModelImpactEligibilityReport}
    (h : checkModelImpactEligibility request = .ok report) (heligible : report.eligible = true) :
    (resolveTargetColumn request).isSome =
      true ∧ hasTargetMissingValues request.tabularProfile = false ∧
      hasValidSplit request.splitManifest request.minimumSplits = true := by
  rw [checkModelImpactEligibility_eq_ok h] at heligible
  obtain ⟨-, htarget, hmissing, -, -, hsplit, -⟩ :=
    notEligibleReasonCodes_eq_nil.mp (eligible_iff.mp heligible)
  exact ⟨htarget, hmissing, hsplit⟩

end Check

end DataForge.Kernel.ModelImpactEligibility
