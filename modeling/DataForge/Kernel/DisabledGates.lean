import DataForge.Kernel.GateDominance

namespace DataForge.Kernel.DisabledGates

open DataForge.Foundation.Dictionary
open DataForge.Foundation.Scores
open DataForge.Domain.Common
open DataForge.Domain.Evidence
open DataForge.Kernel.Policy
open DataForge.Kernel.DecisionReport
open DataForge.Kernel.GateDominance

variable {F : Type} [ScoreLike F]

/-- The policy as it is after its disabled rules are deleted. -/
def withoutDisabled (policy : DecisionPolicy F) : DecisionPolicy F :=
  { policy with
    hardGates := policy.hardGates.filter HardGateRule.enabled
    gateCodes := fun gate hgate => policy.gateCodes gate (List.mem_of_mem_filter hgate) }

section Triggering

variable (policy : DecisionPolicy F) (evidence : EvidenceBundle F) (inputs : PolicyInputEnvelope)

/-- An enabled rule of the policy raises this gate for the inputs, or the gate is the one
for unmasked PII and the evidence alone raises it. -/
def Raised (gateId : HardGateId) : Prop :=
  (∃ rule ∈ policy.hardGates, rule.enabled = true ∧ rule.gateId = gateId ∧
    gateTriggered gateId inputs = true) ∨
  (gateId = .piiUnmasked ∧
    signalAtLeast evidence.signals.privacyRisk (ScoreLike.decimal 80 2) = true)

theorem inputGate_triggered (gateId : HardGateId) :
    (((get? gateId (update [] ((evaluateHardGates policy inputs).map fun gate =>
      (gate.gateId, gate)))).map HardGateEvaluation.triggered).getD false = true) ↔
        ∃ rule ∈ policy.hardGates, rule.enabled = true ∧ rule.gateId = gateId ∧
          gateTriggered gateId inputs = true := by
  rw [get?_index HardGateEvaluation.gateId]
  constructor
  · intro h
    cases hfind : (evaluateHardGates policy inputs).reverse.find? (·.gateId = gateId) with
    | none => simp [hfind] at h
    | some gate =>
      obtain ⟨rule, hrule, rfl⟩ :=
        List.mem_map.mp (List.mem_reverse.mp (List.mem_of_find?_eq_some hfind))
      obtain rfl : rule.gateId = gateId := by simpa using List.find?_some hfind
      obtain ⟨hmem, henabled⟩ := List.mem_filter.mp hrule
      exact ⟨rule, hmem, henabled, rfl, by simpa [hfind] using h⟩
  · rintro ⟨rule, hmem, henabled, rfl, htriggered⟩
    cases hfind : (evaluateHardGates policy inputs).reverse.find? (·.gateId = rule.gateId) with
    | none =>
      refine absurd (List.find?_eq_none.mp hfind _ (List.mem_reverse.mpr (List.mem_map_of_mem
        (List.mem_filter.mpr ⟨hmem, henabled⟩)))) (by simp)
    | some gate =>
      obtain ⟨other, hother, rfl⟩ :=
        List.mem_map.mp (List.mem_reverse.mp (List.mem_of_find?_eq_some hfind))
      obtain hid : other.gateId = rule.gateId := by simpa using List.find?_some hfind
      simpa [hid] using htriggered

/-- The evaluation of a rule for an object, as the code finds it. -/
def objectEvaluation (rule : HardGateRule) : HardGateEvaluation where
  gateId := rule.gateId
  triggered :=
    let inputGates :=
      update [] ((evaluateHardGates policy inputs).map fun gate => (gate.gateId, gate))
    let triggered := ((get? rule.gateId inputGates).map HardGateEvaluation.triggered).getD false
    if rule.gateId = .piiUnmasked then
      triggered || signalAtLeast evidence.signals.privacyRisk (ScoreLike.decimal 80 2)
    else triggered
  action := rule.action
  reasonCode := rule.reasonCode

theorem objectHardGates_eq : objectHardGates policy evidence inputs =
    policy.hardGates.map (objectEvaluation policy evidence inputs) := rfl

theorem objectEvaluation_triggered (rule : HardGateRule) :
    (objectEvaluation policy evidence inputs rule).triggered = true ↔
      Raised policy evidence inputs rule.gateId := by
  rw [objectEvaluation, Raised, ← inputGate_triggered]
  by_cases hpii : rule.gateId = .piiUnmasked
  · simp only [hpii, if_true, Bool.or_eq_true, true_and]
  · simp only [hpii, if_false, false_and, or_false]

end Triggering

section Disabled

/-- A disabled rule has no effect: the dataset level leaves it out, no object level
evaluation of it is triggered, and an object is withheld from export exactly if it is
without the disabled rules. -/
structure DisabledNeverBlocks (policy : DecisionPolicy F) (evidence : EvidenceBundle F)
    (inputs : PolicyInputEnvelope) : Prop where
  dataset : evaluateHardGates policy inputs = evaluateHardGates (withoutDisabled policy) inputs
  object : ∀ item ∈ policy.hardGates.zip
    (evaluateObjectDecision policy evidence (some inputs)).hardGates,
    item.1.enabled = false → item.2.triggered = false
  decision : (objectContext evidence policy inputs).decision.action = .blockExport ↔
    (objectContext evidence (withoutDisabled policy) inputs).decision.action = .blockExport

variable {policy : DecisionPolicy F} {evidence : EvidenceBundle F} {inputs : PolicyInputEnvelope}

theorem raised_withoutDisabled {gateId : HardGateId} :
    Raised (withoutDisabled policy) evidence inputs gateId ↔
      Raised policy evidence inputs gateId := by
  refine or_congr_left ⟨?_, ?_⟩
  · rintro ⟨rule, hrule, h⟩
    exact ⟨rule, List.mem_of_mem_filter hrule, h⟩
  · rintro ⟨rule, hrule, henabled, h⟩
    exact ⟨rule, List.mem_filter.mpr ⟨hrule, henabled⟩, henabled, h⟩

theorem blockExport_iff : (objectContext evidence policy inputs).decision.action = .blockExport ↔
    ∃ rule ∈ policy.hardGates, Raised policy evidence inputs rule.gateId := by
  rw [objectContext, objectAction_eq_blockExport, hardBlocked_iff]
  constructor
  · rintro ⟨gate, hgate, htriggered⟩
    have hgate : gate ∈ objectHardGates policy evidence inputs := hgate
    obtain ⟨rule, hrule, rfl⟩ := List.mem_map.mp (objectHardGates_eq policy evidence inputs ▸ hgate)
    exact ⟨rule, hrule, (objectEvaluation_triggered policy evidence inputs rule).mp htriggered⟩
  · rintro ⟨rule, hrule, hraised⟩
    exact ⟨objectEvaluation policy evidence inputs rule, List.mem_map_of_mem hrule,
      (objectEvaluation_triggered policy evidence inputs rule).mpr hraised⟩

theorem object_iff : (∀ item ∈ policy.hardGates.zip
      (evaluateObjectDecision policy evidence (some inputs)).hardGates,
      item.1.enabled = false → item.2.triggered = false) ↔
    ∀ rule ∈ policy.hardGates, rule.enabled =
      false → ¬ Raised policy evidence inputs rule.gateId := by
  have hzip :
      policy.hardGates.zip (evaluateObjectDecision policy evidence (some inputs)).hardGates =
      policy.hardGates.map fun rule => (rule, objectEvaluation policy evidence inputs rule) := by
    change policy.hardGates.zip (objectHardGates policy evidence inputs) = _
    rw [objectHardGates_eq, List.zip, List.zipWith_map_right, List.zipWith_self]
  simp only [hzip, List.forall_mem_map, ← objectEvaluation_triggered, Bool.not_eq_true]

variable (policy evidence inputs) in
/-- A disabled rule has no effect exactly if neither an enabled rule with its gate nor
the privacy evidence of the object raises the gate. -/
theorem disabledNeverBlocks_iff : DisabledNeverBlocks policy evidence inputs ↔
    ∀ rule ∈ policy.hardGates, rule.enabled =
      false → ¬ Raised policy evidence inputs rule.gateId := by
  constructor
  · exact fun h => object_iff.mp h.object
  · intro h
    refine ⟨?_, object_iff.mpr h, ?_⟩
    · simp only [evaluateHardGates, withoutDisabled, List.filter_filter, Bool.and_self]
    · rw [blockExport_iff, blockExport_iff]
      constructor
      · rintro ⟨rule, hrule, hraised⟩
        refine ⟨rule, List.mem_filter.mpr ⟨hrule, ?_⟩, raised_withoutDisabled.mpr hraised⟩
        by_contra hdisabled
        exact h rule hrule (Bool.eq_false_of_not_eq_true hdisabled) hraised
      · rintro ⟨rule, hrule, hraised⟩
        exact ⟨rule, List.mem_of_mem_filter hrule, raised_withoutDisabled.mp hraised⟩

end Disabled

section Example

/-- The default policy with one gate switched off. -/
def disable (gateId : HardGateId) (policy : DecisionPolicy F) : DecisionPolicy F :=
  { policy with
    hardGates := policy.hardGates.map fun rule =>
      { rule with enabled := rule.enabled && rule.gateId ≠ gateId }
    gateCodes := by
      intro gate hgate
      obtain ⟨rule, hrule, rfl⟩ := List.mem_map.mp hgate
      exact policy.gateCodes rule hrule }

def notMeasured : NormalizedSignal ℚ := .missing (literal "not_measured")

def privateObject : EvidenceBundle ℚ where
  evidenceBundleId := literal "bundle"
  objectId := literal "object"
  modality := .tabular
  signals :=
    { technicalQuality := notMeasured
      duplicateScore := notMeasured
      privacyRisk := .available (Score.fraction 9 1)
      labelIssueScore := notMeasured
      rareSegmentScore := notMeasured
      businessImportance := notMeasured
      modelUncertainty := notMeasured
      predictionConfidence := notMeasured
      predictionMargin := notMeasured
      predictionEntropy := notMeasured
      ambiguousObjectScore := notMeasured
      probableLabelErrorScore := notMeasured }
  evidenceRefs := []

/-- With the gate for unmasked PII switched off, an object with a privacy risk of 0.9 is
withheld from export by that gate all the same. -/
theorem disabled_pii_gate_blocks :
    ¬ DisabledNeverBlocks (disable .piiUnmasked (loadDecisionPolicyV0 : DecisionPolicy ℚ))
      privateObject .empty := by
  rw [disabledNeverBlocks_iff]
  intro h
  refine h { gate .piiUnmasked (literal "BLOCK_PRIVACY_REVIEW") with enabled := false }
    List.mem_cons_self rfl (Or.inr ⟨rfl, ?_⟩)
  have hrisk : ScoreLike.le (ScoreLike.decimal 80 2) (ScoreLike.decimal 9 1 : ℚ) = true := by
    decide +kernel
  exact hrisk

end Example

end DataForge.Kernel.DisabledGates
