import DataForge.Domain.Decision
import DataForge.Domain.Evidence

namespace DataForge.Kernel.Policy

open DataForge.Foundation.Strings
open DataForge.Foundation.Dictionary
open DataForge.Foundation.Json
open DataForge.Foundation.Numbers
open DataForge.Foundation.Scores
open DataForge.Domain.Common
open DataForge.Domain.Decision
open DataForge.Domain.Evidence

section Registry

structure ReasonCodeDefinition where
  code : NonEmptyStr
  description : String

def loadReasonCodeRegistry : List ReasonCodeDefinition :=
  [⟨literal "pii_unmasked", "Unmasked PII is present in an object or artifact."⟩,
    ⟨literal "target_column_missing", "The target column has missing values."⟩,
    ⟨literal "split_leakage", "Leakage detected between train/validation/test splits."⟩,
    ⟨literal "external_api_raw_pii", "External API call would expose raw PII."⟩,
    ⟨literal "target_leakage_candidate", "A feature appears to leak target information."⟩,
    ⟨literal "business_rule_failure", "A critical business rule failed."⟩,
    ⟨literal "plugin_disabled", "A required plugin is disabled."⟩,
    ⟨literal "method_disabled_by_policy",
      "A candidate method is disabled by project policy."⟩,
    ⟨literal "method_disabled_by_readiness",
      "A candidate method is unavailable at current readiness."⟩,
    ⟨literal "missing_numeric", "Numeric missingness should be reviewed for imputation."⟩,
    ⟨literal "exact_duplicate", "Object is part of an exact duplicate group."⟩,
    ⟨literal "rare_class_underrepresented", "Object belongs to an underrepresented class."⟩,
    ⟨literal "text_pii_detected", "Text/OCR PII was detected and needs review/redaction."⟩,
    ⟨literal "severe_outlier", "Object has severe outlier evidence."⟩,
    ⟨literal "outlier_capping_disabled_by_policy",
      "Outlier capping is disabled unless policy enables it."⟩,
    ⟨literal "ambiguous_object", "Model is uncertain about this object."⟩,
    ⟨literal "high_model_uncertainty", "Prediction confidence is low or entropy is high."⟩,
    ⟨literal "low_prediction_margin",
      "Top prediction classes have a low probability margin."⟩,
    ⟨literal "probable_label_error", "Model evidence indicates a likely label issue."⟩,
    ⟨literal "high_confidence_label_conflict",
      "High-confidence prediction conflicts with the label."⟩,
    ⟨literal "neighbor_label_disagreement",
      "Neighbor or cluster labels support a different label."⟩]

def definitionOf (code : NonEmptyStr) : Option ReasonCodeDefinition :=
  get? code (loadReasonCodeRegistry.map fun definition => (definition.code, definition))

def require (code : NonEmptyStr) : Result ReasonCodeDefinition :=
  match definitionOf code with
  | some definition => .ok definition
  | none => .error (.plain "ValueError" ("unknown reason code: " ++ String.ofList code.1))

end Registry

inductive HardGateId where
  | piiUnmasked
  | targetColumnMissing
  | splitLeakage
  | externalApiRawPii
  | targetLeakageCandidate
  | businessRuleFailure
  | pluginDisabled
  | methodDisabledByPolicy
  | methodDisabledByReadiness
deriving DecidableEq

def HardGateId.value : HardGateId → NonEmptyStr
  | .piiUnmasked => literal "pii_unmasked"
  | .targetColumnMissing => literal "target_column_missing"
  | .splitLeakage => literal "split_leakage"
  | .externalApiRawPii => literal "external_api_raw_pii"
  | .targetLeakageCandidate => literal "target_leakage_candidate"
  | .businessRuleFailure => literal "business_rule_failure"
  | .pluginDisabled => literal "plugin_disabled"
  | .methodDisabledByPolicy => literal "method_disabled_by_policy"
  | .methodDisabledByReadiness => literal "method_disabled_by_readiness"

inductive RecommendedActionType where
  | reportAndReview
  | sendToLabelReview
  | sendToPrivacyReview
  | sendToDuplicateReview
  | recommendImputationReview
  | recommendRareClassAugmentation
deriving DecidableEq

structure HardGateRule where
  gateId : HardGateId
  reasonCode : NonEmptyStr
  action : NonEmptyStr
  enabled : Bool

/-- One value for each component of the object value score. -/
structure ObjectValueFields (F : Type) where
  learningValue : F
  rarity : F
  uncertainty : F
  diversity : F
  businessImportance : F
  duplicatePenalty : F
  qualityPenalty : F
  privacyRiskPenalty : F
  labelRiskPenalty : F

def ObjectValueFields.values {F : Type} (fields : ObjectValueFields F) : List F :=
  [fields.learningValue, fields.rarity, fields.uncertainty, fields.diversity,
    fields.businessImportance, fields.duplicatePenalty, fields.qualityPenalty,
    fields.privacyRiskPenalty, fields.labelRiskPenalty]

def ObjectValueFields.zipWith {F : Type} (f : F → F → F) (a b : ObjectValueFields F) :
    ObjectValueFields F where
  learningValue := f a.learningValue b.learningValue
  rarity := f a.rarity b.rarity
  uncertainty := f a.uncertainty b.uncertainty
  diversity := f a.diversity b.diversity
  businessImportance := f a.businessImportance b.businessImportance
  duplicatePenalty := f a.duplicatePenalty b.duplicatePenalty
  qualityPenalty := f a.qualityPenalty b.qualityPenalty
  privacyRiskPenalty := f a.privacyRiskPenalty b.privacyRiskPenalty
  labelRiskPenalty := f a.labelRiskPenalty b.labelRiskPenalty

structure MethodAvailability where
  methodId : NonEmptyStr
  status : MethodCandidateStatus
  policyStatus : PolicyStatus

def forbiddenInputs : List Text :=
  ["raw_plugin_outputs".toList, "plugin_private_outputs".toList, "raw_rows".toList]

/-- The inputs of the policy, none of which carries raw plugin outputs. -/
structure PolicyInputEnvelope where
  normalizedDatasetProfile : Dict Text Value
  pluginReadiness : Dict Text Text
  methodAvailability : List MethodAvailability
  riskProfile : Dict Text Value
  splitLeakageReport : Dict Text Value
  profileKeys : ∀ key ∈ forbiddenInputs, contains key normalizedDatasetProfile = false
  readinessKeys : ∀ key ∈ forbiddenInputs, contains key pluginReadiness = false
  riskKeys : ∀ key ∈ forbiddenInputs, contains key riskProfile = false
  splitKeys : ∀ key ∈ forbiddenInputs, contains key splitLeakageReport = false

def PolicyInputEnvelope.empty : PolicyInputEnvelope where
  normalizedDatasetProfile := []
  pluginReadiness := []
  methodAvailability := []
  riskProfile := []
  splitLeakageReport := []
  profileKeys _ _ := rfl
  readinessKeys _ _ := rfl
  riskKeys _ _ := rfl
  splitKeys _ _ := rfl

structure HardGateEvaluation where
  gateId : HardGateId
  triggered : Bool
  action : NonEmptyStr
  reasonCode : NonEmptyStr

section Policy

variable (F : Type) [ScoreLike F]

structure RecommendationRule where
  reasonCode : NonEmptyStr
  action : RecommendedActionType
  threshold : Option (Score F)
  enabled : Bool

structure ObjectValuePolicy where
  policyVersion : NonEmptyStr
  weights : ObjectValueFields F

/-- A policy whose reason codes are all registered. -/
structure DecisionPolicy where
  policyVersion : NonEmptyStr
  hardGates : List HardGateRule
  recommendationRules : List (RecommendationRule F)
  objectValuePolicy : ObjectValuePolicy F
  gateCodes : ∀ gate ∈ hardGates, ∃ definition, require gate.reasonCode = .ok definition
  ruleCodes : ∀ rule ∈ recommendationRules, ∃ definition, require rule.reasonCode = .ok definition

structure ObjectValueScore where
  objectId : NonEmptyStr
  value : Score F
  rawValue : F
  policyVersion : NonEmptyStr
  weights : ObjectValueFields F
  components : ObjectValueFields F
  weightedComponents : ObjectValueFields F
  hardBlocked : Bool
  blockerActions : List NonEmptyStr
  reasonCodes : List NonEmptyStr

structure ObjectDecisionEvaluation where
  objectId : NonEmptyStr
  hardGates : List HardGateEvaluation
  objectValueScore : ObjectValueScore F
  hardBlocked : Bool
  action : Option NonEmptyStr
  reasonCodes : List NonEmptyStr

end Policy

structure EvidenceRecommendation where
  objectId : NonEmptyStr
  action : RecommendedActionType
  reasonCodes : List NonEmptyStr

section DefaultPolicy

variable {F : Type} [ScoreLike F]

def gate (gateId : HardGateId) (action : NonEmptyStr) : HardGateRule :=
  ⟨gateId, gateId.value, action, true⟩

def defaultHardGates : List HardGateRule :=
  [gate .piiUnmasked (literal "BLOCK_PRIVACY_REVIEW"),
    gate .targetColumnMissing (literal "BLOCK_TRAINING"),
    gate .splitLeakage (literal "BLOCK_MODEL_EVALUATION"),
    gate .externalApiRawPii (literal "BLOCK_EXTERNAL_API_CALL"),
    gate .targetLeakageCandidate (literal "BLOCK_TRAINING"),
    gate .businessRuleFailure (literal "BLOCK_RULES_REVIEW"),
    gate .pluginDisabled (literal "BLOCK_PLUGIN_EXECUTION"),
    gate .methodDisabledByPolicy (literal "BLOCK_METHOD"),
    gate .methodDisabledByReadiness (literal "BLOCK_METHOD")]

def rule (reasonCode : NonEmptyStr) (action : RecommendedActionType) (threshold : Score F) :
    RecommendationRule F :=
  ⟨reasonCode, action, some threshold, true⟩

def defaultRecommendationRules : List (RecommendationRule F) :=
  [rule (literal "missing_numeric") .recommendImputationReview (Score.fraction 1 1),
    rule (literal "exact_duplicate") .sendToDuplicateReview (Score.fraction 5 1),
    rule (literal "rare_class_underrepresented") .recommendRareClassAugmentation
      (Score.fraction 7 1),
    rule (literal "text_pii_detected") .sendToPrivacyReview (Score.fraction 1 2),
    rule (literal "severe_outlier") .reportAndReview (Score.fraction 75 2),
    rule (literal "ambiguous_object") .sendToLabelReview (Score.fraction 5 1),
    rule (literal "probable_label_error") .sendToLabelReview (Score.fraction 5 1)]

def defaultWeights : ObjectValueFields F where
  learningValue := ScoreLike.decimal 25 2
  rarity := ScoreLike.decimal 20 2
  uncertainty := ScoreLike.decimal 20 2
  diversity := ScoreLike.decimal 15 2
  businessImportance := ScoreLike.decimal 10 2
  duplicatePenalty := ScoreLike.decimal (-15) 2
  qualityPenalty := ScoreLike.decimal (-10) 2
  privacyRiskPenalty := ScoreLike.decimal (-25) 2
  labelRiskPenalty := ScoreLike.decimal (-10) 2

theorem require_gate (gateId : HardGateId) :
    ∃ definition, require gateId.value = .ok definition := by
  cases gateId <;> exact ⟨_, rfl⟩

def loadDecisionPolicyV0 : DecisionPolicy F where
  policyVersion := literal "decision_policy_v0"
  hardGates := defaultHardGates
  recommendationRules := defaultRecommendationRules
  objectValuePolicy := ⟨literal "object_value_policy_v0", defaultWeights⟩
  gateCodes gate hgate := by
    have hvalue : gate.reasonCode = gate.gateId.value := by
      simp only [defaultHardGates, List.mem_cons, List.not_mem_nil, or_false] at hgate
      rcases hgate with rfl | rfl | rfl | rfl | rfl | rfl | rfl | rfl | rfl <;> rfl
    exact hvalue ▸ require_gate gate.gateId
  ruleCodes rule hrule := by
    simp only [defaultRecommendationRules, List.mem_cons, List.not_mem_nil, or_false] at hrule
    rcases hrule with rfl | rfl | rfl | rfl | rfl | rfl | rfl <;> exact ⟨_, rfl⟩

end DefaultPolicy

section Gates

/-- Python's `bool(value)`. -/
def truthy : Value → Bool
  | .null => false
  | .bool b => b
  | .num token => token.1 ∉ ["0".toList, "0.0".toList, "-0.0".toList]
  | .str s => !s.isEmpty
  | .arr items => !items.isEmpty
  | .obj members => !members.isEmpty

/-- `bool(d.get(key))`. -/
def flag (key : String) (d : Dict Text Value) : Bool := ((get? key.toList d).map truthy).getD false

def gateTriggered (gateId : HardGateId) (inputs : PolicyInputEnvelope) : Bool :=
  match gateId with
  | .piiUnmasked => flag "pii_unmasked" inputs.riskProfile ||
      flag "pii_unmasked" inputs.normalizedDatasetProfile
  | .targetColumnMissing => flag "target_column_missing" inputs.normalizedDatasetProfile
  | .splitLeakage => flag "split_leakage" inputs.splitLeakageReport
  | .externalApiRawPii => flag "external_api_raw_pii" inputs.riskProfile
  | .targetLeakageCandidate => flag "target_leakage_candidate" inputs.normalizedDatasetProfile
  | .businessRuleFailure => flag "business_rule_failure" inputs.normalizedDatasetProfile
  | .pluginDisabled => inputs.pluginReadiness.any fun item => item.2 = "disabled".toList
  | .methodDisabledByPolicy => inputs.methodAvailability.any fun method =>
      method.policyStatus = .disabledByPolicy || method.status = .disabledByPolicy
  | .methodDisabledByReadiness => inputs.methodAvailability.any fun method =>
      method.policyStatus = .disabledByReadiness || method.status = .disabledByReadiness

variable {F : Type} [ScoreLike F]

def evaluateHardGates (policy : DecisionPolicy F) (inputs : PolicyInputEnvelope) :
    List HardGateEvaluation :=
  (policy.hardGates.filter HardGateRule.enabled).map fun gate =>
    ⟨gate.gateId, gateTriggered gate.gateId inputs, gate.action, gate.reasonCode⟩

def signalValue (signal : NormalizedSignal F) (default : F) : F :=
  match signal.status, signal.value with
  | .available, some value => value.1
  | _, _ => default

def signalAtLeast (signal : NormalizedSignal F) (threshold : F) : Bool :=
  signal.status = .available &&
    (signal.value.map fun value => ScoreLike.le threshold value.1).getD false

def objectHardGates (policy : DecisionPolicy F) (evidence : EvidenceBundle F)
    (inputs : PolicyInputEnvelope) : List HardGateEvaluation :=
  let inputGates :=
    update [] ((evaluateHardGates policy inputs).map fun gate => (gate.gateId, gate))
  policy.hardGates.map fun rule =>
    let triggered := ((get? rule.gateId inputGates).map HardGateEvaluation.triggered).getD false
    { gateId := rule.gateId
      triggered := if rule.gateId = .piiUnmasked then
          triggered || signalAtLeast evidence.signals.privacyRisk (ScoreLike.decimal 80 2)
        else triggered
      action := rule.action
      reasonCode := rule.reasonCode }

end Gates

section Score

open FloatLike

variable {F : Type} [ScoreLike F]

def uncertaintyComponent (evidence : EvidenceBundle F) : F :=
  let signals := evidence.signals
  if signals.modelUncertainty.status = .available then
    signalValue signals.modelUncertainty (ofInt 0)
  else if signals.predictionEntropy.status = .available then
    signalValue signals.predictionEntropy (ofInt 0)
  else if signals.ambiguousObjectScore.status = .available then
    signalValue signals.ambiguousObjectScore (ofInt 0)
  else if signals.predictionConfidence.status = .available then
    sub (ofInt 1) (signalValue signals.predictionConfidence (ofInt 0))
  else ofInt 0

def objectValueComponents (evidence : EvidenceBundle F) : ObjectValueFields F :=
  let signals := evidence.signals
  let rare := signalValue signals.rareSegmentScore (ofInt 0)
  let uncertainty := uncertaintyComponent evidence
  let labelRisk := signalValue signals.labelIssueScore (ofInt 0)
  let probableLabelError := signalValue signals.probableLabelErrorScore (ofInt 0)
  let ambiguous := signalValue signals.ambiguousObjectScore (ofInt 0)
  { learningValue :=
      [uncertainty, ambiguous, probableLabelError, labelRisk].foldl FloatLike.max rare
    rarity := rare
    uncertainty := uncertainty
    diversity := ofInt 0
    businessImportance := signalValue signals.businessImportance (ofInt 0)
    duplicatePenalty := signalValue signals.duplicateScore (ofInt 0)
    qualityPenalty := sub (ofInt 1) (signalValue signals.technicalQuality (ofInt 1))
    privacyRiskPenalty := signalValue signals.privacyRisk (ofInt 0)
    labelRiskPenalty := FloatLike.max labelRisk probableLabelError }

def componentReasonCodes (components : ObjectValueFields F) : List NonEmptyStr :=
  [(literal "exact_duplicate", ScoreLike.le (ScoreLike.decimal 5 1) components.duplicatePenalty),
    (literal "rare_class_underrepresented", ScoreLike.le (ScoreLike.decimal 7 1) components.rarity),
    (literal "text_pii_detected", lt (ofInt 0) components.privacyRiskPenalty),
    (literal "severe_outlier", ScoreLike.le (ScoreLike.decimal 75 2) components.qualityPenalty),
    (literal "ambiguous_object", ScoreLike.le (ScoreLike.decimal 5 1) components.uncertainty),
    (literal "probable_label_error",
      ScoreLike.le (ScoreLike.decimal 5 1) components.labelRiskPenalty)].filterMap fun item =>
    if item.2 then some item.1 else none

def computeObjectValueScore (policy : DecisionPolicy F) (evidence : EvidenceBundle F)
    (hardGates : List HardGateEvaluation) : ObjectValueScore F :=
  let components := objectValueComponents evidence
  let weights := policy.objectValuePolicy.weights
  let weighted := components.zipWith mul weights
  let raw := sum weighted.values
  let triggered := hardGates.filter HardGateEvaluation.triggered
  { objectId := evidence.objectId
    value := Score.clamped raw
    rawValue := raw
    policyVersion := policy.objectValuePolicy.policyVersion
    weights := weights
    components := components
    weightedComponents := weighted
    hardBlocked := !triggered.isEmpty
    blockerActions := (triggered.map HardGateEvaluation.action).eraseDups
    reasonCodes := (componentReasonCodes components ++
      triggered.map HardGateEvaluation.reasonCode).eraseDups }

def evaluateObjectDecision (policy : DecisionPolicy F) (evidence : EvidenceBundle F)
    (inputs : Option PolicyInputEnvelope) : ObjectDecisionEvaluation F :=
  let hardGates := objectHardGates policy evidence (inputs.getD .empty)
  let triggered := hardGates.filter HardGateEvaluation.triggered
  { objectId := evidence.objectId
    hardGates := hardGates
    objectValueScore := computeObjectValueScore policy evidence hardGates
    hardBlocked := !triggered.isEmpty
    action := triggered.head?.map HardGateEvaluation.action
    reasonCodes := (triggered.map HardGateEvaluation.reasonCode).eraseDups }

end Score

section Recommendations

variable {F : Type} [ScoreLike F]

def ruleMatches (rule : RecommendationRule F) (evidence : EvidenceBundle F) : Bool :=
  let threshold := (rule.threshold.map Subtype.val).getD (FloatLike.ofInt 0)
  let signals := evidence.signals
  if rule.reasonCode.1 = "missing_numeric".toList then false
  else if rule.reasonCode.1 = "exact_duplicate".toList then
    signalAtLeast signals.duplicateScore threshold
  else if rule.reasonCode.1 = "rare_class_underrepresented".toList then
    signalAtLeast signals.rareSegmentScore threshold
  else if rule.reasonCode.1 = "text_pii_detected".toList then
    (evidence.modality = .text || evidence.modality = .documentOcr) &&
      signalAtLeast signals.privacyRisk threshold
  else if rule.reasonCode.1 = "severe_outlier".toList then
    signals.technicalQuality.status = .available && (signals.technicalQuality.value.map fun value =>
      ScoreLike.le value.1 (FloatLike.sub (FloatLike.ofInt 1) threshold)).getD false
  else if rule.reasonCode.1 = "ambiguous_object".toList then
    signalAtLeast signals.ambiguousObjectScore threshold
  else if rule.reasonCode.1 = "probable_label_error".toList then
    signalAtLeast signals.probableLabelErrorScore threshold
  else false

def recommendation (rule : RecommendationRule F) (evidence : EvidenceBundle F) :
    EvidenceRecommendation where
  objectId := evidence.objectId
  action := rule.action
  reasonCodes := ([rule.reasonCode] ++
    (if rule.reasonCode.1 = "ambiguous_object".toList then
      [literal "high_model_uncertainty", literal "low_prediction_margin"] else []) ++
    (if rule.reasonCode.1 = "probable_label_error".toList then
      [literal "high_confidence_label_conflict"] else [])).eraseDups

def recommendFromEvidence (policy : DecisionPolicy F) (evidence : EvidenceBundle F) :
    List EvidenceRecommendation :=
  (policy.recommendationRules.filter fun rule => rule.enabled && ruleMatches rule evidence).map
    fun rule => recommendation rule evidence

end Recommendations

end DataForge.Kernel.Policy
