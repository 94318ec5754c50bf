import DataForge.Kernel.DisabledGates

namespace DataForge.Kernel.ReviewActions

open DataForge.Foundation
open DataForge.Foundation.Outcome
open DataForge.Foundation.Scores
open DataForge.Domain.Common
open DataForge.Domain.Artifact
open DataForge.Domain.Evidence
open DataForge.Domain.Report
open DataForge.Kernel.Policy
open DataForge.Kernel.DecisionReport
open DataForge.Kernel.GateDominance
open DataForge.Kernel.DisabledGates
open ScoreLike

variable {F : Type} [ScoreLike F]

section Actions

/-- A recommendation that gives its object an action of its own. -/
def Reviewable (r : EvidenceRecommendation) : Prop :=
  literal "probable_label_error" ∈ r.reasonCodes ∨ literal "ambiguous_object" ∈ r.reasonCodes ∨
    r.action ∈ [RecommendedActionType.sendToPrivacyReview, .sendToDuplicateReview,
      .recommendImputationReview, .recommendRareClassAugmentation]

theorem objectAction_ne_keep_iff {evaluation : ObjectDecisionEvaluation F}
    {recommendations : List EvidenceRecommendation} :
    objectAction evaluation recommendations ≠ .keep ↔
      evaluation.hardBlocked = true ∨ ∃ r ∈ recommendations, Reviewable r := by
  have hreview : (∃ r ∈ recommendations, Reviewable r) ↔
      literal "probable_label_error" ∈ recommendedCodes recommendations ∨
        literal "ambiguous_object" ∈ recommendedCodes recommendations ∨
        RecommendedActionType.sendToPrivacyReview ∈ recommendations.map
          EvidenceRecommendation.action ∨
        RecommendedActionType.sendToDuplicateReview ∈
          recommendations.map EvidenceRecommendation.action ∨
        RecommendedActionType.recommendImputationReview ∈
          recommendations.map EvidenceRecommendation.action ∨
        RecommendedActionType.recommendRareClassAugmentation ∈
          recommendations.map EvidenceRecommendation.action := by
    simp only [Reviewable, recommendedCodes, List.mem_flatMap, List.mem_map, List.mem_cons,
      List.not_mem_nil, or_false, and_or_left, exists_or]
  rw [hreview, objectAction]
  split_ifs <;> simp_all

/-- The signals for which the default policy has rules that ask for an action. -/
def ReviewSignals (evidence : EvidenceBundle F) : Prop :=
  signalAtLeast evidence.signals.duplicateScore (decimal 5 1) = true ∨
    signalAtLeast evidence.signals.rareSegmentScore (decimal 7 1) = true ∨
    ((evidence.modality = .text ∨ evidence.modality = .documentOcr) ∧
      signalAtLeast evidence.signals.privacyRisk (decimal 1 2) = true) ∨
    signalAtLeast evidence.signals.ambiguousObjectScore (decimal 5 1) = true ∨
    signalAtLeast evidence.signals.probableLabelErrorScore (decimal 5 1) = true

theorem exists_recommendation_iff {policy : DecisionPolicy F} {evidence : EvidenceBundle F}
    {P : EvidenceRecommendation → Prop} : (∃ r ∈ recommendFromEvidence policy evidence, P r) ↔
      ∃ rule ∈ policy.recommendationRules, (rule.enabled && ruleMatches rule evidence) = true ∧
        P (recommendation rule evidence) := by
  simp only [recommendFromEvidence, List.mem_map, List.mem_filter]
  constructor
  · rintro ⟨_, ⟨rule, ⟨hrule, hmatch⟩, rfl⟩, hP⟩
    exact ⟨rule, hrule, hmatch, hP⟩
  · rintro ⟨rule, hrule, hmatch, hP⟩
    exact ⟨_, ⟨rule, ⟨hrule, hmatch⟩, rfl⟩, hP⟩

/-- The rule makes a recommendation that gives its object an action. -/
def Applies (rule : RecommendationRule F) (evidence : EvidenceBundle F) : Prop :=
  (rule.enabled && ruleMatches rule evidence) = true ∧ Reviewable (recommendation rule evidence)

theorem reviewable_iff (evidence : EvidenceBundle F) :
    (∃ r ∈ recommendFromEvidence loadDecisionPolicyV0 evidence, Reviewable r) ↔
      ReviewSignals evidence := by
  have hrules : (loadDecisionPolicyV0 : DecisionPolicy F).recommendationRules =
      defaultRecommendationRules := rfl
  have hmissing : ¬ (Applies (rule (literal "missing_numeric") .recommendImputationReview
      (Score.fraction 1 1)) evidence) := fun h => Bool.false_ne_true h.1
  have hduplicate : Applies (rule (literal "exact_duplicate") .sendToDuplicateReview
      (Score.fraction 5 1)) evidence ↔
        signalAtLeast evidence.signals.duplicateScore (decimal 5 1) = true :=
    and_iff_left (Or.inr (Or.inr (by simp [recommendation, rule])))
  have hrare : Applies (rule (literal "rare_class_underrepresented") .recommendRareClassAugmentation
      (Score.fraction 7 1)) evidence ↔
        signalAtLeast evidence.signals.rareSegmentScore (decimal 7 1) = true :=
    and_iff_left (Or.inr (Or.inr (by simp [recommendation, rule])))
  have hpii : Applies (rule (literal "text_pii_detected") .sendToPrivacyReview
      (Score.fraction 1 2)) evidence ↔
        (evidence.modality = .text ∨ evidence.modality = .documentOcr) ∧
          signalAtLeast evidence.signals.privacyRisk (decimal 1 2) = true := by
    refine (and_iff_left (Or.inr (Or.inr (by simp [recommendation, rule])))).trans ?_
    rw [← decide_eq_true_iff (p := evidence.modality = .text ∨ evidence.modality = .documentOcr),
      Bool.decide_or, ← Bool.and_eq_true]
    rfl
  have houtlier : ¬ (Applies (rule (literal "severe_outlier") .reportAndReview
      (Score.fraction 75 2)) evidence) := by
    rintro ⟨-, hreviewable⟩
    have hcodes : (recommendation (rule (literal "severe_outlier") .reportAndReview
        (Score.fraction 75 2)) evidence).reasonCodes = [literal "severe_outlier"] := rfl
    rw [Reviewable, hcodes] at hreviewable
    exact absurd hreviewable (by simp [recommendation, rule]; decide)
  have hambiguous : Applies (rule (literal "ambiguous_object") .sendToLabelReview
      (Score.fraction 5 1)) evidence ↔
        signalAtLeast evidence.signals.ambiguousObjectScore (decimal 5 1) = true :=
    and_iff_left (Or.inr (Or.inl (by simp [recommendation, rule])))
  have hprobable : Applies (rule (literal "probable_label_error") .sendToLabelReview
      (Score.fraction 5 1)) evidence ↔
        signalAtLeast evidence.signals.probableLabelErrorScore (decimal 5 1) = true :=
    and_iff_left (Or.inl (by simp [recommendation, rule]))
  rw [exists_recommendation_iff, hrules, defaultRecommendationRules, List.exists_mem_cons_iff,
    List.exists_mem_cons_iff, List.exists_mem_cons_iff, List.exists_mem_cons_iff,
    List.exists_mem_cons_iff, List.exists_mem_cons_iff, List.exists_mem_cons_iff]
  change Applies _ _ ∨ Applies _ _ ∨ Applies _ _ ∨ Applies _ _ ∨ Applies _ _ ∨ Applies _ _ ∨
    Applies _ _ ∨ _ ↔ _
  rw [hduplicate, hrare, hpii, hambiguous, hprobable]
  simp only [hmissing, houtlier, false_or, List.not_mem_nil, false_and, exists_false, or_false,
    ReviewSignals]

end Actions

section Reports

variable {p : Platform} {evidence : EvidenceBundle F} {inputs : Option PolicyInputEnvelope}

/-- In every report about the object it has an action and the dataset is not ready. -/
def LeadsToReview (p : Platform) (evidence : EvidenceBundle F)
    (inputs : Option PolicyInputEnvelope) : Prop :=
  ∀ (bundles : List (EvidenceBundle F)) (request : BuildDecisionReportRequest) (now : Datetime)
    (i : Nat), bundles[i]? = some evidence →
      ∃ report decision,
        buildDecisionReport p bundles request loadDecisionPolicyV0 inputs now = .ok report ∧
        report.objectDecisions[i]? = some decision ∧ decision.objectId = evidence.objectId ∧
        decision.action ≠ .keep ∧ report.datasetDecision ≠ .readyForTraining

def decisionFor (evidence : EvidenceBundle F) (inputs : Option PolicyInputEnvelope) :
    ObjectLevelDecision F :=
  (objectContext evidence loadDecisionPolicyV0 (inputs.getD .empty)).decision

theorem recommendedActionForContext_eq_some {context : ObjectDecisionContext F}
    (hkeep : context.decision.action ≠ .keep) (hexport : context.decision.action ≠ .exportReady)
    (hblock : context.decision.action ≠ .blockExport) :
    recommendedActionForContext context = some context.decision.action := by
  rw [recommendedActionForContext, if_neg (not_or.mpr ⟨hkeep, hexport⟩), if_neg hblock]

theorem recommendationGroups_ne_nil {contexts : List (ObjectDecisionContext F)}
    {context : ObjectDecisionContext F} {action : DecisionAction} (hmem : context ∈ contexts)
    (haction : recommendedActionForContext context = some action) :
    recommendationGroups contexts ≠ [] := by
  intro hnil
  have hempty := Grouping.flatMap_groupItems (contexts.filterMap fun context =>
    (recommendedActionForContext context).map fun action =>
      ((action, context.decision.modality, primaryReason context.decision.reasons), context))
  rw [recommendationGroups, List.map_eq_nil_iff] at hnil
  rw [hnil, List.flatMap_nil, List.nil_perm, List.map_eq_nil_iff,
    List.filterMap_eq_nil_iff] at hempty
  have hnone := hempty context hmem
  rw [haction] at hnone
  cases hnone

/-- An object with an action of its own keeps the dataset from being ready. -/
theorem not_ready_of_action {contexts : List (ObjectDecisionContext F)}
    {blockers : List CriticalBlocker} (hmem : objectContext evidence loadDecisionPolicyV0
      (inputs.getD .empty) ∈ contexts) (haction : (decisionFor evidence inputs).action ≠ .keep)
    (hblocked : (decisionFor evidence inputs).action = .blockExport → blockers ≠ []) :
    datasetDecision blockers (recommendedActions (recommendationGroups contexts)) ≠
      .readyForTraining := by
  rw [datasetDecision]
  split
  · decide
  · next hnone =>
    have hblock : (decisionFor evidence inputs).action ≠ .blockExport := fun h => hnone (hblocked h)
    have hexport : (decisionFor evidence inputs).action ≠ .exportReady := by
      change objectAction _ _ ≠ _
      rw [objectAction]
      split_ifs <;> decide
    have hgroups := recommendationGroups_ne_nil hmem
      (recommendedActionForContext_eq_some haction hexport hblock)
    have hactions : recommendedActions (recommendationGroups contexts) ≠ [] := by
      simpa [recommendedActions] using hgroups
    rw [if_pos hactions]
    decide

/-- The report of a dataset with the object: its decision, and the dataset's. -/
theorem report_of_bundle {bundles : List (EvidenceBundle F)} (request : BuildDecisionReportRequest)
    (now : Datetime) {i : Nat} (hi : bundles[i]? = some evidence) : ∃ blockers report,
      buildDecisionReport p bundles request loadDecisionPolicyV0 inputs now = .ok report ∧
      report.objectDecisions[i]? = some (decisionFor evidence inputs) ∧
      report.datasetDecision = datasetDecision blockers (recommendedActions
        (recommendationGroups (bundles.map fun evidence =>
          objectContext evidence loadDecisionPolicyV0 (inputs.getD .empty)))) ∧
      ((decisionFor evidence inputs).action = .blockExport → blockers ≠ []) := by
  obtain ⟨blockers, hblockers, htriggered, -⟩ :=
    criticalBlockers_spec (loadDecisionPolicyV0 : DecisionPolicy F) bundles (inputs.getD .empty)
  have hreport : ∃ report, buildDecisionReport p bundles request loadDecisionPolicyV0 inputs now =
      .ok report ∧
      report.objectDecisions = (bundles.map fun evidence => objectContext evidence
        loadDecisionPolicyV0 (inputs.getD .empty)).map ObjectDecisionContext.decision ∧
      report.datasetDecision = datasetDecision blockers (recommendedActions
        (recommendationGroups (bundles.map fun evidence =>
          objectContext evidence loadDecisionPolicyV0 (inputs.getD .empty)))) := by
    rw [buildDecisionReport, hblockers, ok_bind]
    exact ⟨_, rfl, rfl, rfl⟩
  obtain ⟨report, hreport, hdecisions, hdecision⟩ := hreport
  refine ⟨blockers, report, hreport, ?_, hdecision, fun hblock => ?_⟩
  · rw [hdecisions, List.getElem?_map, List.getElem?_map, hi]
    rfl
  · obtain ⟨gate, hgate, htriggers⟩ := hardBlocked_iff.mp (objectAction_eq_blockExport.mp hblock)
    obtain ⟨blocker, hblocker, -⟩ := htriggered gate.reasonCode
      (Or.inr ⟨evidence, List.mem_of_getElem? hi, gate, hgate, htriggers, rfl⟩)
    exact List.ne_nil_of_mem hblocker

theorem leadsToReview_iff_action :
    LeadsToReview p evidence inputs ↔ (decisionFor evidence inputs).action ≠ .keep := by
  constructor
  · intro h
    have request : BuildDecisionReportRequest := ⟨literal "d", literal "v", none, none⟩
    have now : Datetime := ⟨0, none⟩
    obtain ⟨report, decision, hreport, hdecision, -, haction, -⟩ := h [evidence] request now 0 rfl
    obtain ⟨_, report', hreport', hdecision', -⟩ := report_of_bundle request now
      (show [evidence][0]? = some evidence from rfl)
    obtain rfl := Except.ok.inj (hreport.symm.trans hreport')
    obtain rfl := Option.some.inj (hdecision.symm.trans hdecision')
    exact haction
  · intro haction bundles request now i hi
    obtain ⟨blockers, report, hreport, hdecision, hdataset, hblocked⟩ :=
      report_of_bundle request now hi
    refine ⟨report, _, hreport, hdecision, rfl, haction, ?_⟩
    rw [hdataset]
    exact not_ready_of_action (List.mem_map_of_mem (List.mem_of_getElem? hi)) haction hblocked

theorem exists_default_gate (gateId : HardGateId) :
    ∃ gate ∈ defaultHardGates, gate.enabled = true ∧ gate.gateId = gateId := by
  cases gateId <;> decide

theorem action_ne_keep_iff : (decisionFor evidence inputs).action ≠ .keep ↔
    (∃ gateId, gateTriggered gateId (inputs.getD .empty) = true) ∨
      signalAtLeast evidence.signals.privacyRisk (decimal 80 2) =
        true ∨ ReviewSignals evidence := by
  have hblocked : (evaluateObjectDecision loadDecisionPolicyV0 evidence
      (some (inputs.getD .empty))).hardBlocked = true ↔
        (∃ gateId, gateTriggered gateId (inputs.getD .empty) = true) ∨
          signalAtLeast evidence.signals.privacyRisk (decimal 80 2) = true := by
    refine objectAction_eq_blockExport.symm.trans (blockExport_iff.trans ?_)
    constructor
    · rintro ⟨gate, -, ⟨other, -, -, -, htriggered⟩ | ⟨-, hrisk⟩⟩
      · exact Or.inl ⟨_, htriggered⟩
      · exact Or.inr hrisk
    · rintro (⟨gateId, htriggered⟩ | hrisk)
      · obtain ⟨gate, hgate, henabled, rfl⟩ := exists_default_gate gateId
        exact ⟨gate, hgate, Or.inl ⟨gate, hgate, henabled, rfl, htriggered⟩⟩
      · obtain ⟨gate, hgate, -, hid⟩ := exists_default_gate .piiUnmasked
        exact ⟨gate, hgate, Or.inr ⟨hid, hrisk⟩⟩
  refine objectAction_ne_keep_iff.trans ?_
  rw [hblocked, reviewable_iff, or_assoc]

end Reports

end DataForge.Kernel.ReviewActions
