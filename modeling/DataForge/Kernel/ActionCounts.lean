import DataForge.Kernel.ReviewActions
import DataForge.Foundation.Lists

namespace DataForge.Kernel.ActionCounts

open DataForge.Foundation.Lists
open DataForge.Foundation.Outcome
open DataForge.Foundation.Grouping
open DataForge.Foundation.Scores
open DataForge.Domain.Common
open DataForge.Domain.Artifact
open DataForge.Domain.Evidence
open DataForge.Domain.Report
open DataForge.Kernel.Policy
open DataForge.Kernel.DecisionReport
open DataForge.Kernel.GateDominance
open DataForge.Kernel.ReviewActions

variable {F : Type} [ScoreLike F] {policy : DecisionPolicy F} {inputs : PolicyInputEnvelope}
  {evidence : EvidenceBundle F} {bundles : List (EvidenceBundle F)}

section Objects

def hardBlocked (policy : DecisionPolicy F) (inputs : PolicyInputEnvelope)
    (evidence : EvidenceBundle F) : Bool :=
  (evaluateObjectDecision policy evidence (some inputs)).hardBlocked

def reasons (policy : DecisionPolicy F) (inputs : PolicyInputEnvelope)
    (evidence : EvidenceBundle F) : List NonEmptyStr :=
  (objectContext evidence policy inputs).decision.reasons

def ruleApplies (evidence : EvidenceBundle F) (rule : RecommendationRule F) : Bool :=
  rule.enabled && ruleMatches rule evidence

def matchesRule (policy : DecisionPolicy F) (evidence : EvidenceBundle F) : Bool :=
  policy.recommendationRules.any (ruleApplies evidence)

/-- What the actions should count: an object that no gate blocks and some rule matches, or one
that is blocked for its PII. -/
def expected (policy : DecisionPolicy F) (inputs : PolicyInputEnvelope)
    (evidence : EvidenceBundle F) : Bool :=
  if hardBlocked policy inputs evidence then literal "pii_unmasked" ∈ reasons policy inputs evidence
  else matchesRule policy evidence

def counted (policy : DecisionPolicy F) (inputs : PolicyInputEnvelope)
    (evidence : EvidenceBundle F) : Bool :=
  (recommendedActionForContext (objectContext evidence policy inputs)).isSome

/-- A rule that gives the objects it matches an action. -/
def Tracked (rule : RecommendationRule F) : Prop :=
  rule.reasonCode = literal "probable_label_error" ∨ rule.reasonCode = literal "ambiguous_object" ∨
    rule.action ∈ [RecommendedActionType.sendToPrivacyReview, .sendToDuplicateReview,
      .recommendImputationReview, .recommendRareClassAugmentation]

theorem mem_reasonCodes_recommendation {rule : RecommendationRule F} {code : NonEmptyStr}
    (h : code ∉ [literal "high_model_uncertainty", literal "low_prediction_margin",
      literal "high_confidence_label_conflict"]) :
    code ∈ (recommendation rule evidence).reasonCodes ↔ rule.reasonCode = code := by
  simp only [List.mem_cons, List.not_mem_nil, or_false, not_or] at h
  rw [recommendation, List.mem_eraseDups]
  split <;> split <;> simp [h, eq_comm]

theorem reviewable_recommendation_iff (rule : RecommendationRule F) :
    Reviewable (recommendation rule evidence) ↔ Tracked rule := by
  rw [Reviewable, mem_reasonCodes_recommendation (by decide),
    mem_reasonCodes_recommendation (by decide)]
  rfl

theorem counted_iff : counted policy inputs evidence = true ↔
    if hardBlocked policy inputs evidence = true then
      literal "pii_unmasked" ∈ reasons policy inputs evidence
    else ∃ rule ∈ policy.recommendationRules, ruleApplies evidence rule = true ∧ Tracked rule := by
  have haction : (objectContext evidence policy inputs).decision.action =
      objectAction (evaluateObjectDecision policy evidence (some inputs))
        (recommendFromEvidence policy evidence) := rfl
  have hexport : (objectContext evidence policy inputs).decision.action ≠ .exportReady := by
    rw [haction, objectAction]
    split_ifs <;> decide
  have hblock : (objectContext evidence policy inputs).decision.action = .blockExport ↔
      hardBlocked policy inputs evidence = true := objectAction_eq_blockExport
  have hkeep : (objectContext evidence policy inputs).decision.action ≠ .keep ↔
      hardBlocked policy inputs evidence = true ∨
        ∃ rule ∈ policy.recommendationRules, ruleApplies evidence rule = true ∧ Tracked rule := by
    refine objectAction_ne_keep_iff.trans (or_congr_right ?_)
    rw [exists_recommendation_iff]
    simp only [reviewable_recommendation_iff, ruleApplies]
  by_cases hblocked : hardBlocked policy inputs evidence = true
  · have hblocked' := hblock.mpr hblocked
    rw [if_pos hblocked, counted, recommendedActionForContext, if_neg (by rw [hblocked']; decide),
      if_pos hblocked', reasons]
    split <;> simp_all
  · have hblocked' := mt hblock.mp hblocked
    rw [if_neg hblocked, ← hkeep.trans (or_iff_right hblocked), counted,
      recommendedActionForContext]
    by_cases hkept : (objectContext evidence policy inputs).decision.action = .keep
    · rw [if_pos (.inl hkept)]
      simp [hkept]
    · rw [if_neg (not_or.mpr ⟨hkept, hexport⟩), if_neg hblocked']
      simp [hkept]

theorem expected_of_counted (h : counted policy inputs evidence = true) :
    expected policy inputs evidence = true := by
  rw [counted_iff] at h
  rw [expected]
  by_cases hblocked : hardBlocked policy inputs evidence = true
  · rw [if_pos hblocked] at h ⊢
    exact decide_eq_true h
  · rw [if_neg hblocked] at h ⊢
    obtain ⟨rule, hrule, happlies, -⟩ := h
    exact List.any_eq_true.mpr ⟨rule, hrule, happlies⟩

end Objects

section Groups

def contexts (policy : DecisionPolicy F) (inputs : PolicyInputEnvelope)
    (bundles : List (EvidenceBundle F)) : List (ObjectDecisionContext F) :=
  bundles.map fun evidence => objectContext evidence policy inputs

/-- The ids behind the counts of the recommended actions. -/
def countedIds (policy : DecisionPolicy F) (inputs : PolicyInputEnvelope)
    (bundles : List (EvidenceBundle F)) : List NonEmptyStr :=
  (recommendationGroups (contexts policy inputs bundles)).flatMap RecommendationGroup.objectIds

theorem countedIds_perm : (countedIds policy inputs bundles).Perm
    ((bundles.filter (counted policy inputs)).map EvidenceBundle.objectId) := by
  have hperm := (flatMap_groupItems ((contexts policy inputs bundles).filterMap fun context =>
    (recommendedActionForContext context).map fun action =>
      ((action, context.decision.modality, primaryReason context.decision.reasons), context))).map
    fun context => context.decision.objectId
  rw [map_snd_filterMap, contexts, List.filter_map, List.map_map] at hperm
  have hids : (countedIds policy inputs bundles) =
      ((groupItems ((contexts policy inputs bundles).filterMap
      fun context => (recommendedActionForContext context).map fun action =>
        ((action, context.decision.modality, primaryReason context.decision.reasons),
          context))).flatMap Prod.snd).map fun context => context.decision.objectId := by
    rw [countedIds, recommendationGroups, List.flatMap_map, List.map_flatMap]
  rw [hids]
  exact hperm

theorem sum_counts :
    ((recommendedActions (recommendationGroups (contexts policy inputs bundles))).map
    RecommendedAction.count).sum = bundles.countP (counted policy inputs) := by
  have hcounts : ∀ groups : List RecommendationGroup, (recommendedActions groups).map
      RecommendedAction.count = groups.map fun group => group.objectIds.length := by
    intro groups
    apply List.ext_getElem
    · simp [recommendedActions]
    · intro i hi hi'
      simp [recommendedActions, recommendedAction]
  rw [hcounts, ← List.length_flatMap, List.countP_eq_length_filter]
  have hlength : (countedIds policy inputs bundles).length = _ := countedIds_perm.length_eq
  rw [List.length_map] at hlength
  exact hlength

theorem recommendedActions_eq_nil :
    recommendedActions (recommendationGroups (contexts policy inputs bundles)) =
    [] ↔ ∀ evidence ∈ bundles, counted policy inputs evidence = false := by
  constructor
  · intro h evidence hevidence
    have hzero : ((recommendedActions (recommendationGroups (contexts policy inputs bundles))).map
        RecommendedAction.count).sum = bundles.countP (counted policy inputs) := sum_counts
    rw [h] at hzero
    rw [Bool.eq_false_iff]
    exact fun hcounted => List.countP_eq_zero.mp hzero.symm evidence hevidence hcounted
  · intro h
    have hnone : (contexts policy inputs bundles).filterMap (fun context =>
        (recommendedActionForContext context).map fun action =>
          ((action, context.decision.modality, primaryReason context.decision.reasons), context)) =
            [] := by
      rw [List.filterMap_eq_nil_iff]
      intro context hcontext
      obtain ⟨evidence, hevidence, rfl⟩ := List.mem_map.mp hcontext
      have hnot := h evidence hevidence
      rw [counted, Option.isSome_eq_false_iff, Option.isNone_iff_eq_none] at hnot
      rw [hnot]
      rfl
    rw [recommendationGroups, hnone]
    rfl

end Groups

section Reports

variable {p : Platform} {request : BuildDecisionReportRequest} {now : Datetime}
  {report : DecisionReport F}

theorem buildDecisionReport_eq_ok
    (h : buildDecisionReport p bundles request policy (some inputs) now = .ok report) :
    report.recommendedActions =
        recommendedActions (recommendationGroups (contexts policy inputs bundles)) ∧
      report.datasetDecision = datasetDecision report.criticalBlockers report.recommendedActions ∧
      criticalBlockers (evaluateHardGates policy inputs) (contexts policy inputs bundles) =
        .ok report.criticalBlockers := by
  obtain ⟨blockers, hblockers, h⟩ := bind_eq_ok.mp h
  obtain rfl := Except.ok.inj h
  exact ⟨rfl, rfl, hblockers⟩

/-- Without a critical blocker no object is blocked. -/
theorem not_hardBlocked
    (h : buildDecisionReport p bundles request policy (some inputs) now = .ok report)
    (hnone : report.criticalBlockers = []) (hevidence : evidence ∈ bundles) :
    hardBlocked policy inputs evidence = false := by
  rw [Bool.eq_false_iff]
  intro hblocked
  obtain ⟨blockers, hblockers, htriggered, -⟩ := criticalBlockers_spec policy bundles inputs
  obtain ⟨gate, hgate, htriggers⟩ := hardBlocked_iff.mp hblocked
  obtain ⟨blocker, hblocker, -⟩ := htriggered gate.reasonCode
    (.inr ⟨evidence, hevidence, gate, hgate, htriggers, rfl⟩)
  obtain rfl := Except.ok.inj (hblockers.symm.trans (buildDecisionReport_eq_ok h).2.2)
  rw [hnone] at hblocker
  cases hblocker

/-- The recommended actions count every object that they should, once, and the dataset is ready
only if there is none. -/
structure AccountsFor (policy : DecisionPolicy F) (inputs : PolicyInputEnvelope)
    (bundles : List (EvidenceBundle F)) (report : DecisionReport F) : Prop where
  sum : (report.recommendedActions.map RecommendedAction.count).sum =
    (bundles.countP fun evidence => !hardBlocked policy inputs evidence &&
      matchesRule policy evidence) +
      bundles.countP fun evidence => hardBlocked policy inputs evidence &&
        literal "pii_unmasked" ∈ reasons policy inputs evidence
  once : ∀ evidence ∈ bundles, expected policy inputs evidence = true →
    (countedIds policy inputs bundles).count evidence.objectId = 1
  ready : report.criticalBlockers = [] → (report.datasetDecision = .readyForTraining ↔
    ∀ evidence ∈ bundles, matchesRule policy evidence = false)

theorem countP_expected : bundles.countP (expected policy inputs) =
    (bundles.countP fun evidence => !hardBlocked policy inputs evidence &&
      matchesRule policy evidence) +
      bundles.countP fun evidence => hardBlocked policy inputs evidence &&
        literal "pii_unmasked" ∈ reasons policy inputs evidence := by
  induction bundles with
  | nil => rfl
  | cons evidence bundles ih =>
    rw [List.countP_cons, List.countP_cons, List.countP_cons, ih, expected]
    cases hardBlocked policy inputs evidence
    · simp
      omega
    · simp
      omega

/-- The actions account for every object exactly where each object that is not blocked and
matches a rule matches one that gives it an action. -/
theorem accountsFor_iff (hids : (bundles.map EvidenceBundle.objectId).Nodup)
    (h : buildDecisionReport p bundles request policy (some inputs) now = .ok report) :
    AccountsFor policy inputs bundles report ↔
      ∀ evidence ∈ bundles, hardBlocked policy inputs evidence = false →
        matchesRule policy evidence = true →
          ∃ rule ∈ policy.recommendationRules, ruleApplies evidence rule = true ∧ Tracked rule := by
  obtain ⟨hactions, hdataset, -⟩ := buildDecisionReport_eq_ok h
  have hcondition : (∀ evidence ∈ bundles, expected policy inputs evidence = true →
      counted policy inputs evidence = true) ↔ ∀ evidence ∈ bundles,
        hardBlocked policy inputs evidence = false → matchesRule policy evidence = true →
          ∃ rule ∈ policy.recommendationRules, ruleApplies evidence rule = true ∧ Tracked rule := by
    refine forall₂_congr fun evidence _ => ?_
    rw [counted_iff, expected]
    cases hardBlocked policy inputs evidence
    · simp
    · simp
  rw [← hcondition]
  constructor
  · intro haccounts
    have hsum := haccounts.sum
    rw [hactions, sum_counts, ← countP_expected] at hsum
    exact (countP_eq_countP_iff fun _ _ => expected_of_counted).mp hsum.symm
  · intro hall
    have hsame :
        ∀ evidence ∈ bundles, counted policy inputs evidence = expected policy inputs evidence :=
      fun evidence hevidence => Bool.eq_iff_iff.mpr ⟨expected_of_counted, hall evidence hevidence⟩
    refine ⟨?_, fun evidence hevidence hexpected => ?_, fun hnone => ?_⟩
    · rw [hactions, sum_counts, ← countP_expected]
      exact List.countP_congr fun evidence hevidence => by rw [hsame evidence hevidence]
    · have hmem : evidence.objectId ∈ countedIds policy inputs bundles :=
        countedIds_perm.mem_iff.mpr (List.mem_map_of_mem (List.mem_filter.mpr
          ⟨hevidence, hall evidence hevidence hexpected⟩))
      have hnodup : (countedIds policy inputs bundles).Nodup :=
        countedIds_perm.nodup_iff.mpr (hids.sublist (List.filter_sublist.map _))
      exact List.count_eq_one_of_mem hnodup hmem
    · have hready :
          report.datasetDecision = .readyForTraining ↔ report.recommendedActions = [] := by
        rw [hdataset, hnone, datasetDecision, if_neg (fun hne => hne rfl)]
        split
        · next hne => exact iff_of_false (by decide) hne
        · next hnil => exact iff_of_true rfl (not_not.mp hnil)
      rw [hready, hactions, recommendedActions_eq_nil]
      refine forall₂_congr fun evidence hevidence => ?_
      rw [hsame evidence hevidence, expected, not_hardBlocked h hnone hevidence,
        if_neg Bool.false_ne_true]

end Reports

section Examples

def notMeasured : NormalizedSignal ℚ := .missing (literal "not_measured")

/-- An object of the poorest quality, and nothing else known of it. -/
def poorObject : EvidenceBundle ℚ where
  evidenceBundleId := literal "bundle"
  objectId := literal "object"
  modality := .tabular
  signals :=
    { technicalQuality := .available .zero
      duplicateScore := notMeasured
      privacyRisk := notMeasured
      labelIssueScore := notMeasured
      rareSegmentScore := notMeasured
      businessImportance := notMeasured
      modelUncertainty := notMeasured
      predictionConfidence := notMeasured
      predictionMargin := notMeasured
      predictionEntropy := notMeasured
      ambiguousObjectScore := notMeasured
      probableLabelErrorScore := notMeasured }
  evidenceRefs := []

theorem exists_report (p : Platform) (policy : DecisionPolicy F) (inputs : PolicyInputEnvelope)
    (bundles : List (EvidenceBundle F)) (request : BuildDecisionReportRequest) (now : Datetime) :
    ∃ report, buildDecisionReport p bundles request policy (some inputs) now = .ok report := by
  obtain ⟨blockers, hblockers, -⟩ := criticalBlockers_spec policy bundles inputs
  exact ⟨_, bind_eq_ok.mpr ⟨blockers, hblockers, rfl⟩⟩

theorem poorObject_matches : hardBlocked loadDecisionPolicyV0 .empty poorObject = false ∧
    matchesRule loadDecisionPolicyV0 poorObject = true := by
  decide +kernel

/-- An object whose quality calls for a report matches a rule, and no action counts it. -/
theorem poorObject_not_counted : counted loadDecisionPolicyV0 .empty poorObject = false := by
  decide +kernel

def poorRequest : BuildDecisionReportRequest := ⟨literal "dataset", literal "version", none, none⟩

theorem accounts_for_poor_object : ∃ report,
    buildDecisionReport asciiPlatform [poorObject] poorRequest loadDecisionPolicyV0 (some .empty)
      ⟨0, none⟩ = .ok report ∧
    (AccountsFor loadDecisionPolicyV0 .empty [poorObject] report ↔
      ∀ evidence ∈ [poorObject], hardBlocked loadDecisionPolicyV0 .empty evidence = false →
        matchesRule loadDecisionPolicyV0 evidence = true →
          ∃ rule ∈ loadDecisionPolicyV0.recommendationRules,
            ruleApplies evidence rule = true ∧ Tracked rule) := by
  obtain ⟨report, hreport⟩ := exists_report asciiPlatform loadDecisionPolicyV0 .empty [poorObject]
    poorRequest ⟨0, none⟩
  exact ⟨report, hreport, accountsFor_iff (List.nodup_singleton _) hreport⟩

/-- The report of that one object counts nothing. -/
theorem poor_object_forgotten : ∃ report,
    buildDecisionReport asciiPlatform [poorObject] poorRequest loadDecisionPolicyV0 (some .empty)
      ⟨0, none⟩ = .ok report ∧
    report.recommendedActions = [] ∧ report.datasetDecision = .readyForTraining ∧
    ¬ AccountsFor loadDecisionPolicyV0 .empty [poorObject] report := by
  obtain ⟨report, hreport⟩ := exists_report asciiPlatform loadDecisionPolicyV0 .empty [poorObject]
    poorRequest ⟨0, none⟩
  obtain ⟨hactions, hdataset, hblockers⟩ := buildDecisionReport_eq_ok hreport
  obtain ⟨hfree, hmatches⟩ := poorObject_matches
  have hnil : report.recommendedActions = [] := by
    rw [hactions, recommendedActions_eq_nil]
    intro evidence hevidence
    rw [List.mem_singleton.mp hevidence]
    exact poorObject_not_counted
  have hnone : report.criticalBlockers = [] := by
    have hrun : (criticalBlockers (evaluateHardGates (F := ℚ) loadDecisionPolicyV0 .empty)
        (contexts loadDecisionPolicyV0 .empty [poorObject])).toOption.map List.length = some 0 := by
      decide +kernel
    rw [hblockers] at hrun
    exact List.length_eq_zero_iff.mp (Option.some.inj hrun)
  refine ⟨report, hreport, hnil, ?_, fun haccounts => ?_⟩
  · rw [hdataset, hnone, hnil]
    rfl
  · have hsum := haccounts.sum
    rw [hnil, List.countP_cons, List.countP_cons, hfree, hmatches] at hsum
    exact absurd hsum (by simp)

end Examples

end DataForge.Kernel.ActionCounts
