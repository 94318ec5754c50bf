import DataForge.Domain.Report
import DataForge.Foundation.Grouping
import DataForge.Kernel.Policy

namespace DataForge.Kernel.DecisionReport

open DataForge.Foundation.Strings
open DataForge.Foundation.Sha256
open DataForge.Foundation.Outcome
open DataForge.Foundation.Dictionary
open DataForge.Foundation.Grouping
open DataForge.Foundation.Scores
open DataForge.Domain.Common
open DataForge.Domain.Artifact
open DataForge.Domain.Decision
open DataForge.Domain.Evidence
open DataForge.Domain.Report
open DataForge.Kernel.Policy

structure BuildDecisionReportRequest where
  datasetId : NonEmptyStr
  versionId : NonEmptyStr
  decisionReportId : Option Text
  generatedAt : Option Datetime

structure ObjectDecisionContext (F : Type) [ScoreLike F] where
  evidence : EvidenceBundle F
  evaluation : ObjectDecisionEvaluation F
  recommendations : List EvidenceRecommendation
  decision : ObjectLevelDecision F

structure RecommendationGroup where
  action : DecisionAction
  modality : DataModality
  primaryReason : NonEmptyStr
  objectIds : List NonEmptyStr
  reasonCodes : List NonEmptyStr

section Objects

variable {F : Type} [ScoreLike F]

def recommendedCodes (recommendations : List EvidenceRecommendation) : List NonEmptyStr :=
  recommendations.flatMap EvidenceRecommendation.reasonCodes

def objectReasonCodes (evaluation : ObjectDecisionEvaluation F)
    (recommendations : List EvidenceRecommendation) : List NonEmptyStr :=
  let codes := recommendedCodes recommendations ++ evaluation.reasonCodes ++
    evaluation.objectValueScore.reasonCodes
  if codes = [] then [literal "export_ready"] else codes.eraseDups

def objectAction (evaluation : ObjectDecisionEvaluation F)
    (recommendations : List EvidenceRecommendation) : DecisionAction :=
  let reasonCodes := recommendedCodes recommendations
  let actionTypes := recommendations.map EvidenceRecommendation.action
  if evaluation.hardBlocked then .blockExport
  else if literal "probable_label_error" ∈ reasonCodes then .sendToLabelReview
  else if literal "ambiguous_object" ∈ reasonCodes then .sendToLabelReview
  else if RecommendedActionType.sendToPrivacyReview ∈ actionTypes then .sendToPrivacyReview
  else if RecommendedActionType.sendToDuplicateReview ∈ actionTypes then .removeDuplicate
  else if RecommendedActionType.recommendImputationReview ∈ actionTypes then .imputeMissingValues
  else if RecommendedActionType.recommendRareClassAugmentation ∈ actionTypes then .augmentRareClass
  else .keep

def blockedActions (evaluation : ObjectDecisionEvaluation F) : List BlockedDecisionAction :=
  if evaluation.hardBlocked then
    let reasons := if evaluation.reasonCodes = [] then evaluation.objectValueScore.reasonCodes
      else evaluation.reasonCodes
    [⟨.exportReady, "Hard policy gates must be resolved before export.", reasons⟩]
  else []

def objectContext (evidence : EvidenceBundle F) (policy : DecisionPolicy F)
    (inputs : PolicyInputEnvelope) : ObjectDecisionContext F :=
  let evaluation := evaluateObjectDecision policy evidence (some inputs)
  let recommendations := recommendFromEvidence policy evidence
  { evidence := evidence
    evaluation := evaluation
    recommendations := recommendations
    decision :=
      { objectId := evidence.objectId
        modality := evidence.modality
        action := objectAction evaluation recommendations
        reasons := objectReasonCodes evaluation recommendations
        blockedActions := blockedActions evaluation
        objectValueScore := evaluation.objectValueScore.value } }

theorem objectAction_eq_blockExport {evaluation : ObjectDecisionEvaluation F}
    {recommendations : List EvidenceRecommendation} :
    objectAction evaluation recommendations = .blockExport ↔ evaluation.hardBlocked = true := by
  rw [objectAction]
  constructor
  · intro h
    by_contra hblocked
    rw [if_neg hblocked] at h
    split_ifs at h
  · intro h
    rw [if_pos h]

theorem exportReady_blocked {evaluation : ObjectDecisionEvaluation F}
    (h : evaluation.hardBlocked = true) :
    ∃ blocked ∈ blockedActions evaluation, blocked.action = .exportReady := by
  rw [blockedActions, if_pos h]
  exact ⟨_, List.mem_singleton_self _, rfl⟩

end Objects

section Blockers

variable {F : Type} [ScoreLike F]

/-- `code.upper()`, for the registered codes, which are ASCII. -/
def upper (code : NonEmptyStr) : NonEmptyStr :=
  ⟨code.1.map Char.toUpper, by simpa using code.2⟩

def limitedRefs (refs : List EvidenceRef) : List EvidenceRef := refs.take 3

def criticalBlocker (gate : HardGateEvaluation) (evidenceRefs : List EvidenceRef) :
    Result CriticalBlocker := do
  let definition ← require gate.reasonCode
  pure ⟨upper gate.reasonCode, "critical", definition.description, evidenceRefs⟩

def addDatasetGate (blockers : Dict NonEmptyStr CriticalBlocker) (gate : HardGateEvaluation) :
    Result (Dict NonEmptyStr CriticalBlocker) :=
  if gate.triggered then do
    let blocker ← criticalBlocker gate []
    pure (if contains gate.reasonCode blockers then blockers
      else set gate.reasonCode blocker blockers)
  else pure blockers

def addObjectGate (evidenceRefs : List EvidenceRef) (blockers : Dict NonEmptyStr CriticalBlocker)
    (gate : HardGateEvaluation) : Result (Dict NonEmptyStr CriticalBlocker) :=
  if gate.triggered then do
    let definition ← require gate.reasonCode
    let refs := limitedRefs evidenceRefs
    pure <| match get? gate.reasonCode blockers with
      | none => set gate.reasonCode
          ⟨upper gate.reasonCode, "critical", definition.description, refs⟩ blockers
      | some existing => set gate.reasonCode
          { existing with evidenceRefs := (existing.evidenceRefs ++ refs).eraseDups } blockers
  else pure blockers

def criticalBlockers (datasetGates : List HardGateEvaluation)
    (objectContexts : List (ObjectDecisionContext F)) : Result (List CriticalBlocker) := do
  let blockers ← datasetGates.foldlM addDatasetGate []
  let blockers ← objectContexts.foldlM (fun blockers context =>
    context.evaluation.hardGates.foldlM (addObjectGate context.evidence.evidenceRefs) blockers)
    blockers
  pure (blockers.map Prod.snd)

end Blockers

section Groups

variable {F : Type} [ScoreLike F]

def recommendedActionForContext (context : ObjectDecisionContext F) : Option DecisionAction :=
  if context.decision.action = .keep ∨ context.decision.action = .exportReady then none
  else if context.decision.action = .blockExport then
    if literal "pii_unmasked" ∈ context.decision.reasons then some .sendToPrivacyReview else none
  else some context.decision.action

def primaryReasons : List NonEmptyStr :=
  [literal "probable_label_error", literal "ambiguous_object", literal "text_pii_detected",
    literal "pii_unmasked", literal "exact_duplicate", literal "rare_class_underrepresented",
    literal "missing_numeric"]

def primaryReason (reasonCodes : List NonEmptyStr) : NonEmptyStr :=
  ((primaryReasons.find? (· ∈ reasonCodes)).or reasonCodes.head?).getD (literal "review_required")

def recommendationGroups (contexts : List (ObjectDecisionContext F)) : List RecommendationGroup :=
  (groupItems (contexts.filterMap fun context => (recommendedActionForContext context).map
    fun action => ((action, context.decision.modality, primaryReason context.decision.reasons),
      context))).map fun entry =>
    { action := entry.1.1
      modality := entry.1.2.1
      primaryReason := entry.1.2.2
      objectIds := entry.2.map fun member => member.decision.objectId
      reasonCodes := ((entry.2.flatMap fun member => member.decision.reasons).filter
        (· ≠ literal "export_ready")).eraseDups }

def slug (value : Text) : Text :=
  (value.map Char.toLower).map fun c => if c = '_' then '-' else c

def recommendationReason (group : RecommendationGroup) : String :=
  let reason := group.primaryReason.1
  if reason = "probable_label_error".toList then
    "Probable label errors require label review before training or export."
  else if reason = "ambiguous_object".toList then
    "Ambiguous prediction evidence requires label review."
  else if reason = "text_pii_detected".toList ∨ reason = "pii_unmasked".toList then
    "Privacy evidence requires review or redaction before export."
  else if reason = "exact_duplicate".toList then
    "Exact duplicate evidence supports duplicate removal."
  else if reason = "rare_class_underrepresented".toList then
    "Underrepresented class evidence supports rare-class augmentation."
  else if reason = "missing_numeric".toList then
    "Missing numeric evidence supports imputation review."
  else "Decision Core evidence requires review."

def recommendedAction (index : Nat) (group : RecommendationGroup) : RecommendedAction where
  recommendationId := "rec_".toList ++ slug group.action.value ++ '_' :: group.primaryReason.1 ++
    '_' :: Nat.toDigits 10 (index + 1)
  action := group.action
  modality := group.modality
  count := group.objectIds.length
  reasonCodes := if group.reasonCodes = [] then [group.primaryReason] else group.reasonCodes
  reason := recommendationReason group
  segment := "reason=".toList ++ group.primaryReason.1
  requiresApproval := group.action = .generateSyntheticCandidate

def recommendedActions (groups : List RecommendationGroup) : List RecommendedAction :=
  groups.mapIdx recommendedAction

end Groups

section Report

variable (p : Platform) {F : Type} [ScoreLike F]

def readiness (blockers : List CriticalBlocker) (recommendedActions : List RecommendedAction) :
    ReadinessAssessment F :=
  let reasonCodes := (blockers.map (fun blocker => p.lower blocker.code.1) ++
    recommendedActions.flatMap fun action => action.reasonCodes.map Subtype.val).eraseDups
  if blockers ≠ [] then ⟨.blocked, Score.zero, reasonCodes⟩
  else if recommendedActions ≠ [] then ⟨.notReadyForExport, Score.fraction 75 2, reasonCodes⟩
  else ⟨.readyForExport, Score.one, []⟩

def datasetDecision (blockers : List CriticalBlocker)
    (recommendedActions : List RecommendedAction) : DatasetDecision :=
  if blockers ≠ [] then .blocked
  else if recommendedActions ≠ [] then .needsReview
  else .readyForTraining

def recommendedNextJob (blockers : List CriticalBlocker)
    (recommendedActions : List RecommendedAction) : Option WorkflowType :=
  if recommendedActions ≠ [] then some .previewActionPlan
  else if blockers ≠ [] then none
  else some .export

def decisionReportId (request : BuildDecisionReportRequest)
    (evidenceBundles : List (EvidenceBundle F)) : Text :=
  "decision_report_".toList ++ (hexdigest (encodeUtf8 (request.datasetId.1 ++ request.versionId.1 ++
    evidenceBundles.flatMap fun evidence =>
      evidence.evidenceBundleId.1 ++ evidence.objectId.1))).take 16

/-- The report of an active policy; `now` is what the clock reads. -/
def buildDecisionReport (evidenceBundles : List (EvidenceBundle F))
    (request : BuildDecisionReportRequest) (policy : DecisionPolicy F)
    (inputs : Option PolicyInputEnvelope) (now : Datetime) : Result (DecisionReport F) := do
  let policyInputs := inputs.getD .empty
  let contexts := evidenceBundles.map fun evidence => objectContext evidence policy policyInputs
  let datasetGates := evaluateHardGates policy policyInputs
  let blockers ← criticalBlockers datasetGates contexts
  let actions := recommendedActions (recommendationGroups contexts)
  pure
    { decisionReportId := match request.decisionReportId with
        | some (c :: id) => c :: id
        | _ => decisionReportId request evidenceBundles
      datasetId := request.datasetId
      versionId := request.versionId
      decisionSchemaVersion := literal "decision_report.v1"
      datasetDecision := datasetDecision blockers actions
      readiness := readiness p blockers actions
      criticalBlockers := blockers
      safeActionsAvailable := actions.any fun action => !action.requiresApproval
      recommendedNextJob := recommendedNextJob blockers actions
      objectDecisions := contexts.map ObjectDecisionContext.decision
      recommendedActions := actions
      policyVersions :=
        { decisionPolicy := policy.policyVersion
          scorePolicy := policy.objectValuePolicy.policyVersion
          privacyPolicy := literal "privacy_v0"
          methodPolicy := literal "method_selection_v0" }
      generatedAt := request.generatedAt.getD now }

end Report

end DataForge.Kernel.DecisionReport
