import DataForge.Domain.Report
import DataForge.Foundation.Dictionary
import DataForge.Foundation.OrderedScores

namespace DataForge.Reports.ReviewQueue

open DataForge.Foundation.Strings
open DataForge.Foundation.Dictionary
open DataForge.Foundation.Numbers
open DataForge.Foundation.Scores
open DataForge.Foundation.OrderedScores
open DataForge.Domain.Common
open DataForge.Domain.Evidence
open DataForge.Domain.Report
open FloatLike ScoreLike OrderedLike

inductive ReviewQueueType where
  | labelReview
  | privacyReview
  | duplicateReview
  | annotationReview
  | activeLearning
deriving DecidableEq

section Memberships

def ambiguousObject : Text := "ambiguous_object".toList

def probableLabelError : Text := "probable_label_error".toList

/-- `tuple(dict.fromkeys(...))` of the reasons of one kind and the code of their queue. -/
def reviewReasons (codes : List Text) (required : String) (reasons : List Text) : List Text :=
  (update [] ((reasons.filter fun code => code ∈ codes) ++ [required.toList] |>.map
    fun code => (code, ()))).map Prod.fst

def privacyCodes : List Text := ["text_pii_detected", "pii_unmasked"].map String.toList

def duplicateCodes : List Text := ["exact_duplicate", "duplicate_candidate"].map String.toList

def annotationCodes : List Text :=
  ["missing_numeric", "target_column_missing", "business_rule_failure"].map String.toList

def queueMemberships (action : DecisionAction) (reasons : List Text) :
    List (ReviewQueueType × List Text) :=
  (if action = .sendToLabelReview ∨ ambiguousObject ∈ reasons ∨ probableLabelError ∈ reasons then
    (if ambiguousObject ∈ reasons then
      [(.labelReview,
        ["high_model_uncertainty".toList, "low_prediction_margin".toList, ambiguousObject])]
    else []) ++
    (if probableLabelError ∈ reasons then
      [(.labelReview, [probableLabelError, "high_confidence_label_conflict".toList] ++
        if "neighbor_label_disagreement".toList ∈ reasons then
          ["neighbor_label_disagreement".toList]
        else [])]
    else [])
  else []) ++
  (if action = .sendToPrivacyReview ∨ ∃ code ∈ privacyCodes, code ∈ reasons then
    [(.privacyReview, reviewReasons privacyCodes "privacy_review_required" reasons)]
  else []) ++
  (if action = .removeDuplicate ∨ ∃ code ∈ duplicateCodes, code ∈ reasons then
    [(.duplicateReview, reviewReasons duplicateCodes "duplicate_review_required" reasons)]
  else []) ++
  if ∃ code ∈ annotationCodes, code ∈ reasons then
    [(.annotationReview, reviewReasons annotationCodes "schema_review_required" reasons)]
  else []

end Memberships

section Priority

variable {F : Type} [OrderedLike F]

/-- `signal.value or fallback`: a zero gives the fallback, as a missing value does. -/
def valueOr (signal : NormalizedSignal F) (fallback : Int) : F :=
  match signal.value with
  | none => ofInt fallback
  | some value => if beq value.1 (ofInt 0) then ofInt fallback else value.1

def complement (x : F) : F := sub (ofInt 1) x

def priorityValues (queueType : ReviewQueueType) (reasonCodes : List Text)
    (signals : EvidenceSignals F) : List F :=
  match queueType with
  | .privacyReview => [valueOr signals.privacyRisk 0]
  | .duplicateReview => [valueOr signals.duplicateScore 0]
  | .labelReview =>
    (if ambiguousObject ∈ reasonCodes then
      [valueOr signals.ambiguousObjectScore 0, valueOr signals.modelUncertainty 0,
        complement (valueOr signals.predictionMargin 1)]
    else []) ++
    if probableLabelError ∈ reasonCodes then
      [valueOr signals.probableLabelErrorScore 0, valueOr signals.predictionConfidence 0]
    else []
  | .annotationReview => [complement (valueOr signals.technicalQuality 1)]
  | .activeLearning => []

def half : Score F := .fraction 5 1

def priority (queueType : ReviewQueueType) (reasonCodes : List Text)
    (evidence : Option (EvidenceBundle F)) : Score F :=
  match evidence with
  | none => half
  | some bundle => .rounded (maximum half.1 (priorityValues queueType reasonCodes bundle.signals))

theorem isNan_priority (queueType : ReviewQueueType) (reasonCodes : List Text)
    (evidence : Option (EvidenceBundle F)) :
    isNan (priority queueType reasonCodes evidence).1 = false := by
  cases evidence with
  | none => exact isNan_decimal 5 1
  | some bundle => exact isNan_clamp 1 _

end Priority

section Queues

variable {F : Type} [OrderedLike F]

/-- An item; what no signal can do to its priority is to make it no number. -/
structure ReviewQueueItem (F : Type) [OrderedLike F] where
  objectId : NonEmptyStr
  modality : DataModality
  reasonCodes : List Text
  priority : Score F
  isNumber : isNan priority.1 = false
  safePreviewUri : S3Uri
  evidenceRefs : List EvidenceRef

/-- The order of the keys `(-priority, object_id)`. -/
def itemLe (a b : ReviewQueueItem F) : Prop :=
  lt b.priority.1 a.priority.1 = true ∨
    lt a.priority.1 b.priority.1 = false ∧ a.objectId.1 ≤ b.objectId.1

instance : DecidableRel (itemLe (F := F)) := fun _ _ => inferInstanceAs (Decidable (_ ∨ _))

def reviewItem (previewUri : ReviewQueueType → NonEmptyStr → List Text → S3Uri)
    (queueType : ReviewQueueType) (decision : ObjectLevelDecision F)
    (evidence : Option (EvidenceBundle F)) (reasonCodes : List Text) : ReviewQueueItem F where
  objectId := decision.objectId
  modality := decision.modality
  reasonCodes := reasonCodes
  priority := ReviewQueue.priority queueType reasonCodes evidence
  isNumber := isNan_priority queueType reasonCodes evidence
  safePreviewUri := previewUri queueType decision.objectId reasonCodes
  evidenceRefs := (evidence.map EvidenceBundle.evidenceRefs).getD []

/-- The items of a queue, with the addresses at which their previews are saved. -/
def queueItems (previewUri : ReviewQueueType → NonEmptyStr → List Text → S3Uri)
    (decisions : List (ObjectLevelDecision F)) (bundles : List (EvidenceBundle F))
    (queueType : ReviewQueueType) : List (ReviewQueueItem F) :=
  let evidenceByObject := update [] (bundles.map fun bundle => (bundle.objectId, bundle))
  decisions.flatMap fun decision =>
    ((queueMemberships decision.action (decision.reasons.map Subtype.val)).filter fun membership =>
      membership.1 = queueType).map fun membership =>
        reviewItem previewUri queueType decision (get? decision.objectId evidenceByObject)
          membership.2

def queueObjects (items : List (ReviewQueueItem F)) : List (ReviewQueueItem F) :=
  items.insertionSort itemLe

instance : Std.Total (itemLe (F := F)) where
  total a b := by
    cases hab : lt a.priority.1 b.priority.1 with
    | true => exact .inr (.inl hab)
    | false =>
      cases hba : lt b.priority.1 a.priority.1 with
      | true => exact .inl (.inl hba)
      | false =>
        rcases le_total a.objectId.1 b.objectId.1 with hid | hid
        · exact .inl (.inr ⟨hab, hid⟩)
        · exact .inr (.inr ⟨hba, hid⟩)

theorem itemLe_below {a b : ReviewQueueItem F} (h : itemLe a b) : Below b.priority.1 a.priority.1 :=
  ⟨b.isNumber.trans a.isNumber.symm, h.elim lt_asymm And.left⟩

instance : IsTrans (ReviewQueueItem F) (itemLe (F := F)) where
  trans a b c hab hbc := by
    have hcb := itemLe_below hbc
    have hba := itemLe_below hab
    rcases hab with hab | ⟨-, hid⟩
    · exact .inl (hcb.trans_lt hab)
    · rcases hbc with hbc | ⟨-, hid'⟩
      · exact .inl (Below.lt_trans hbc hba)
      · exact .inr ⟨(hcb.trans hba).2, hid.trans hid'⟩

/-- Of two items of a queue the one in front has the higher priority, or the same one and an
id that is not above. -/
theorem itemLe_of_queueObjects {items before middle after : List (ReviewQueueItem F)}
    {a b : ReviewQueueItem F} (h : queueObjects items = before ++ a :: (middle ++ b :: after)) :
    itemLe a b := by
  have hsorted := List.pairwise_insertionSort itemLe items
  rw [← queueObjects, h, List.pairwise_append] at hsorted
  exact (List.pairwise_cons.mp hsorted.2.1).1 b (List.mem_append_right _ List.mem_cons_self)

end Queues

end DataForge.Reports.ReviewQueue
