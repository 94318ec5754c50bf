import DataForge.Domain.Evidence
import DataForge.Domain.TextOcr
import DataForge.Foundation.Canonical
import DataForge.Ingestion.ManifestBuilder

namespace DataForge.Plugins.ObjectAnalytics.Passports

open DataForge.Foundation.Strings
open DataForge.Foundation.Dictionary
open DataForge.Foundation.Canonical
open DataForge.Foundation.Json
open DataForge.Foundation.Numbers
open DataForge.Foundation.Scores
open DataForge.Foundation.Outcome
open DataForge.Domain.Common
open DataForge.Domain.Evidence
open DataForge.Domain.Passport
open DataForge.Domain.TextOcr
open DataForge.Ingestion.ManifestBuilder
open FloatLike

structure TextSignals (F : Type) [ScoreLike F] where
  duplicateScore : Option (Score F)
  duplicateClusterId : Option Text
  piiRiskScore : Option (Score F)
  piiTypes : List Text
  piiDetected : Bool
  hasValidationIssue : Bool

/-- What the profile of the tables says of the objects. -/
structure TabularSignals (F : Type) [ScoreLike F] where
  duplicateIds : List Text
  outlierColumns : Dict Text (List Text)
  businessRules : Dict Text (List Text)
  rareLabel : Option Text
  rareScore : Option (Score F)

section Signals

variable {F : Type} [ScoreLike F]

def TextSignals.empty : TextSignals F := ⟨none, none, none, [], false, false⟩

/-- `max(a, b)` of two scores. -/
def maxScore (a b : Score F) : Score F := if lt a.1 b.1 then b else a

def mergeDuplicate (clusterId : Sha256Digest) (existing : TextSignals F) : TextSignals F :=
  { existing with duplicateScore := some Score.one, duplicateClusterId := some clusterId.1 }

/-- A missing score counts as zero. -/
def mergeFinding (finding : TextPiiFindingsForRecord F) (existing : TextSignals F) :
    TextSignals F :=
  { existing with
    piiRiskScore := some (maxScore (existing.piiRiskScore.getD Score.zero) finding.piiRiskScore)
    piiTypes := sortedSet (existing.piiTypes ++
      finding.findings.map fun item => item.category.value)
    piiDetected := true }

def mergeIssue (existing : TextSignals F) : TextSignals F :=
  { existing with hasValidationIssue := true }

/-- The text under `source_object_id`, which is all the builders put there. -/
def rowSourceId (row : ManifestRow) : Option Text :=
  match get? sourceObjectIdKey row.metadata with
  | some (.str id) => some id
  | _ => none

/-- The last row with a source id stands for it. -/
def sourceObjectIdToManifestId (rows : List ManifestRow) : Dict Text Text :=
  update [] (rows.filterMap fun row => (rowSourceId row).map fun id => (id, row.objectId.1))

/-- The signals of the row that stands for a source id are changed, if there is one. -/
def mergeAt (sourceToManifest : Dict Text Text) (sourceId : Text)
    (merge : TextSignals F → TextSignals F)
    (byManifest : Dict Text (TextSignals F)) : Dict Text (TextSignals F) :=
  match get? sourceId sourceToManifest with
  | none => byManifest
  | some id => set id (merge ((get? id byManifest).getD .empty)) byManifest

def mergeDuplicates (sourceToManifest : Dict Text Text) (source : TextOcrSourceReport F)
    (byManifest : Dict Text (TextSignals F)) : Dict Text (TextSignals F) :=
  (source.duplicateGroups.flatMap fun group =>
      group.objectIds.map fun id => (group.textSha256, id)).foldl
    (fun signals member => mergeAt sourceToManifest member.2.1 (mergeDuplicate member.1) signals)
    byManifest

def mergeFindings (sourceToManifest : Dict Text Text) (source : TextOcrSourceReport F)
    (byManifest : Dict Text (TextSignals F)) : Dict Text (TextSignals F) :=
  source.piiFindings.foldl
    (fun signals finding => mergeAt sourceToManifest finding.objectId.1
      (mergeFinding finding) signals)
    byManifest

/-- The order in which the source goes through the set of ids makes no difference. -/
def mergeIssues (sourceToManifest : Dict Text Text) (source : TextOcrSourceReport F)
    (byManifest : Dict Text (TextSignals F)) : Dict Text (TextSignals F) :=
  ((source.issues.filterMap TextValidationIssue.objectId).eraseDups).foldl
    (fun signals id => mergeAt sourceToManifest id mergeIssue signals) byManifest

def mergeTextSourceSignals (sourceToManifest : Dict Text Text)
    (byManifest : Dict Text (TextSignals F)) (source : TextOcrSourceReport F) :
    Dict Text (TextSignals F) :=
  mergeIssues sourceToManifest source
    (mergeFindings sourceToManifest source (mergeDuplicates sourceToManifest source byManifest))

def textSignalsByManifestObject (rows : List ManifestRow) (report : Option (TextOcrReport F)) :
    Dict Text (TextSignals F) :=
  match report with
  | none => []
  | some report =>
    report.sources.foldl (mergeTextSourceSignals (sourceObjectIdToManifestId rows)) []

end Signals

section Blocks

variable {F : Type} [ScoreLike F]

def isSkeleton (modality : DataModality) : Bool :=
  modality = .image || modality = .video || modality = .audio || modality = .multimodal

def isText (modality : DataModality) : Bool := modality = .text || modality = .documentOcr

def penalties (row : ManifestRow) (tabular : TabularSignals F)
    (textSignal : Option (TextSignals F)) : F :=
  if row.modality = .tabular then
    let outliers := (get? row.objectId.1 tabular.outlierColumns).getD []
    let rules := (get? row.objectId.1 tabular.businessRules).getD []
    let fromOutliers := if outliers = [] then ofInt 0 else add (ofInt 0) (ScoreLike.decimal 2 1)
    if rules = [] then fromOutliers else add fromOutliers (ScoreLike.decimal 3 1)
  else if ((textSignal.map TextSignals.hasValidationIssue).getD false) = true then
    add (ofInt 0) (ScoreLike.decimal 4 1)
  else ofInt 0

def technicalQualityBlock (row : ManifestRow) (tabular : TabularSignals F)
    (textSignal : Option (TextSignals F)) : Result (TechnicalQualityBlock F) :=
  if isSkeleton row.modality then .ok ⟨none, .notApplicable⟩
  else do
    let score ← scoreField "TechnicalQualityBlock" "score"
      (FloatLike.max (ofInt 0) (sub (ofInt 1) (penalties row tabular textSignal)))
    pure ⟨some score, .available⟩

def privacyBlock (row : ManifestRow) (textSignal : Option (TextSignals F)) : PrivacyBlock F :=
  if isSkeleton row.modality then
    ⟨none, .notApplicable, false, [], literal "policy_review_required"⟩
  else if isText row.modality then
    let piiDetected := (textSignal.map TextSignals.piiDetected).getD false
    ⟨some ((textSignal.bind TextSignals.piiRiskScore).getD Score.zero), .available, piiDetected,
      (textSignal.map TextSignals.piiTypes).getD [],
      if piiDetected then literal "redacted_only" else literal "allowed"⟩
  else ⟨some Score.zero, .available, false, [], literal "allowed"⟩

def duplicateBlock (row : ManifestRow) (tabular : TabularSignals F)
    (textSignal : Option (TextSignals F)) : DuplicateSignals F :=
  if isSkeleton row.modality then ⟨none, .notApplicable, none⟩
  else if row.modality = .tabular then
    if row.objectId.1 ∈ tabular.duplicateIds then
      ⟨some Score.one, .available, some "tabular_exact_duplicate".toList⟩
    else ⟨some Score.zero, .available, none⟩
  else ⟨some ((textSignal.bind TextSignals.duplicateScore).getD Score.zero), .available,
    textSignal.bind TextSignals.duplicateClusterId⟩

def canonicalProfileLabel (label : Option Text) : Option Text :=
  if label = some ['1'] then some "fraud".toList
  else if label = some ['0'] then some "not_fraud".toList
  else label

def learningValueBlock (row : ManifestRow) (tabular : TabularSignals F)
    (modelSignal : Option (ObjectModelErrorSignals F)) : Result (LearningValueSignals F) :=
  if isSkeleton row.modality then
    .ok ⟨none, none, none, none, none, literal "skeleton_modality_not_profiled"⟩
  else do
    let uncertainty ← modelSignal.mapM fun signal =>
      scoreField "LearningValueSignals" "model_uncertainty" (sub (ofInt 1) signal.confidence.1)
    let probable := modelSignal.map ObjectModelErrorSignals.probableLabelErrorScore
    pure
      { rareSegmentScore :=
          if row.label ≠ none ∧ row.label = canonicalProfileLabel tabular.rareLabel then
            tabular.rareScore
          else some Score.zero
        modelUncertainty := uncertainty
        labelIssueScore := probable
        ambiguousObjectScore := modelSignal.map ObjectModelErrorSignals.ambiguousObjectScore
        probableLabelErrorScore := probable
        missingReason := literal "learning_value_v0_stub" }

def predictionBlock (modelSignal : Option (ObjectModelErrorSignals F)) :
    Option (PredictionBlock F) :=
  modelSignal.map fun signal => ⟨signal.confidence, signal.margin, signal.normalizedEntropy⟩

def isPositive (score : Option (Score F)) : Bool := (score.map fun x => lt (ofInt 0) x.1).getD false

def decisionStub (skeleton : Bool) (privacy : PrivacyBlock F) (duplicate : DuplicateSignals F)
    (learning : LearningValueSignals F) (technicalQuality : TechnicalQualityBlock F) :
    ObjectDecisionBlock :=
  let found := [("pii_detected".toList, privacy.piiDetected),
    ("duplicate_candidate".toList, isPositive duplicate.duplicateScore),
    ("probable_label_error".toList, isPositive learning.probableLabelErrorScore),
    ("ambiguous_object".toList, isPositive learning.ambiguousObjectScore),
    ("technical_quality_issue".toList,
      (technicalQuality.score.map fun x => lt x.1 (ofInt 1)).getD false)]
  let reasons := (found.filter Prod.snd).map Prod.fst
  { action := literal "PENDING_DECISION_CORE"
    reasonCodes := if skeleton then ["validated_skeleton_only".toList]
      else if reasons = [] then ["profiled_no_blocker_candidate".toList] else sortedSet reasons }

def buildPassport (row : ManifestRow) (evidenceRefs : List EvidenceRef) (tabular : TabularSignals F)
    (textSignal : Option (TextSignals F)) (modelSignal : Option (ObjectModelErrorSignals F)) :
    Result (ObjectAnalyticalPassport F) := do
  let technicalQuality ← technicalQualityBlock row tabular textSignal
  let privacy := privacyBlock row textSignal
  let duplicate := duplicateBlock row tabular textSignal
  let learning ← learningValueBlock row tabular modelSignal
  pure
    { objectId := row.objectId
      modality := row.modality
      technicalQuality := technicalQuality
      privacy := privacy
      duplicateSignals := duplicate
      learningValue := learning
      prediction := predictionBlock modelSignal
      decision := decisionStub (isSkeleton row.modality) privacy duplicate learning technicalQuality
      evidenceRefs := evidenceRefs }

/-- One passport for each row, in the order of the rows. -/
def buildObjectAnalyticsPassports (rows : List ManifestRow) (evidenceRefs : List EvidenceRef)
    (tabular : TabularSignals F) (report : Option (TextOcrReport F))
    (modelSignals : Dict Text (ObjectModelErrorSignals F)) :
    Result (List (ObjectAnalyticalPassport F)) :=
  let textSignals := textSignalsByManifestObject rows report
  rows.mapM fun row => buildPassport row evidenceRefs tabular (get? row.objectId.1 textSignals)
    (get? row.objectId.1 modelSignals)

theorem buildPassport_eq_ok {row : ManifestRow} {evidenceRefs : List EvidenceRef}
    {tabular : TabularSignals F} {textSignal : Option (TextSignals F)}
    {modelSignal : Option (ObjectModelErrorSignals F)} {passport : ObjectAnalyticalPassport F}
    (h : buildPassport row evidenceRefs tabular textSignal modelSignal = .ok passport) :
    passport.objectId = row.objectId ∧ passport.modality = row.modality ∧
      technicalQualityBlock row tabular textSignal = .ok passport.technicalQuality ∧
      passport.privacy = privacyBlock row textSignal ∧
      passport.duplicateSignals = duplicateBlock row tabular textSignal ∧
      learningValueBlock row tabular modelSignal = .ok passport.learningValue ∧
      passport.prediction = predictionBlock modelSignal := by
  obtain ⟨technicalQuality, htechnical, h⟩ := bind_eq_ok.mp h
  obtain ⟨learning, hlearning, h⟩ := bind_eq_ok.mp h
  obtain rfl := Except.ok.inj h
  exact ⟨rfl, rfl, htechnical, rfl, rfl, hlearning, rfl⟩

end Blocks

section Flags

variable {F : Type} [ScoreLike F] {sourceToManifest : Dict Text Text} {id : Text}

/-- The signals say that something was found in the object. -/
def Flagged (id : Text) (signals : Dict Text (TextSignals F)) : Prop :=
  ∃ found, get? id signals = some found ∧ found.piiDetected = true

theorem flagged_mergeAt {sourceId : Text} {merge : TextSignals F → TextSignals F} {found : Prop}
    (hmerge : ∀ existing, (merge existing).piiDetected = true ↔
      existing.piiDetected = true ∨ found) (signals : Dict Text (TextSignals F)) :
    Flagged id (mergeAt sourceToManifest sourceId merge signals) ↔
      Flagged id signals ∨ found ∧ get? sourceId sourceToManifest = some id := by
  rw [mergeAt]
  cases hid : get? sourceId sourceToManifest with
  | none => simp
  | some target =>
    rw [Flagged, Flagged, get?_set]
    split
    · next heq =>
      subst heq
      cases hfound : get? target signals with
      | none => simp [hmerge, TextSignals.empty]
      | some existing => simp [hmerge]
    · next hne => simp [hne]

theorem flagged_foldl {α : Type} {sourceId : α → Text} {merge : α → TextSignals F → TextSignals F}
    {found : Prop} (hmerge : ∀ a existing, (merge a existing).piiDetected = true ↔
      existing.piiDetected = true ∨ found) (items : List α) (signals : Dict Text (TextSignals F)) :
    Flagged id
      (items.foldl (fun signals a => mergeAt sourceToManifest (sourceId a) (merge a) signals)
        signals) ↔
      Flagged id signals ∨ found ∧ ∃ a ∈ items, get? (sourceId a) sourceToManifest = some id := by
  induction items generalizing signals with
  | nil => simp
  | cons a items ih =>
    rw [List.foldl_cons, ih, flagged_mergeAt (hmerge a), or_assoc, ← and_or_left,
      List.exists_mem_cons_iff]

/-- Duplicates and issues flag nothing; a finding flags the row that stands for its id. -/
theorem flagged_mergeTextSourceSignals (source : TextOcrSourceReport F)
    (signals : Dict Text (TextSignals F)) :
    Flagged id (mergeTextSourceSignals sourceToManifest signals source) ↔ Flagged id signals ∨
      ∃ finding ∈ source.piiFindings, get? finding.objectId.1 sourceToManifest = some id := by
  have hissue : ∀ (_ : Text) (existing : TextSignals F),
      (mergeIssue existing).piiDetected = true ↔ existing.piiDetected = true ∨ False := by
    simp [mergeIssue]
  have hfinding : ∀ (finding : TextPiiFindingsForRecord F) (existing : TextSignals F),
      (mergeFinding finding existing).piiDetected = true ↔
        existing.piiDetected = true ∨ True := by
    simp [mergeFinding]
  have hduplicate : ∀ (member : Sha256Digest × NonEmptyStr) (existing : TextSignals F),
      (mergeDuplicate member.1 existing).piiDetected = true ↔
        existing.piiDetected = true ∨ False := by
    simp [mergeDuplicate]
  rw [mergeTextSourceSignals, mergeIssues, flagged_foldl hissue, mergeFindings,
    flagged_foldl hfinding, mergeDuplicates, flagged_foldl hduplicate]
  simp

theorem flagged_textSignals {rows : List ManifestRow} {report : TextOcrReport F} :
    Flagged id (textSignalsByManifestObject rows (some report)) ↔
      ∃ source ∈ report.sources, ∃ finding ∈ source.piiFindings,
        get? finding.objectId.1 (sourceObjectIdToManifestId rows) = some id := by
  have hfold : ∀ (sources : List (TextOcrSourceReport F)) (signals : Dict Text (TextSignals F)),
      Flagged id
        (sources.foldl (mergeTextSourceSignals (sourceObjectIdToManifestId rows)) signals) ↔
        Flagged id signals ∨ ∃ source ∈ sources, ∃ finding ∈ source.piiFindings,
          get? finding.objectId.1 (sourceObjectIdToManifestId rows) = some id := by
    intro sources
    induction sources with
    | nil => simp
    | cons source sources ih =>
      intro signals
      rw [List.foldl_cons, ih, flagged_mergeTextSourceSignals, or_assoc, List.exists_mem_cons_iff]
  have hnone : ¬ Flagged id ([] : Dict Text (TextSignals F)) := by
    rintro ⟨_, hget, -⟩
    cases hget
  rw [textSignalsByManifestObject, hfold, or_iff_right hnone]

/-- The passport of a text row is redacted only exactly if its signals are flagged. -/
theorem privacyBlock_flagged {row : ManifestRow} (htext : isText row.modality = true)
    (signals : Dict Text (TextSignals F)) :
    ((privacyBlock row (get? row.objectId.1 signals)).piiDetected = true ∧
        (privacyBlock row (get? row.objectId.1 signals)).exportEligibility =
          literal "redacted_only") ↔
      Flagged row.objectId.1 signals := by
  have hskeleton : isSkeleton row.modality = false := by
    revert htext
    cases row.modality <;> decide
  rw [privacyBlock, hskeleton, htext, if_neg Bool.false_ne_true, if_pos rfl, Flagged]
  cases get? row.objectId.1 signals with
  | none => simp
  | some found => cases hfound : found.piiDetected <;> simp [hfound]

end Flags

end DataForge.Plugins.ObjectAnalytics.Passports
