import DataForge.Kernel.ReviewActions
import DataForge.Plugins.ObjectAnalytics.Evidence
import DataForge.Plugins.TextOcr.Pii

namespace DataForge.Kernel.PiiReview

open DataForge.Foundation.Strings
open DataForge.Foundation.Numbers
open DataForge.Foundation.Scores
open DataForge.Foundation.Outcome
open DataForge.Domain.Common
open DataForge.Domain.Artifact
open DataForge.Domain.Evidence
open DataForge.Domain.Passport
open DataForge.Domain.TextOcr
open DataForge.Ingestion.ManifestBuilder
open DataForge.Plugins.TextOcr.Pii
open DataForge.Plugins.ObjectAnalytics.Passports
open DataForge.Plugins.ObjectAnalytics.Evidence
open DataForge.Kernel.Policy
open DataForge.Kernel.ReviewActions
open FloatLike ScoreLike

variable {F : Type} [ScoreLike F]

section Chain

variable {p : Platform} {engine : PatternEngine} {row : ManifestRow} {objectId text : Text}
  {existing : TextSignals F} {evidenceRefs : List EvidenceRef} {tabular : TabularSignals F}
  {modelSignal : Option (ObjectModelErrorSignals F)} {source : Option EvidenceRef}
  {inputs : Option PolicyInputEnvelope}

/-- From the text of a record to the evidence about its row, over what other findings
and duplicates have said of the row before. -/
def reviewedEvidence (engine : PatternEngine) (row : ManifestRow) (objectId text : Text)
    (existing : TextSignals F) (evidenceRefs : List EvidenceRef) (tabular : TabularSignals F)
    (modelSignal : Option (ObjectModelErrorSignals F)) (source : Option EvidenceRef) :
    Result (EvidenceBundle F) := do
  let finding ← (redactRecord engine F objectId text).toRecordFindings
  let passport ← buildPassport row evidenceRefs tabular (some (mergeFinding finding existing))
    modelSignal
  bundleFromPassport passport source

def Reaches (threshold : F) (score : Option (Score F)) : Prop :=
  ∃ x ∈ score, le threshold x.1 = true

/-- The risk of a text, or the one that was found before where that is larger. -/
def mergedRisk (engine : PatternEngine) (text : Text) (existing : TextSignals F) : F :=
  FloatLike.max (existing.piiRiskScore.getD Score.zero).1
    (computeRiskScore (detectPii engine text).1 text.length)

/-- The score of a row with the rare label. -/
def rareScoreOf (row : ManifestRow) (tabular : TabularSignals F) : Option (Score F) :=
  if row.label ≠ none ∧ row.label = canonicalProfileLabel tabular.rareLabel then tabular.rareScore
  else some Score.zero

/-- The risk reaches a threshold, or something else asks for a review of the object. -/
def ReviewCondition (engine : PatternEngine) (row : ManifestRow) (text : Text)
    (existing : TextSignals F) (tabular : TabularSignals F)
    (modelSignal : Option (ObjectModelErrorSignals F)) (inputs : Option PolicyInputEnvelope) :
    Prop :=
  (∃ gateId, gateTriggered gateId (inputs.getD .empty) = true) ∨
    le (decimal 80 2) (mergedRisk engine text existing) = true ∨
    le (decimal 5 1) (existing.duplicateScore.getD Score.zero).1 = true ∨
    Reaches (decimal 7 1) (rareScoreOf row tabular) ∨
    le (decimal 1 2) (mergedRisk engine text existing) = true ∨
    Reaches (decimal 5 1) (modelSignal.map ObjectModelErrorSignals.ambiguousObjectScore) ∨
    Reaches (decimal 5 1) (modelSignal.map ObjectModelErrorSignals.probableLabelErrorScore)

theorem signalAtLeast_iff {signal : NormalizedSignal F} {value : Option (Score F)} {threshold : F}
    (h : Carries signal value) :
    signalAtLeast signal threshold = true ↔ Reaches threshold value := by
  obtain ⟨rfl, hstatus⟩ := h
  rw [signalAtLeast, Bool.and_eq_true, decide_eq_true_iff, hstatus, Reaches]
  cases signal.value with
  | none => simp
  | some score => simp

theorem reaches_some {threshold : F} {score : Score F} :
    Reaches threshold (some score) ↔ le threshold score.1 = true := by
  simp [Reaches]

/-- The signals of a text row that the rules read. -/
structure TextEvidence (row : ManifestRow) (signals : TextSignals F) (tabular : TabularSignals F)
    (modelSignal : Option (ObjectModelErrorSignals F)) (evidence : EvidenceBundle F) : Prop where
  modality : evidence.modality = row.modality
  privacyRisk : Carries evidence.signals.privacyRisk (some (signals.piiRiskScore.getD Score.zero))
  duplicateScore : Carries evidence.signals.duplicateScore
    (some (signals.duplicateScore.getD Score.zero))
  rareSegmentScore : Carries evidence.signals.rareSegmentScore (rareScoreOf row tabular)
  ambiguousObjectScore : Carries evidence.signals.ambiguousObjectScore
    (modelSignal.map ObjectModelErrorSignals.ambiguousObjectScore)
  probableLabelErrorScore : Carries evidence.signals.probableLabelErrorScore
    (modelSignal.map ObjectModelErrorSignals.probableLabelErrorScore)

theorem isSkeleton_of_isText {modality : DataModality} (h : isText modality = true) :
    isSkeleton modality = false ∧ modality ≠ .tabular := by
  revert h
  cases modality <;> decide

theorem textEvidence_of_bundle {signals : TextSignals F} {passport : ObjectAnalyticalPassport F}
    {evidence : EvidenceBundle F} (hrow : isText row.modality = true)
    (hpassport : buildPassport row evidenceRefs tabular (some signals) modelSignal = .ok passport)
    (hbundle : BundleOf passport evidence) :
    TextEvidence row signals tabular modelSignal evidence := by
  obtain ⟨hskeleton, htabular⟩ := isSkeleton_of_isText hrow
  obtain ⟨-, hmodality, -, hprivacy, hduplicate, hlearning, -⟩ := buildPassport_eq_ok hpassport
  rw [privacyBlock, hskeleton, hrow] at hprivacy
  rw [duplicateBlock, hskeleton, if_neg Bool.false_ne_true, if_neg htabular] at hduplicate
  rw [learningValueBlock, hskeleton, if_neg Bool.false_ne_true] at hlearning
  obtain ⟨uncertainty, -, hlearning⟩ := bind_eq_ok.mp hlearning
  have hlearning := (Except.ok.inj hlearning).symm
  have hprivacyRisk := hbundle.privacyRisk
  have hduplicateScore := hbundle.duplicateScore
  have hrare := hbundle.rareSegmentScore
  have hambiguous := hbundle.ambiguousObjectScore
  have hprobable := hbundle.probableLabelErrorScore
  rw [hprivacy] at hprivacyRisk
  rw [hduplicate] at hduplicateScore
  rw [hlearning] at hrare hambiguous hprobable
  exact ⟨hbundle.modality.trans hmodality, hprivacyRisk, hduplicateScore, hrare, hambiguous,
    hprobable⟩

theorem maxScore_val (a b : Score F) : (maxScore a b).1 = FloatLike.max a.1 b.1 := by
  rw [maxScore, FloatLike.max]
  split <;> rfl

theorem leadsToReview_iff {evidence : EvidenceBundle F} (hrow : isText row.modality = true)
    (h : reviewedEvidence engine row objectId text existing evidenceRefs tabular
      modelSignal source =
      .ok evidence) : LeadsToReview p evidence inputs ↔
        ReviewCondition engine row text existing tabular modelSignal inputs := by
  obtain ⟨finding, hfinding, h⟩ := bind_eq_ok.mp h
  obtain ⟨passport, hpassport, h⟩ := bind_eq_ok.mp h
  obtain ⟨-, -, hrisk⟩ := RedactedRecord.toRecordFindings_eq_ok hfinding
  have htext := textEvidence_of_bundle hrow hpassport (bundleFromPassport_eq_ok h)
  have hmodality : evidence.modality = .text ∨ evidence.modality = .documentOcr := by
    simpa [htext.modality, isText] using hrow
  have hmerged : ((mergeFinding finding existing).piiRiskScore.getD Score.zero).1 =
      mergedRisk engine text existing := by
    rw [mergeFinding, Option.getD_some, maxScore_val, hrisk, mergedRisk, redactRecord_piiRiskScore]
  rw [leadsToReview_iff_action, action_ne_keep_iff, ReviewSignals, and_iff_right hmodality,
    signalAtLeast_iff htext.privacyRisk, signalAtLeast_iff htext.privacyRisk,
    signalAtLeast_iff htext.duplicateScore, signalAtLeast_iff htext.rareSegmentScore,
    signalAtLeast_iff htext.ambiguousObjectScore, signalAtLeast_iff htext.probableLabelErrorScore,
    reaches_some, reaches_some, reaches_some, hmerged]
  rfl

/-- An object in whose text personal data is found is reviewed, in every report, exactly
if its risk reaches a threshold or something else asks for the review. -/
theorem pii_reviewed_iff {evidence : EvidenceBundle F} (hrow : isText row.modality = true)
    (h : reviewedEvidence engine row objectId text existing evidenceRefs tabular
      modelSignal source =
      .ok evidence) : (HasPii engine text → LeadsToReview p evidence inputs) ↔ (HasPii engine text →
        ReviewCondition engine row text existing tabular modelSignal inputs) := by
  rw [leadsToReview_iff hrow h]

end Chain

section Exact

/-- The findings of a text, each counted with the weight of its category. -/
def weightedCount (counts : List (PiiCategory × Nat)) : ℚ :=
  FloatLike.sum (counts.map fun entry => mul (riskWeight ℚ entry.1) (ofInt entry.2))

theorem half_le_riskWeight (category : PiiCategory) : 1 / 2 ≤ riskWeight ℚ category := by
  cases category <;> decide +kernel

theorem half_le_weightedCount {counts : List (PiiCategory × Nat)} (hne : counts ≠ [])
    (hpos : ∀ entry ∈ counts, 0 < entry.2) : 1 / 2 ≤ weightedCount counts := by
  have hterm : ∀ entry ∈ counts, 1 / 2 ≤ riskWeight ℚ entry.1 * (entry.2 : ℚ) := by
    intro entry hentry
    have hweight := half_le_riskWeight entry.1
    have hcount : (1 : ℚ) ≤ entry.2 := by exact_mod_cast hpos entry hentry
    nlinarith
  have hsum : weightedCount counts =
      (counts.map fun entry => riskWeight ℚ entry.1 * (entry.2 : ℚ)).sum := by
    rw [List.sum_eq_foldl]
    rfl
  rw [hsum]
  cases counts with
  | nil => exact absurd rfl hne
  | cons entry counts =>
    rw [List.map_cons, List.sum_cons]
    have hrest : 0 ≤ (counts.map fun entry => riskWeight ℚ entry.1 * (entry.2 : ℚ)).sum := by
      apply List.sum_nonneg
      intro x hx
      obtain ⟨other, hother, rfl⟩ := List.mem_map.mp hx
      have hle := hterm other (List.mem_cons_of_mem _ hother)
      linarith
    have hfirst := hterm entry List.mem_cons_self
    linarith

/-- Without rounding the risk reaches the review threshold exactly if the text has at
most ten thousand characters for each finding, counted with its weight. -/
theorem le_computeRiskScore_iff {engine : PatternEngine} {text : Text} (hpii : HasPii engine text)
    (n : Nat) : le (decimal 1 2 : ℚ) (computeRiskScore (detectPii engine text).1 n) = true ↔
      (n : ℚ) ≤ 10000 * weightedCount (detectPii engine text).1 := by
  have hweight := half_le_weightedCount hpii (detectPii_pos engine text)
  have hdensity : riskDensity ℚ (detectPii engine text).1 n =
      weightedCount (detectPii engine text).1 / FloatLike.max (1 : ℚ) (n / 100) := by
    rw [riskDensity]
    rfl
  generalize weightedCount (detectPii engine text).1 = weighted at hweight hdensity ⊢
  have hthreshold : (decimal 1 2 : ℚ) = 1 / 100 := by decide +kernel
  have hcapped : computeRiskScore (detectPii engine text).1 n =
      if weighted / FloatLike.max (1 : ℚ) (n / 100) < 1 then
        weighted / FloatLike.max (1 : ℚ) (n / 100) else 1 := by
    rw [computeRiskScore, if_neg hpii, DataForge.Foundation.Scores.min, hdensity]
    exact if_congr decide_eq_true_iff rfl rfl
  have hlength : FloatLike.max (1 : ℚ) (n / 100) = if (1 : ℚ) < n / 100 then (n / 100 : ℚ) else 1 :=
    if_congr decide_eq_true_iff rfl rfl
  have hle : ∀ x y : ℚ, le x y = true ↔ x ≤ y := fun _ _ => decide_eq_true_iff
  rw [hle, hthreshold, hcapped, hlength]
  by_cases hlong : (1 : ℚ) < n / 100
  · have hpos : (0 : ℚ) < n / 100 := by linarith
    rw [if_pos hlong]
    split
    · rw [le_div_iff₀ hpos]
      constructor <;> intro h <;> linarith
    · next hfull =>
      have hdense := (one_le_div hpos).mp (not_lt.mp hfull)
      refine iff_of_true (by norm_num) ?_
      linarith
  · have hshort : (n : ℚ) / 100 ≤ 1 := not_lt.mp hlong
    rw [if_neg hlong, div_one]
    refine iff_of_true ?_ ?_
    · split <;> linarith
    · linarith

end Exact

section Sample

def address : Text := ['a', '@', 'b', '.', 'c', 'o']

/-- An engine that knows one address, where a text starts with it. -/
def prefixEngine : PatternEngine where
  finditer category text :=
    if category = .email ∧ address.isPrefixOf text = true then [(0, 6)] else []
  digit _ := none

/-- The address and blanks. -/
def paddedText (n : Nat) : Text := address ++ List.replicate n ' '

theorem length_paddedText (n : Nat) : (paddedText n).length = 6 + n := by
  rw [paddedText, List.length_append, List.length_replicate]
  rfl

def messageRow : ManifestRow :=
  ⟨literal "obj", literal "d", literal "v", .text, ⟨"s3://b/k".toList, uriPattern_key⟩, zeroDigest, [],
    none, "support_messages".toList⟩

def noTables : TabularSignals ℚ := ⟨[], [], [], none, none⟩

theorem detectPii_paddedText : (detectPii prefixEngine (paddedText 5000)).1 = [(.email, 1)] := by
  decide +kernel

theorem computeRiskScore_paddedText :
    computeRiskScore (detectPii prefixEngine (paddedText 5000)).1 (paddedText 5000).length =
      (50 / 5006 : ℚ) := by
  rw [detectPii_paddedText, length_paddedText]
  decide +kernel

theorem evidence_paddedText : ∃ evidence,
    reviewedEvidence prefixEngine messageRow "m".toList (paddedText 5000)
    TextSignals.empty [] noTables none none = .ok evidence := by
  have hrange :
      InRange 1 (redactRecord prefixEngine ℚ "m".toList (paddedText 5000)).piiRiskScore := by
    rw [redactRecord_piiRiskScore, computeRiskScore_paddedText]
    decide +kernel
  have hscore : scoreField "TechnicalQualityBlock" "score" (FloatLike.max (ofInt 0)
      (sub (ofInt 1) (ofInt 0)) : ℚ) = .ok Score.one := by
    rw [scoreField, dif_pos (by decide +kernel)]
    exact congrArg Except.ok (Subtype.ext (by decide +kernel))
  have hquality : ∀ signals : TextSignals ℚ, signals.hasValidationIssue = false →
      technicalQualityBlock messageRow noTables (some signals) =
        .ok ⟨some Score.one, .available⟩ := by
    intro signals hissue
    have hpenalties : penalties messageRow noTables (some signals) = ofInt 0 := by
      rw [penalties, Option.map_some, hissue]
      rfl
    rw [technicalQualityBlock, hpenalties, hscore]
    rfl
  obtain ⟨finding, hfinding⟩ : ∃ finding,
      (redactRecord prefixEngine ℚ "m".toList (paddedText 5000)).toRecordFindings =
        .ok finding := by
    rw [RedactedRecord.toRecordFindings, field_of_holds (by decide), ok_bind, dif_pos hrange]
    exact ⟨_, rfl⟩
  rw [reviewedEvidence, hfinding, ok_bind, buildPassport, hquality _ rfl]
  exact ⟨_, rfl⟩

/-- The conditions of a review fail for the long message with one address. -/
theorem not_reviewCondition_paddedText :
    ¬ ReviewCondition prefixEngine messageRow (paddedText 5000) TextSignals.empty noTables none
      none := by
  have hmerged : mergedRisk prefixEngine (paddedText 5000) TextSignals.empty = (50 / 5006 : ℚ) := by
    rw [mergedRisk, computeRiskScore_paddedText]
    decide +kernel
  rw [ReviewCondition, hmerged]
  rintro (⟨gateId, htriggered⟩ | hrisk | hduplicate | ⟨score, hscore, hrare⟩ | hrisk |
    ⟨score, hscore, -⟩ | ⟨score, hscore, -⟩)
  · revert htriggered
    cases gateId <;> decide
  · revert hrisk
    decide +kernel
  · revert hduplicate
    decide +kernel
  · obtain rfl := Option.some.inj hscore
    revert hrare
    decide +kernel
  · revert hrisk
    decide +kernel
  · cases hscore
  · cases hscore

theorem pii_reviewed_paddedText : ∃ evidence,
    reviewedEvidence prefixEngine messageRow "m".toList (paddedText 5000)
      TextSignals.empty [] noTables none none = .ok evidence ∧
    ((HasPii prefixEngine (paddedText 5000) → LeadsToReview asciiPlatform evidence none) ↔
      (HasPii prefixEngine (paddedText 5000) →
        ReviewCondition prefixEngine messageRow (paddedText 5000) TextSignals.empty noTables none
          none)) := by
  obtain ⟨evidence, hevidence⟩ := evidence_paddedText
  exact ⟨evidence, hevidence, pii_reviewed_iff rfl hevidence⟩

/-- The address is found, and the object is kept without a review. -/
theorem long_message_kept : ∃ evidence,
    reviewedEvidence prefixEngine messageRow "m".toList (paddedText 5000)
      TextSignals.empty [] noTables none none = .ok evidence ∧
    HasPii prefixEngine (paddedText 5000) ∧ ¬ LeadsToReview asciiPlatform evidence none := by
  obtain ⟨evidence, hevidence⟩ := evidence_paddedText
  have hpii : HasPii prefixEngine (paddedText 5000) := by
    rw [HasPii, detectPii_paddedText]
    exact List.cons_ne_nil _ _
  refine ⟨evidence, hevidence, hpii, fun h => not_reviewCondition_paddedText ?_⟩
  exact (leadsToReview_iff rfl hevidence).mp h

end Sample

end DataForge.Kernel.PiiReview
