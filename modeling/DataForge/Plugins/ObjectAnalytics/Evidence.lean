import DataForge.Foundation.Canonical
import DataForge.Plugins.ObjectAnalytics.Passports
import Mathlib.Data.Prod.Lex

namespace DataForge.Plugins.ObjectAnalytics.Evidence

open DataForge.Foundation.Strings
open DataForge.Foundation.Dictionary
open DataForge.Foundation.Scores
open DataForge.Foundation.Outcome
open DataForge.Domain.Common
open DataForge.Domain.Evidence
open DataForge.Domain.Passport

variable {F : Type} [ScoreLike F]

/-- The model of a signal refuses a missing value that is called available. -/
def signalFromValue (value : Option (Score F)) (status : SignalStatus)
    (missingReason : NonEmptyStr) : Result (NormalizedSignal F) :=
  match value with
  | some score => .ok (.available score)
  | none =>
    if h : status = .available then .error (.validation "NormalizedSignal"
      "available signal must include a numeric value")
    else .ok
      { value := none
        status := status
        reason := some missingReason.1
        availableHasValue := fun havailable => absurd havailable h
        missingHasNone := fun _ => rfl
        missingHasReason := fun _ => ⟨missingReason.1, rfl, missingReason.2⟩ }

def predictionSignalFromValue (value : Option (Score F)) (prediction : Option (PredictionBlock F)) :
    NormalizedSignal F :=
  match value with
  | some score => .available score
  | none =>
    if prediction.isNone then .missing (literal "prediction_manifest_not_provided")
    else .missing (literal "prediction_signal_not_available")

def learningStatus (passport : ObjectAnalyticalPassport F) : SignalStatus :=
  if passport.learningValue.rareSegmentScore.isNone then .notApplicable else .available

def missingReason (passport : ObjectAnalyticalPassport F) (signalName : NonEmptyStr) :
    NonEmptyStr :=
  if passport.learningValue.missingReason = literal "skeleton_modality_not_profiled" then
    literal "skeleton_modality_not_profiled"
  else ⟨signalName.1 ++ "_not_available".toList, List.append_ne_nil_of_left_ne_nil signalName.2 _⟩

/-- One reference for each kind and URI, in their order. -/
def bundleRefs (passport : ObjectAnalyticalPassport F) (sourcePassportRef : Option EvidenceRef) :
    List EvidenceRef :=
  (passport.evidenceRefs ++ sourcePassportRef.toList).dedup.insertionSort fun a b =>
    toLex (a.kind.1, a.uri.1) ≤ toLex (b.kind.1, b.uri.1)

def evidenceSignals (passport : ObjectAnalyticalPassport F) : Result (EvidenceSignals F) := do
  let learning := passport.learningValue
  let technicalQuality ← signalFromValue passport.technicalQuality.score
    passport.technicalQuality.status (missingReason passport (literal "technical_quality"))
  let duplicateScore ← signalFromValue passport.duplicateSignals.duplicateScore
    passport.duplicateSignals.status (missingReason passport (literal "duplicate_score"))
  let privacyRisk ← signalFromValue passport.privacy.riskScore passport.privacy.status
    (missingReason passport (literal "privacy_risk"))
  let rareSegmentScore ← signalFromValue learning.rareSegmentScore (learningStatus passport)
    learning.missingReason
  let businessImportance ← signalFromValue none .notApplicable
    (literal "business_importance_not_available")
  pure
    { technicalQuality := technicalQuality
      duplicateScore := duplicateScore
      privacyRisk := privacyRisk
      labelIssueScore := predictionSignalFromValue learning.labelIssueScore passport.prediction
      rareSegmentScore := rareSegmentScore
      businessImportance := businessImportance
      modelUncertainty := predictionSignalFromValue learning.modelUncertainty passport.prediction
      predictionConfidence := predictionSignalFromValue
        (passport.prediction.map PredictionBlock.confidence) passport.prediction
      predictionMargin := predictionSignalFromValue
        (passport.prediction.map PredictionBlock.margin) passport.prediction
      predictionEntropy := predictionSignalFromValue
        (passport.prediction.map PredictionBlock.normalizedEntropy) passport.prediction
      ambiguousObjectScore := predictionSignalFromValue learning.ambiguousObjectScore
        passport.prediction
      probableLabelErrorScore := predictionSignalFromValue learning.probableLabelErrorScore
        passport.prediction }

def bundleFromPassport (passport : ObjectAnalyticalPassport F)
    (sourcePassportRef : Option EvidenceRef) : Result (EvidenceBundle F) := do
  let signals ← evidenceSignals passport
  pure
    { evidenceBundleId := ⟨"evidence_".toList ++ passport.objectId.1,
        List.append_ne_nil_of_left_ne_nil (by decide) _⟩
      objectId := passport.objectId
      modality := passport.modality
      signals := signals
      evidenceRefs := bundleRefs passport sourcePassportRef }

def buildEvidenceBundles (passports : List (ObjectAnalyticalPassport F))
    (sourcePassportRef : Option EvidenceRef) : Result (List (EvidenceBundle F)) :=
  passports.mapM fun passport => bundleFromPassport passport sourcePassportRef

section Signals

/-- A signal says the value that it was made from. -/
def Carries (signal : NormalizedSignal F) (value : Option (Score F)) : Prop :=
  signal.value = value ∧ (signal.status = .available ↔ value ≠ none)

theorem carries_signalFromValue {value : Option (Score F)} {status : SignalStatus}
    {reason : NonEmptyStr} {signal : NormalizedSignal F}
    (h : signalFromValue value status reason = .ok signal) : Carries signal value := by
  cases value with
  | some score =>
    obtain rfl := Except.ok.inj h
    exact ⟨rfl, iff_of_true rfl (Option.some_ne_none score)⟩
  | none =>
    unfold signalFromValue at h
    dsimp only at h
    split at h
    · cases h
    · next hstatus =>
      obtain rfl := Except.ok.inj h
      exact ⟨rfl, iff_of_false hstatus fun hne => hne rfl⟩

theorem carries_predictionSignalFromValue (value : Option (Score F))
    (prediction : Option (PredictionBlock F)) :
    Carries (predictionSignalFromValue value prediction) value := by
  cases value with
  | some score => exact ⟨rfl, iff_of_true rfl (Option.some_ne_none score)⟩
  | none =>
    cases prediction with
    | none => exact ⟨rfl, iff_of_false nofun fun hne => hne rfl⟩
    | some block => exact ⟨rfl, iff_of_false nofun fun hne => hne rfl⟩

/-- What the bundle of a passport tells the decision core. -/
structure BundleOf (passport : ObjectAnalyticalPassport F) (evidence : EvidenceBundle F) :
    Prop where
  objectId : evidence.objectId = passport.objectId
  modality : evidence.modality = passport.modality
  technicalQuality : Carries evidence.signals.technicalQuality passport.technicalQuality.score
  duplicateScore : Carries evidence.signals.duplicateScore passport.duplicateSignals.duplicateScore
  privacyRisk : Carries evidence.signals.privacyRisk passport.privacy.riskScore
  rareSegmentScore :
    Carries evidence.signals.rareSegmentScore passport.learningValue.rareSegmentScore
  ambiguousObjectScore : Carries evidence.signals.ambiguousObjectScore
    passport.learningValue.ambiguousObjectScore
  probableLabelErrorScore : Carries evidence.signals.probableLabelErrorScore
    passport.learningValue.probableLabelErrorScore

theorem bundleFromPassport_eq_ok {passport : ObjectAnalyticalPassport F}
    {sourcePassportRef : Option EvidenceRef} {evidence : EvidenceBundle F}
    (h : bundleFromPassport passport sourcePassportRef = .ok evidence) :
    BundleOf passport evidence := by
  obtain ⟨signals, hsignals, h⟩ := bind_eq_ok.mp h
  obtain ⟨technicalQuality, htechnical, hsignals⟩ := bind_eq_ok.mp hsignals
  obtain ⟨duplicateScore, hduplicate, hsignals⟩ := bind_eq_ok.mp hsignals
  obtain ⟨privacyRisk, hprivacy, hsignals⟩ := bind_eq_ok.mp hsignals
  obtain ⟨rareSegmentScore, hrare, hsignals⟩ := bind_eq_ok.mp hsignals
  obtain ⟨businessImportance, -, hsignals⟩ := bind_eq_ok.mp hsignals
  obtain rfl := Except.ok.inj hsignals
  obtain rfl := Except.ok.inj h
  exact
    { objectId := rfl
      modality := rfl
      technicalQuality := carries_signalFromValue htechnical
      duplicateScore := carries_signalFromValue hduplicate
      privacyRisk := carries_signalFromValue hprivacy
      rareSegmentScore := carries_signalFromValue hrare
      ambiguousObjectScore := carries_predictionSignalFromValue _ _
      probableLabelErrorScore := carries_predictionSignalFromValue _ _ }

end Signals

end DataForge.Plugins.ObjectAnalytics.Evidence
