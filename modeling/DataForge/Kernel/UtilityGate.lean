import DataForge.Kernel.ExportPackage
import DataForge.Kernel.ModelImpact

namespace DataForge.Kernel.UtilityGate

open DataForge.Foundation.Strings
open DataForge.Foundation.Numbers
open DataForge.Foundation.Scores
open DataForge.Domain.Common
open DataForge.Domain.Artifact
open DataForge.Domain.CandidateVersion
open DataForge.Domain.ExportPackage
open DataForge.Kernel.ExportPackage
open DataForge.Kernel.ModelImpact

section Readiness

variable {request : BuildExportPackageRequest}

/-- A gate that fails with a reason. -/
def Blocks (gate : ValidationGateResult) : Prop :=
  gate.status = .failed ∧ ∃ code ∈ gate.reasonCodes, code ≠ []

theorem orderedUniqueFrom_eq_nil_iff {values : List Text} :
    orderedUniqueFrom [] values = [] ↔ ∀ value ∈ values, value = [] := by
  constructor
  · intro h value hvalue
    by_contra hne
    exact orderedUniqueFrom_ne_nil hvalue hne h
  · intro h
    induction values with
    | nil => rfl
    | cons value values ih =>
      rw [orderedUniqueFrom, if_pos (Or.inl (h value List.mem_cons_self))]
      exact ih fun other hother => h other (List.mem_cons_of_mem value hother)

theorem ready_iff : (exportPackage request).status = .ready ↔
    ∀ gate ∈ exportGates request, ¬ Blocks gate := by
  have hcodes : (exportPackage request).status = .ready ↔
      orderedUniqueFrom [] (blockerCodes (exportGates request)) = [] := by
    by_cases h : orderedUniqueFrom [] (blockerCodes (exportGates request)) = []
    · simp [exportPackage, evaluateExportGates_eq, h]
    · simp [exportPackage, evaluateExportGates_eq, h]
  rw [hcodes, orderedUniqueFrom_eq_nil_iff]
  simp only [blockerCodes, List.mem_flatMap, List.mem_filter, decide_eq_true_eq, Blocks, not_and,
    not_exists, not_not]
  constructor
  · intro h gate hgate hfailed code hcode
    exact h code ⟨gate, ⟨hgate, hfailed⟩, hcode⟩
  · rintro h code ⟨gate, ⟨hgate, hfailed⟩, hcode⟩
    exact h gate hgate hfailed code hcode

/-- The gates that do not look at the model impact. -/
def otherGates (request : BuildExportPackageRequest) : List ValidationGateResult :=
  [candidateValidationGate request.candidateDatasetVersion,
    rawImmutabilityGate request.candidateDatasetVersion request.validationGatesReport,
    validationGatesGate request.validationGatesReport,
    privacyGate request.textOcrReport,
    blockedObjectsGate request.blockedObjectCount,
    requiredArtifactsGate request]

theorem modelImpactGate_blocks_iff (require : Bool) {verdict : ModelImpactVerdict} :
    Blocks (modelImpactGate require (some verdict)) ↔ verdict = .rejected ∨ verdict =
      .degraded := by
  cases verdict <;> simp [Blocks, modelImpactGate, gateFailed, gatePassed]

theorem ready_iff_verdict {verdict : ModelImpactVerdict}
    (hverdict : request.modelImpactVerdict = some verdict) :
    (exportPackage request).status = .ready ↔
      (∀ gate ∈ otherGates request, ¬ Blocks gate) ∧
        ¬ (verdict = .rejected ∨ verdict = .degraded) := by
  rw [ready_iff, ← modelImpactGate_blocks_iff request.requireModelImpactEligibility,
    ← hverdict]
  simp only [exportGates, otherGates, List.forall_mem_cons]
  tauto

end Readiness

section Utility

variable {F : Type} [MetricLike F] {candidateIsSynthetic blockerPresent : Bool}
  {deltas : MetricDeltas F} {drops : DegradedDrops F} {tstrTrts : TstrTrtsMetrics F}

/-- What training on synthetic rows alone shows is the only thing against the candidate. -/
def TstrAlone (candidateIsSynthetic blockerPresent : Bool) (deltas : MetricDeltas F)
    (drops : DegradedDrops F) (tstrTrts : TstrTrtsMetrics F) : Prop :=
  candidateIsSynthetic = true ∧ blockerPresent = false ∧ degradedReasons deltas drops = [] ∧
    tstrTrts.status = .available ∧
    exceeds tstrTrts.tstrMacroF1Drop tstrTrts.tstrMacroF1Threshold = true

theorem verdict_fails_iff : ((classifyVerdict deltas drops blockerPresent).1 = .rejected ∨
    (classifyVerdict deltas drops blockerPresent).1 = .degraded) ↔
      blockerPresent = true ∨ degradedReasons deltas drops ≠ [] := by
  rw [classifyVerdict]
  split
  · next h => simp [h]
  · next h =>
    split
    · next hreasons => simp [hreasons]
    · next hreasons =>
      have hnone :
          ¬ (blockerPresent = true ∨ degradedReasons deltas drops ≠ []) := not_or.mpr ⟨h, hreasons⟩
      refine iff_of_false ?_ hnone
      split
      · simp
      · split <;> simp

/-- Where the verdict passes, the training on synthetic rows alone decides a rejection. -/
theorem rejected_iff_of_verdict {verdict : ModelImpactVerdict} (hverdict : verdict ≠ .degraded)
    (hblocker : blockerPresent = false) (hreasons : degradedReasons deltas drops = []) :
    (classifySyntheticUtility candidateIsSynthetic verdict deltas drops tstrTrts blockerPresent).1 =
        .rejected ↔ TstrAlone candidateIsSynthetic blockerPresent deltas drops tstrTrts := by
  have hpart : weightedAndPrAucDegraded deltas drops = [] := by
    rw [degradedReasons] at hreasons
    exact (List.append_eq_nil_iff.mp hreasons).2
  have hnone : codeIf (decide (verdict = .degraded)) "metrics_degraded" ++
      weightedAndPrAucDegraded deltas drops = [] := by
    rw [hpart, codeIf, if_neg (by simpa using hverdict), List.append_nil]
  simp only [classifySyntheticUtility, TstrAlone, hblocker, hreasons, hnone]
  cases candidateIsSynthetic with
  | false => simp
  | true =>
    cases tstrTrts.status with
    | notApplicable => simp
    | available =>
      cases exceeds tstrTrts.tstrMacroF1Drop tstrTrts.tstrMacroF1Threshold with
      | true => simp
      | false =>
        simp only [Bool.false_eq_true, if_false, ne_eq, not_true_eq_false]
        split_ifs <;> simp_all

/-- A rejected synthetic candidate is held back unless the rejection rests on training
on synthetic rows alone and no gate but that of the model impact holds it back. -/
theorem rejected_withheld_iff {request : BuildExportPackageRequest}
    (hreport : request.modelImpactVerdict = some (classifyVerdict deltas drops blockerPresent).1) :
    ((classifySyntheticUtility candidateIsSynthetic (classifyVerdict deltas drops blockerPresent).1
        deltas drops tstrTrts blockerPresent).1 = .rejected →
        (exportPackage request).status ≠ .ready) ↔
      ¬ (TstrAlone candidateIsSynthetic blockerPresent deltas drops tstrTrts ∧
        ∀ gate ∈ otherGates request, ¬ Blocks gate) := by
  rw [Ne, ready_iff_verdict hreport, verdict_fails_iff]
  by_cases hfails : blockerPresent = true ∨ degradedReasons deltas drops ≠ []
  · have hnot : ¬ TstrAlone candidateIsSynthetic blockerPresent deltas drops tstrTrts := by
      rintro ⟨-, hblocker, hreasons, -⟩
      obtain h | h := hfails
      · exact absurd h (by simp [hblocker])
      · exact h hreasons
    simp [hfails, hnot]
  · obtain ⟨hblocker, hreasons⟩ := not_or.mp hfails
    have hblocker : blockerPresent = false := by simpa using hblocker
    have hreasons : degradedReasons deltas drops = [] := not_not.mp hreasons
    have hverdict : (classifyVerdict deltas drops blockerPresent).1 ≠ .degraded := fun h =>
      hfails (verdict_fails_iff.mp (.inr h))
    rw [rejected_iff_of_verdict hverdict hblocker hreasons]
    tauto

end Utility

section Examples

def gainingDeltas : MetricDeltas ℚ := ⟨1 / 10, 0, 0, none⟩

def defaultDrops : DegradedDrops ℚ := ⟨5 / 100, 3 / 100, 3 / 100, 3 / 100⟩

/-- Training on synthetic rows alone loses half of the macro F1. -/
def lostTstr : TstrTrtsMetrics ℚ :=
  ⟨.available, none, some (1 / 2), some (1 / 10), some 0, some (2 / 10)⟩

def exportedFile : ArtifactRef where
  artifactId := literal "export_manifest"
  kind := literal "EXPORT_MANIFEST"
  uri := ⟨"s3://b/export_manifest.json".toList, by decide⟩
  hash := zeroDigest
  mediaType := literal "application/json"
  sizeBytes := 0
  schemaVersion := literal "export_manifest.v1"
  lineage := ⟨literal "v0", literal "job", zeroDigest, ⟨0, none⟩⟩

def passedCandidate : CandidateDatasetVersion where
  candidateVersionId := literal "candidate"
  status := .proposed
  lineage := ⟨literal "v0", literal "v1", literal "plan", literal "job", zeroDigest⟩
  candidateArtifacts := [exportedFile]
  primaryDatasetArtifact := exportedFile
  validationGatesReport := none
  validationGatesSummary := none
  blockExport := false
  blockModelEvaluation := false
  blockTraining := false
  blockerReasonCodes := []
  proposedAt := ⟨0, some 0⟩

/-- An export of a candidate that passed all gates but that of the model impact. -/
def impactRequest (verdict : ModelImpactVerdict) : BuildExportPackageRequest where
  datasetId := literal "dataset"
  candidateDatasetVersion := passedCandidate
  validationGatesReport := none
  modelImpactVerdict := some verdict
  textOcrReport := none
  decisionReportId := literal "report"
  exportManifestArtifact := exportedFile
  tabularArtifacts := []
  textArtifacts := []
  datasetCardArtifact := some exportedFile
  lineageArtifact := some exportedFile
  dataforgeReportArtifact := none
  reviewQueueArtifact := none
  extraArtifacts := []
  includedObjectCount := 1
  blockedObjectCount := 0
  excludedObjectCount := 0
  requireModelImpactEligibility := true
  requireDatasetCard := true
  requireLineageArtifact := true
  createdByJobId := literal "job"
  configHash := zeroDigest
  exportPackageId := literal "package"
  createdAt := ⟨0, some 0⟩

/-- Degraded metrics hold the candidate back, whatever the synthetic rows show. -/
theorem rejected_withheld_degraded :
    ((classifySyntheticUtility true
      (classifyVerdict (⟨-1, 0, 0, none⟩ : MetricDeltas ℚ) defaultDrops
      false).1 ⟨-1, 0, 0, none⟩ defaultDrops lostTstr false).1 = .rejected →
      (exportPackage
        (impactRequest (classifyVerdict (⟨-1, 0, 0, none⟩ : MetricDeltas ℚ) defaultDrops
        false).1)).status ≠ .ready) ↔
      ¬ (TstrAlone true false ⟨-1, 0, 0, none⟩ defaultDrops lostTstr ∧
        ∀ gate ∈ otherGates (impactRequest (classifyVerdict (⟨-1, 0, 0, none⟩ : MetricDeltas ℚ)
          defaultDrops false).1), ¬ Blocks gate) :=
  rejected_withheld_iff rfl

/-- The rare class gains, the synthetic rows alone teach nothing, and the package is ready. -/
theorem rejected_ready : ¬ ∀ (F : Type) [MetricLike F] (deltas : MetricDeltas F)
    (drops : DegradedDrops F) (tstrTrts : TstrTrtsMetrics F)
    (candidateIsSynthetic blockerPresent : Bool) (request : BuildExportPackageRequest),
    request.modelImpactVerdict = some (classifyVerdict deltas drops blockerPresent).1 →
      (classifySyntheticUtility candidateIsSynthetic (classifyVerdict deltas drops blockerPresent).1
        deltas drops tstrTrts blockerPresent).1 = .rejected →
        (exportPackage request).status ≠ .ready := by
  intro h
  have hverdict : (classifyVerdict gainingDeltas defaultDrops false).1 =
      .improved := by decide +kernel
  have hrejected :
      (classifySyntheticUtility true (classifyVerdict gainingDeltas defaultDrops false).1
      gainingDeltas defaultDrops lostTstr false).1 = .rejected := by decide +kernel
  refine h ℚ gainingDeltas defaultDrops lostTstr true false (impactRequest .improved) ?_ hrejected
    (by decide +kernel)
  exact congrArg some hverdict.symm

end Examples

end DataForge.Kernel.UtilityGate
