import DataForge.Domain.CandidateVersion
import DataForge.Domain.Profile

namespace DataForge.Kernel.ExportPackage

open DataForge.Foundation.Strings
open DataForge.Domain.Common
open DataForge.Domain.Artifact
open DataForge.Domain.CandidateVersion
open DataForge.Domain.ExportPackage
open DataForge.Domain.Profile
open DataForge.Domain.ValidationGates

structure BuildExportPackageRequest where
  datasetId : NonEmptyStr
  candidateDatasetVersion : CandidateDatasetVersion
  validationGatesReport : Option ValidationGatesReport
  modelImpactVerdict : Option ModelImpactVerdict
  textOcrReport : Option TextOcrReport
  decisionReportId : NonEmptyStr
  exportManifestArtifact : ArtifactRef
  tabularArtifacts : List ArtifactRef
  textArtifacts : List ArtifactRef
  datasetCardArtifact : Option ArtifactRef
  lineageArtifact : Option ArtifactRef
  dataforgeReportArtifact : Option ArtifactRef
  reviewQueueArtifact : Option ArtifactRef
  extraArtifacts : List ArtifactRef
  includedObjectCount : Nat
  blockedObjectCount : Nat
  excludedObjectCount : Nat
  requireModelImpactEligibility : Bool
  requireDatasetCard : Bool
  requireLineageArtifact : Bool
  createdByJobId : NonEmptyStr
  configHash : Sha256Digest
  exportPackageId : NonEmptyStr
  createdAt : Datetime

def gatePassed (name : String) (reasonCodes : List Text) : ValidationGateResult :=
  ⟨name.toList, .passed, reasonCodes⟩

def gateFailed (name : String) (reasonCodes : List Text) : ValidationGateResult :=
  ⟨name.toList, .failed, reasonCodes⟩

def gateNotApplicable (name reasonCode : String) : ValidationGateResult :=
  ⟨name.toList, .notApplicable, [reasonCode.toList]⟩

def orDefault (reasonCodes : List Text) (reasonCode : String) : List Text :=
  if reasonCodes = [] then [reasonCode.toList] else reasonCodes

def candidateValidationGate (candidate : CandidateDatasetVersion) : ValidationGateResult :=
  if candidate.blockExport then
    gateFailed "candidate_validation_passed"
      (orDefault (candidate.blockerReasonCodes.map Subtype.val) "candidate_block_export_flag")
  else gatePassed "candidate_validation_passed" []

def rawArtifactUnchanged (candidate : CandidateDatasetVersion)
    (gatesReport : Option ValidationGatesReport) : Option Bool :=
  match gatesReport with
  | some report => some report.rawArtifactUnchanged
  | none => candidate.validationGatesSummary.map ValidationGatesSummary.rawArtifactUnchanged

def rawImmutabilityGate (candidate : CandidateDatasetVersion)
    (gatesReport : Option ValidationGatesReport) : ValidationGateResult :=
  match rawArtifactUnchanged candidate gatesReport with
  | some false => gateFailed "raw_artifact_immutability" ["raw_artifact_changed".toList]
  | some true => gatePassed "raw_artifact_immutability" []
  | none => gateNotApplicable "raw_artifact_immutability" "raw_artifact_unchanged_unknown"

def validationGatesGate : Option ValidationGatesReport → ValidationGateResult
  | none => gateNotApplicable "validation_gates_blocker_check"
    "validation_gates_report_not_provided"
  | some report =>
    if report.blockerPresent then
      gateFailed "validation_gates_blocker_check"
        (orDefault (report.blockerGateTypes.map ValidationGateType.value)
          "validation_gates_blocker_present")
    else gatePassed "validation_gates_blocker_check" []

/-- A natural difference is the larger of 0 and the difference. -/
def privacyGate : Option TextOcrReport → ValidationGateResult
  | none => gateNotApplicable "privacy_check" "text_ocr_report_not_provided"
  | some report =>
    if 0 < report.totalPiiRecordCount - report.totalRedactedRecordCount then
      gateFailed "privacy_check" ["pii_unmasked".toList]
    else gatePassed "privacy_check" []

def blockedObjectsGate (blockedObjectCount : Nat) : ValidationGateResult :=
  if 0 < blockedObjectCount then
    gateFailed "blocked_objects_excluded" ["blocked_objects_present".toList]
  else gatePassed "blocked_objects_excluded" []

def modelImpactGate (requireEligibility : Bool) : Option ModelImpactVerdict → ValidationGateResult
  | none =>
    if requireEligibility then
      gateFailed "model_impact_eligibility" ["model_impact_report_required".toList]
    else gateNotApplicable "model_impact_eligibility" "model_impact_report_not_provided"
  | some .rejected => gateFailed "model_impact_eligibility" ["model_impact_rejected".toList]
  | some .degraded => gateFailed "model_impact_eligibility" ["model_impact_degraded".toList]
  | some verdict => gatePassed "model_impact_eligibility" [verdict.value]

def missingRequiredArtifacts (request : BuildExportPackageRequest) : List Text :=
  (if request.requireDatasetCard = true ∧ request.datasetCardArtifact = none then
      ["dataset_card_artifact_missing".toList] else []) ++
    if request.requireLineageArtifact = true ∧ request.lineageArtifact = none then
      ["lineage_artifact_missing".toList] else []

def requiredArtifactsGate (request : BuildExportPackageRequest) : ValidationGateResult :=
  if missingRequiredArtifacts request = [] then gatePassed "required_artifacts_present" []
  else gateFailed "required_artifacts_present" (missingRequiredArtifacts request)

/-- The reason codes of the failed gates. -/
def blockerCodes (gates : List ValidationGateResult) : List Text :=
  (gates.filter fun gate => gate.status = .failed).flatMap ValidationGateResult.reasonCodes

/-- The values that are not empty, each at its first occurrence. -/
def orderedUniqueFrom (seen : List Text) : List Text → List Text
  | [] => []
  | value :: values =>
    if value = [] ∨ value ∈ seen then orderedUniqueFrom seen values
    else value :: orderedUniqueFrom (value :: seen) values

def exportGates (request : BuildExportPackageRequest) : List ValidationGateResult :=
  [candidateValidationGate request.candidateDatasetVersion,
    rawImmutabilityGate request.candidateDatasetVersion request.validationGatesReport,
    validationGatesGate request.validationGatesReport,
    privacyGate request.textOcrReport,
    blockedObjectsGate request.blockedObjectCount,
    modelImpactGate request.requireModelImpactEligibility request.modelImpactVerdict,
    requiredArtifactsGate request]

/-- The gates evaluated so far and the blocker codes, which are kept beside them. -/
abbrev Evaluation := List ValidationGateResult × List Text

/-- Gate 1. -/
def checkCandidateValidation (candidate : CandidateDatasetVersion) (evaluation : Evaluation) :
    Evaluation :=
  if candidate.blockExport then
    let reasons :=
      orDefault (candidate.blockerReasonCodes.map Subtype.val) "candidate_block_export_flag"
    (evaluation.1 ++ [gateFailed "candidate_validation_passed" reasons], evaluation.2 ++ reasons)
  else (evaluation.1 ++ [gatePassed "candidate_validation_passed" []], evaluation.2)

/-- Gate 2. -/
def checkRawImmutability (candidate : CandidateDatasetVersion)
    (gatesReport : Option ValidationGatesReport) (evaluation : Evaluation) : Evaluation :=
  match rawArtifactUnchanged candidate gatesReport with
  | some false =>
    (evaluation.1 ++ [gateFailed "raw_artifact_immutability" ["raw_artifact_changed".toList]],
      evaluation.2 ++ ["raw_artifact_changed".toList])
  | some true => (evaluation.1 ++ [gatePassed "raw_artifact_immutability" []], evaluation.2)
  | none =>
    (evaluation.1 ++
      [gateNotApplicable "raw_artifact_immutability" "raw_artifact_unchanged_unknown"],
      evaluation.2)

/-- Gate 3. -/
def checkValidationGates (gatesReport : Option ValidationGatesReport) (evaluation : Evaluation) :
    Evaluation :=
  match gatesReport with
  | none =>
    (evaluation.1 ++
      [gateNotApplicable "validation_gates_blocker_check" "validation_gates_report_not_provided"],
      evaluation.2)
  | some report =>
    if report.blockerPresent then
      let reasons := orDefault (report.blockerGateTypes.map ValidationGateType.value)
        "validation_gates_blocker_present"
      (evaluation.1 ++ [gateFailed "validation_gates_blocker_check" reasons],
        evaluation.2 ++ reasons)
    else (evaluation.1 ++ [gatePassed "validation_gates_blocker_check" []], evaluation.2)

/-- Gate 4. -/
def checkPrivacy (report : Option TextOcrReport) (evaluation : Evaluation) : Evaluation :=
  let gate := privacyGate report
  (evaluation.1 ++ [gate],
    if gate.status = .failed then evaluation.2 ++ gate.reasonCodes else evaluation.2)

/-- Gate 5. -/
def checkBlockedObjects (blockedObjectCount : Nat) (evaluation : Evaluation) : Evaluation :=
  if 0 < blockedObjectCount then
    (evaluation.1 ++ [gateFailed "blocked_objects_excluded" ["blocked_objects_present".toList]],
      evaluation.2 ++ ["blocked_objects_present".toList])
  else (evaluation.1 ++ [gatePassed "blocked_objects_excluded" []], evaluation.2)

/-- The model impact gate, and the blocker codes that it leaves behind. -/
def modelImpactCheck (requireEligibility : Bool) (verdict : Option ModelImpactVerdict)
    (codes : List Text) : ValidationGateResult × List Text :=
  match verdict with
  | none =>
    if requireEligibility then
      (gateFailed "model_impact_eligibility" ["model_impact_report_required".toList],
        codes ++ ["model_impact_report_required".toList])
    else (gateNotApplicable "model_impact_eligibility" "model_impact_report_not_provided", codes)
  | some .rejected =>
    (gateFailed "model_impact_eligibility" ["model_impact_rejected".toList],
      codes ++ ["model_impact_rejected".toList])
  | some .degraded =>
    (gateFailed "model_impact_eligibility" ["model_impact_degraded".toList],
      codes ++ ["model_impact_degraded".toList])
  | some verdict => (gatePassed "model_impact_eligibility" [verdict.value], codes)

/-- Gate 6. -/
def checkModelImpact (requireEligibility : Bool) (verdict : Option ModelImpactVerdict)
    (evaluation : Evaluation) : Evaluation :=
  let (gate, codes) := modelImpactCheck requireEligibility verdict evaluation.2
  (evaluation.1 ++ [gate], codes)

/-- Gate 7. -/
def checkRequiredArtifacts (request : BuildExportPackageRequest) (evaluation : Evaluation) :
    Evaluation :=
  let missing := missingRequiredArtifacts request
  if missing = [] then (evaluation.1 ++ [gatePassed "required_artifacts_present" []], evaluation.2)
  else (evaluation.1 ++ [gateFailed "required_artifacts_present" missing],
    missing.foldl (fun codes code => codes ++ [code]) evaluation.2)

def evaluateExportGates (request : BuildExportPackageRequest) : Evaluation :=
  let candidate := request.candidateDatasetVersion
  let evaluation := checkCandidateValidation candidate ([], [])
  let evaluation := checkRawImmutability candidate request.validationGatesReport evaluation
  let evaluation := checkValidationGates request.validationGatesReport evaluation
  let evaluation := checkPrivacy request.textOcrReport evaluation
  let evaluation := checkBlockedObjects request.blockedObjectCount evaluation
  let evaluation :=
    checkModelImpact request.requireModelImpactEligibility request.modelImpactVerdict evaluation
  let evaluation := checkRequiredArtifacts request evaluation
  (evaluation.1, orderedUniqueFrom [] evaluation.2)

section InStep

/-- The evaluation after one more gate, whose reason codes block where it fails. -/
def Evaluation.record (evaluation : Evaluation) (gate : ValidationGateResult) : Evaluation :=
  (evaluation.1 ++ [gate], evaluation.2 ++ blockerCodes [gate])

variable (evaluation : Evaluation)

theorem record_failed (name : String) (reasonCodes : List Text) :
    evaluation.record (gateFailed name reasonCodes) =
      (evaluation.1 ++ [gateFailed name reasonCodes], evaluation.2 ++ reasonCodes) := by
  simp [Evaluation.record, blockerCodes, gateFailed]

theorem record_of_not_failed {gate : ValidationGateResult} (h : gate.status ≠ .failed) :
    evaluation.record gate = (evaluation.1 ++ [gate], evaluation.2) := by
  simp [Evaluation.record, blockerCodes, h]

theorem checkCandidateValidation_eq (candidate : CandidateDatasetVersion) :
    checkCandidateValidation candidate evaluation =
      evaluation.record (candidateValidationGate candidate) := by
  rw [checkCandidateValidation, candidateValidationGate]
  split
  · rw [record_failed]
  · rw [record_of_not_failed evaluation (by decide)]

theorem checkRawImmutability_eq (candidate : CandidateDatasetVersion)
    (gatesReport : Option ValidationGatesReport) :
    checkRawImmutability candidate gatesReport evaluation =
      evaluation.record (rawImmutabilityGate candidate gatesReport) := by
  rw [checkRawImmutability, rawImmutabilityGate]
  split
  · rw [record_failed]
  · rw [record_of_not_failed evaluation (by decide)]
  · rw [record_of_not_failed evaluation (by decide)]

theorem checkValidationGates_eq (gatesReport : Option ValidationGatesReport) :
    checkValidationGates gatesReport evaluation =
      evaluation.record (validationGatesGate gatesReport) := by
  rw [checkValidationGates.eq_def, validationGatesGate.eq_def]
  split
  · rw [record_of_not_failed evaluation (by decide)]
  · split
    · rw [record_failed]
    · rw [record_of_not_failed evaluation (by decide)]

theorem checkPrivacy_eq (report : Option TextOcrReport) :
    checkPrivacy report evaluation = evaluation.record (privacyGate report) := by
  rw [checkPrivacy, Evaluation.record]
  by_cases hfailed : (privacyGate report).status = .failed
  · simp [blockerCodes, hfailed]
  · simp [blockerCodes, hfailed]

theorem checkBlockedObjects_eq (blockedObjectCount : Nat) :
    checkBlockedObjects blockedObjectCount evaluation =
      evaluation.record (blockedObjectsGate blockedObjectCount) := by
  rw [checkBlockedObjects, blockedObjectsGate]
  split
  · rw [record_failed]
  · rw [record_of_not_failed evaluation (by decide)]

theorem checkModelImpact_eq (requireEligibility : Bool) (verdict : Option ModelImpactVerdict) :
    checkModelImpact requireEligibility verdict evaluation =
      evaluation.record (modelImpactGate requireEligibility verdict) := by
  rcases verdict with _ | _ | _ | _ | _
  · cases requireEligibility with
    | true => exact (record_failed evaluation _ _).symm
    | false => exact (record_of_not_failed evaluation (by decide)).symm
  · exact (record_of_not_failed evaluation (by decide)).symm
  · exact (record_of_not_failed evaluation (by decide)).symm
  · exact (record_failed evaluation _ _).symm
  · exact (record_failed evaluation _ _).symm

theorem foldl_append_singleton (codes missing : List Text) :
    missing.foldl (fun codes code => codes ++ [code]) codes = codes ++ missing := by
  induction missing generalizing codes with
  | nil => rw [List.append_nil]; rfl
  | cons code missing ih => rw [List.foldl_cons, ih, List.append_assoc]; rfl

theorem checkRequiredArtifacts_eq (request : BuildExportPackageRequest) :
    checkRequiredArtifacts request evaluation =
      evaluation.record (requiredArtifactsGate request) := by
  rw [checkRequiredArtifacts, requiredArtifactsGate]
  simp only [foldl_append_singleton]
  split
  · rw [record_of_not_failed evaluation (by decide)]
  · rw [record_failed]

theorem blockerCodes_append (gates more : List ValidationGateResult) :
    blockerCodes (gates ++ more) = blockerCodes gates ++ blockerCodes more := by
  rw [blockerCodes, List.filter_append, List.flatMap_append, blockerCodes, blockerCodes]

/-- The blocker codes are in step with the gates: they are the reason codes of the failed
ones. -/
theorem evaluateExportGates_eq (request : BuildExportPackageRequest) : evaluateExportGates request =
    (exportGates request, orderedUniqueFrom [] (blockerCodes (exportGates request))) := by
  rw [evaluateExportGates]
  simp only [checkCandidateValidation_eq, checkRawImmutability_eq, checkValidationGates_eq,
    checkPrivacy_eq, checkBlockedObjects_eq, checkModelImpact_eq, checkRequiredArtifacts_eq,
    Evaluation.record, ← blockerCodes_append, List.nil_append]
  rfl

end InStep

/-- The references, each at the first occurrence of its URI. -/
def uniqueByUri (seen : List S3Uri) : List ArtifactRef → List ArtifactRef
  | [] => []
  | ref :: refs =>
    if ref.uri ∈ seen then uniqueByUri seen refs else ref :: uniqueByUri (ref.uri :: seen) refs

def resolveArtifacts (request : BuildExportPackageRequest) (blocked : Bool) : List ArtifactRef :=
  if blocked then [request.exportManifestArtifact]
  else uniqueByUri [] ([request.exportManifestArtifact] ++ request.tabularArtifacts ++
    request.textArtifacts ++ request.datasetCardArtifact.toList ++ request.lineageArtifact.toList ++
    request.dataforgeReportArtifact.toList ++ request.reviewQueueArtifact.toList ++
    request.extraArtifacts)

def exportPackage (request : BuildExportPackageRequest) : ExportPackage :=
  let (gates, codes) := evaluateExportGates request
  let candidate := request.candidateDatasetVersion
  let blocked := decide (codes ≠ [])
  { exportPackageId := request.exportPackageId
    datasetId := request.datasetId
    versionId := candidate.lineage.proposedVersionName
    sourceVersionId := candidate.lineage.parentVersionId
    createdByJobId := request.createdByJobId
    status := if blocked then .blocked else .ready
    artifacts := resolveArtifacts request blocked
    validationGates := gates
    objectCounts := ⟨if blocked then 0 else request.includedObjectCount, request.blockedObjectCount,
      request.excludedObjectCount⟩
    blockedReasonCodes := codes
    lineage := ⟨candidate.lineage.parentVersionId, candidate.lineage.actionPlanId,
      request.decisionReportId, request.configHash⟩
    createdAt := request.createdAt }

theorem orderedUniqueFrom_ne_nil {values : List Text} {value : Text} (hmem : value ∈ values)
    (hne : value ≠ []) : orderedUniqueFrom [] values ≠ [] := by
  induction values with
  | nil => simp at hmem
  | cons first values ih =>
    rw [orderedUniqueFrom]
    by_cases hfirst : first = []
    · rw [if_pos (Or.inl hfirst)]
      refine ih ((List.mem_cons.mp hmem).resolve_left ?_)
      rintro rfl
      exact hne hfirst
    · rw [if_neg (by simpa using hfirst)]
      exact List.cons_ne_nil _ _

/-- A failed gate with a reason blocks the package. -/
theorem blocked_of_failed {request : BuildExportPackageRequest} {gate : ValidationGateResult}
    {reasonCode : Text} (hgate : gate ∈ exportGates request) (hfailed : gate.status = .failed)
    (hmem : reasonCode ∈ gate.reasonCodes) (hne : reasonCode ≠ []) :
    (exportPackage request).status = .blocked ∧
      (exportPackage request).artifacts = [request.exportManifestArtifact] ∧
      (exportPackage request).objectCounts.included = 0 := by
  have hcodes : (evaluateExportGates request).2 ≠ [] := by
    rw [evaluateExportGates_eq]
    refine orderedUniqueFrom_ne_nil (List.mem_flatMap.mpr ⟨gate, ?_, hmem⟩) hne
    exact List.mem_filter.mpr ⟨hgate, decide_eq_true hfailed⟩
  have hblocked : decide ((evaluateExportGates request).2 ≠ []) = true := decide_eq_true hcodes
  refine ⟨?_, ?_, ?_⟩ <;> simp only [exportPackage, hblocked, resolveArtifacts, if_pos]

end DataForge.Kernel.ExportPackage
