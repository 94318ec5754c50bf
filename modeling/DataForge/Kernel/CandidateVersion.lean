import DataForge.Domain.CandidateVersion
import DataForge.Domain.Decision
import DataForge.Plugins.Validation.GatesRun

namespace DataForge.Kernel.CandidateVersion

open DataForge.Foundation.Strings
open DataForge.Foundation.Outcome
open DataForge.Foundation.Scores
open DataForge.Foundation.Sha256
open DataForge.Domain.Common
open DataForge.Domain.Artifact
open DataForge.Domain.CandidateVersion
open DataForge.Domain.Decision
open DataForge.Domain.ValidationGates
open DataForge.Plugins.Tabular.Sources
open DataForge.Plugins.Validation.Gates
open DataForge.Plugins.Validation.GatesRun

structure BuildCandidateVersionRequest where
  parentVersionId : NonEmptyStr
  proposedVersionName : NonEmptyStr
  actionPlan : ActionPlan
  createdByJobId : NonEmptyStr
  configHash : Sha256Digest
  candidateArtifacts : List ArtifactRef
  primaryDatasetArtifact : ArtifactRef
  validationGatesReport : Option ValidationGatesReport
  validationGatesReportArtifact : Option ArtifactRef
  /-- The generated count of the synthetic dataset report, where there is one. -/
  syntheticGeneratedCount : Option Nat
  syntheticDatasetReportArtifact : Option ArtifactRef
  syntheticValidationReportArtifact : Option ArtifactRef
  candidateVersionId : NonEmptyStr
  proposedAt : Datetime

def candidateVersionBuilderError (reasonCode message : String) : Raised :=
  .reasoned "CandidateVersionBuilderError" reasonCode .actionPlanPreconditionFailed none message

section Builder

def resolveStatus : Option ValidationGatesReport → CandidateVersionStatus
  | none => .failed
  | some report =>
    match report.candidateStatus with
    | .validationFailed => .blocked
    | .reviewRequired => .reviewRequired
    | .ok => .proposed

/-- Whether export, model evaluation and training are blocked. -/
def resolveBlocks : Option ValidationGatesReport → Bool × Bool × Bool
  | none => (true, true, true)
  | some report => (report.blockExport, report.blockModelEvaluation, report.blockTraining)

def resolveBlockerReasonCodes : Option ValidationGatesReport → List NonEmptyStr
  | none => []
  | some report => (report.gates.filter gateIsBlocking).map CandidateValidationGate.reasonCode

def validationSummary (report : Option ValidationGatesReport) : Option ValidationGatesSummary :=
  report.map fun report =>
    ⟨report.overallStatus, report.candidateStatus, report.rawArtifactUnchanged,
      report.blockerPresent⟩

/-- The checks around the metadata of a synthetic candidate. -/
def checkSyntheticMetadata (request : BuildCandidateVersionRequest)
    (status : CandidateVersionStatus) : Result Unit :=
  match request.syntheticGeneratedCount with
  | none => .ok ()
  | some generatedCount => do
    guardOk (request.syntheticDatasetReportArtifact ≠ none)
      (candidateVersionBuilderError "synthetic_dataset_report_artifact_required"
        ("synthetic_dataset_report_artifact must be provided when synthetic_dataset_report is " ++
          "supplied so the candidate version artifact can reference the immutable report."))
    guardOk (request.syntheticValidationReportArtifact.or
      request.validationGatesReportArtifact ≠ none)
      (candidateVersionBuilderError "synthetic_validation_report_required"
        ("synthetic candidate metadata must reference a validation report artifact " ++
          "(synthetic_validation_report_artifact or validation_gates_report_artifact)."))
    guardOk (¬ (status = .proposed ∧ generatedCount = 0))
      (candidateVersionBuilderError "synthetic_candidate_has_no_generated_rows"
        "synthetic candidate metadata reports zero generated rows")

def buildCandidateVersion (request : BuildCandidateVersionRequest) :
    Result CandidateDatasetVersion := do
  guardOk (request.candidateArtifacts ≠ [])
    (.validation "BuildCandidateVersionRequest" "candidate_artifacts")
  checkSyntheticMetadata request (resolveStatus request.validationGatesReport)
  let (blockExport, blockModelEvaluation, blockTraining) :=
    resolveBlocks request.validationGatesReport
  pure
    { candidateVersionId := request.candidateVersionId
      status := resolveStatus request.validationGatesReport
      lineage := ⟨request.parentVersionId, request.proposedVersionName,
        request.actionPlan.actionPlanId, request.createdByJobId, request.configHash⟩
      candidateArtifacts := request.candidateArtifacts
      primaryDatasetArtifact := request.primaryDatasetArtifact
      validationGatesReport := request.validationGatesReportArtifact
      validationGatesSummary := validationSummary request.validationGatesReport
      blockExport := blockExport
      blockModelEvaluation := blockModelEvaluation
      blockTraining := blockTraining
      blockerReasonCodes := resolveBlockerReasonCodes request.validationGatesReport
      proposedAt := request.proposedAt }

theorem buildCandidateVersion_eq_ok {request : BuildCandidateVersionRequest}
    {candidate : CandidateDatasetVersion} (h : buildCandidateVersion request = .ok candidate) :
    candidate.status = resolveStatus request.validationGatesReport ∧
      candidate.blockExport = (resolveBlocks request.validationGatesReport).1 := by
  obtain ⟨_, -, h⟩ := bind_eq_ok.mp h
  obtain ⟨_, -, h⟩ := bind_eq_ok.mp h
  obtain rfl := Except.ok.inj h
  exact ⟨rfl, rfl⟩

end Builder

section Blocking

/-- The report fails the candidate and blocks its export. -/
def FailsCandidate (report : ValidationGatesReport) : Prop :=
  report.candidateStatus = .validationFailed ∧ report.blockExport = true

theorem blocked_of_failsCandidate {request : BuildCandidateVersionRequest}
    {report : ValidationGatesReport} {candidate : CandidateDatasetVersion}
    (hreport : request.validationGatesReport = some report) (hfails : FailsCandidate report)
    (h : buildCandidateVersion request = .ok candidate) :
    candidate.status = .blocked ∧ candidate.blockExport = true := by
  obtain ⟨hstatus, hblock⟩ := buildCandidateVersion_eq_ok h
  rw [hreport] at hstatus hblock
  refine ⟨hstatus.trans ?_, hblock.trans hfails.2⟩
  rw [resolveStatus, hfails.1]

variable {F : Type} [MetricLike F] {pii : PiiPatterns} {storage : Storage}
  {request : RunValidationGatesRequest F} {report : ValidationGatesReport}

/-- The bytes under the source's URI, if any, have another digest than the source says. -/
def SourceChanged (storage : Storage) (source : ArtifactRef) : Prop :=
  ∀ stored, storage source.uri = some stored → sha256 stored.data ≠ source.hash.1

theorem rawUnchanged_iff (source : ArtifactRef) :
    (rawArtifactImmutabilityGate storage source).2 = false ↔ SourceChanged storage source := by
  rw [rawArtifactImmutabilityGate, SourceChanged]
  cases storage source.uri with
  | none => simp
  | some stored =>
    dsimp only
    split
    · next hne => simpa using hne
    · next heq => simpa using heq

theorem failsCandidate_of_failed (h : runValidationGates pii storage request = .ok report)
    (hfailed : (∃ gate ∈ report.gates, gate.status = .failed ∧ gate.severity = .blocker) ∨
      SourceChanged storage request.sourceArtifact) : FailsCandidate report := by
  obtain ⟨rows, columns, businessRules, synthetic, -, -, -, rfl⟩ := runValidationGates_eq_ok.mp h
  have hstatus : ∀ gates rawUnchanged, ((∃ gate ∈ gates, gate.status = .failed ∧
      gate.severity = .blocker) ∨ rawUnchanged = false) →
        candidateStatus gates rawUnchanged = .validationFailed := by
    rintro gates rawUnchanged (⟨gate, hgate, hblocking⟩ | hraw)
    · refine if_pos (Or.inr ?_)
      exact List.any_eq_true.mpr ⟨gate, hgate, decide_eq_true hblocking⟩
    · exact if_pos (Or.inl hraw)
  have hfails := hstatus _ _ (hfailed.imp_right (rawUnchanged_iff request.sourceArtifact).mpr)
  refine ⟨hfails, ?_⟩
  rw [buildReport, Bool.or_eq_true, decide_eq_true_iff]
  exact Or.inr hfails

end Blocking

end DataForge.Kernel.CandidateVersion
