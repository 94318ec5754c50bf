import DataForge.Plugins.Validation.Gates

namespace DataForge.Plugins.Validation.GatesRun

open DataForge.Foundation.Strings
open DataForge.Foundation.Outcome
open DataForge.Foundation.Numbers
open DataForge.Foundation.Scores
open DataForge.Foundation.Tables
open DataForge.Domain.Common
open DataForge.Domain.Leakage
open DataForge.Domain.ValidationGates
open DataForge.Plugins.Tabular.Sources
open DataForge.Plugins.Validation.Gates
open FloatLike MetricLike

variable {F : Type} [MetricLike F]

section Distances

def rowVector (columns : List Text) (row : IdentifiedRow) : List F :=
  columns.map fun column => (parse (cell column row.1)).getD (ofInt 0)

def euclidean (a b : List F) : F :=
  if a.length ≠ b.length then ofInt 0
  else sqrt ((a.zip b).foldl (fun total pair =>
    let delta := sub pair.1 pair.2
    add total (mul delta delta)) (ofInt 0))

/-- The least distance below a bound; a distance of zero ends the search. -/
def nearest (vector : List F) : F → List (List F) → F
  | best, [] => best
  | best, real :: reals =>
    let distance := euclidean vector real
    if lt distance best then
      if beq distance (ofInt 0) then distance else nearest vector distance reals
    else nearest vector best reals

def distanceToClosest (reals : List (List F)) (vector : List F) : F :=
  let distance := nearest vector inf reals
  if isInf distance then ofInt 0 else distance

structure DcrMetrics (F : Type) where
  distances : List F
  minimum : F
  belowEpsilon : Nat

def computeDcr (columns : List Text) (synthetic real : List IdentifiedRow) : DcrMetrics F :=
  let reals := real.map (rowVector columns)
  let distances : List F := synthetic.map fun row => distanceToClosest reals (rowVector columns row)
  { distances := distances
    minimum := match distances with
      | [] => ofInt 0
      | d :: ds => minBy lt id d ds
    belowEpsilon := distances.countP fun d => ScoreLike.le d (ScoreLike.decimal 1 9) }

end Distances

section Synthetic

def dcrGate (metrics : DcrMetrics F) (thresholds : DcrThresholds F) : CandidateValidationGate :=
  if lt metrics.minimum thresholds.minimumDcrThreshold = true ∨ 0 < metrics.belowEpsilon then
    blocked .syntheticDcrCheck (literal "dcr_threshold_violated") .blockExport
      (max metrics.belowEpsilon 1)
  else passed .syntheticDcrCheck (literal "dcr_passed")

def exactDuplicateGate (columns : List Text) (synthetic real : List IdentifiedRow) :
    CandidateValidationGate :=
  let realSignatures := real.map fun row => signature columns row.1
  let findings := synthetic.countP fun row => signature columns row.1 ∈ realSignatures
  if findings = 0 then passed .syntheticExactDuplicateToReal (literal "no_exact_duplicate_to_real")
  else blocked .syntheticExactDuplicateToReal (literal "synthetic_exact_duplicate_to_real")
    .blockExport findings

def nearestNeighborPrivacyGate (metrics : DcrMetrics F) (thresholds : DcrThresholds F) :
    CandidateValidationGate :=
  let findings := metrics.distances.countP fun d => ScoreLike.le d thresholds.nearestNeighborEpsilon
  if findings = 0 then
    passed .syntheticNearestNeighborPrivacy (literal "nearest_neighbor_privacy_ok")
  else blocked .syntheticNearestNeighborPrivacy (literal "synthetic_too_close_to_real")
    .blockExport findings

def unavailable (gateType : ValidationGateType) (reason : NonEmptyStr) : CandidateValidationGate :=
  notApplicable gateType reason reason.1

def unavailableSynthetic (reason : NonEmptyStr) : List CandidateValidationGate :=
  [unavailable .syntheticDcrCheck reason,
    unavailable .syntheticExactDuplicateToReal reason,
    unavailable .syntheticNearestNeighborPrivacy reason]

/-- The numeric ones of the features, where there are any. -/
def distanceColumns (request : RunValidationGatesRequest F) (features : List NonEmptyStr) :
    List Text :=
  let numeric := features.filter fun column => column ∈ request.numericColumns
  (if request.numericColumns = [] ∨ numeric = [] then features else numeric).map Subtype.val

def resolveDcrReferenceRows (storage : Storage) (request : RunValidationGatesRequest F)
    (candidateReal : List IdentifiedRow) : Result (List IdentifiedRow) := do
  let (rows, _) ← readCsv storage request.sourceArtifact.uri "source_dcr_reference"
      "Source_dcr_reference"
  let real := rows.filter fun row => !isSynthetic row
  pure (if real = [] then candidateReal else real)

def syntheticGates (storage : Storage) (request : RunValidationGatesRequest F)
    (rows : List IdentifiedRow) : Result (List CandidateValidationGate) :=
  let synthetic := rows.filter isSynthetic
  match request.syntheticFeatureColumns with
  | none => .ok (unavailableSynthetic (literal "synthetic_artifact_not_provided"))
  | some features =>
    if synthetic = [] then .ok (unavailableSynthetic (literal "candidate_has_no_synthetic_rows"))
    else do
      let real ← resolveDcrReferenceRows storage request (rows.filter fun row => !isSynthetic row)
      let columns := distanceColumns request features
      let metrics := computeDcr columns synthetic real
      pure [dcrGate metrics request.dcrThresholds,
        exactDuplicateGate columns synthetic real,
        nearestNeighborPrivacyGate metrics request.dcrThresholds]

def unavailableGates : List CandidateValidationGate :=
  [unavailable .syntheticDistributionSimilarity
      (literal "distribution_similarity_pipeline_not_available"),
    unavailable .syntheticCorrelationPreservation
      (literal "correlation_preservation_pipeline_not_available"),
    unavailable .syntheticMissingnessComparison
      (literal "missingness_comparison_pipeline_not_available"),
    unavailable .syntheticTstr (literal "model_impact_pipeline_not_available"),
    unavailable .syntheticTrts (literal "model_impact_pipeline_not_available"),
    unavailable .syntheticShapConsistency (literal "shap_pipeline_not_available"),
    unavailable .syntheticTabsyndex (literal "tabsyndex_pipeline_not_available")]

end Synthetic

section Run

def overallStatus (gates : List CandidateValidationGate) : ValidationGateStatus :=
  let applicable := gates.filter fun gate => gate.status ≠ .notApplicable
  if applicable = [] then .notApplicable
  else if applicable.any fun gate => gate.status = .failed then .failed else .passed

def gateIsBlocking (gate : CandidateValidationGate) : Bool :=
  decide (gate.status = .failed ∧ gate.severity = .blocker)

def blocks (action : BlockAction) (gates : List CandidateValidationGate) : Bool :=
  gates.any fun gate => gateIsBlocking gate && decide (gate.blockAction = some action)

def candidateStatus (gates : List CandidateValidationGate) (rawUnchanged : Bool) :
    CandidateArtifactStatus :=
  if rawUnchanged = false ∨ gates.any gateIsBlocking = true then .validationFailed
  else if overallStatus gates = .failed then .reviewRequired
  else .ok

def buildReport (gates : List CandidateValidationGate) (rawUnchanged : Bool) :
    ValidationGatesReport where
  overallStatus := overallStatus gates
  candidateStatus := candidateStatus gates rawUnchanged
  rawArtifactUnchanged := rawUnchanged
  blockExport := blocks .blockExport gates || candidateStatus gates rawUnchanged = .validationFailed
  blockModelEvaluation := blocks .blockModelEvaluation gates
  blockTraining := blocks .blockTraining gates
  blockerPresent := gates.any gateIsBlocking
  blockerGateTypes := (gates.filter gateIsBlocking).map CandidateValidationGate.gateType
  gates := gates

def runValidationGates (pii : PiiPatterns) (storage : Storage)
    (request : RunValidationGatesRequest F) :
    Result ValidationGatesReport := do
  let (rows, columns) ← readCsv storage request.candidateArtifact.uri "candidate" "Candidate"
  let source := rawArtifactImmutabilityGate storage request.sourceArtifact
  let businessRules ← businessRulesGate request.businessRules rows
  let synthetic ← syntheticGates storage request rows
  pure (buildReport
    ([schemaGate request columns rows, businessRules, privacyGate pii request columns rows,
      splitLeakageGate request.splitLeakageReport] ++ synthetic ++ unavailableGates ++ [source.1])
    source.2)

theorem runValidationGates_eq_ok {pii : PiiPatterns} {storage : Storage}
    {request : RunValidationGatesRequest F} {report : ValidationGatesReport} :
    runValidationGates pii storage request = .ok report ↔
      ∃ rows columns businessRules synthetic,
        readCsv storage request.candidateArtifact.uri "candidate" "Candidate" =
          .ok (rows, columns) ∧
        businessRulesGate request.businessRules rows = .ok businessRules ∧
        syntheticGates storage request rows = .ok synthetic ∧
        report = buildReport
          ([schemaGate request columns rows, businessRules, privacyGate pii request columns rows] ++
            splitLeakageGate request.splitLeakageReport :: (synthetic ++ unavailableGates ++
              [(rawArtifactImmutabilityGate storage request.sourceArtifact).1]))
          (rawArtifactImmutabilityGate storage request.sourceArtifact).2 := by
  simp only [runValidationGates, bind_eq_ok, pure_eq, Except.ok.injEq, Prod.exists]
  constructor
  · rintro ⟨rows, columns, hread, businessRules, hrules, synthetic, hsynthetic, rfl⟩
    exact ⟨rows, columns, businessRules, synthetic, hread, hrules, hsynthetic, by simp⟩
  · rintro ⟨rows, columns, businessRules, synthetic, hread, hrules, hsynthetic, rfl⟩
    exact ⟨rows, columns, hread, businessRules, hrules, synthetic, hsynthetic, by simp⟩

end Run

end DataForge.Plugins.Validation.GatesRun
