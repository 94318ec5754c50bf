import DataForge.Domain.Artifact
import DataForge.Domain.ValidationGates
import DataForge.Foundation.Canonical
import DataForge.Plugins.Tabular.Rules
import DataForge.Plugins.Tabular.Sources

namespace DataForge.Plugins.Validation.Gates

open DataForge.Foundation.Strings
open DataForge.Foundation.Outcome
open DataForge.Foundation.Canonical
open DataForge.Foundation.Numbers
open DataForge.Foundation.Scores
open DataForge.Foundation.Sha256
open DataForge.Foundation.Tables
open DataForge.Domain.Common
open DataForge.Domain.Artifact
open DataForge.Domain.Leakage
open DataForge.Domain.ValidationGates
open DataForge.Plugins.Tabular.Rules
open DataForge.Plugins.Tabular.Sources

def gatesError (reasonCode : String) (code : ErrorCode) (message : String) : Raised :=
  .reasoned "ValidationGatesError" reasonCode code none message

section Inputs

/-- What a read of the storage finds under a uri. -/
abbrev Storage := S3Uri → Option StoredFile

structure DcrThresholds (F : Type) where
  nearestNeighborEpsilon : F
  minimumDcrThreshold : F

structure RunValidationGatesRequest (F : Type) [ScoreLike F] where
  candidateArtifact : ArtifactRef
  sourceArtifact : ArtifactRef
  schemaColumns : List NonEmptyStr
  numericColumns : List NonEmptyStr
  businessRules : List (BusinessRule F)
  piiRestricted : Bool
  splitLeakageReport : Option (SplitLeakageReport F)
  /-- The feature columns of the synthetic dataset report. -/
  syntheticFeatureColumns : Option (List NonEmptyStr)
  dcrThresholds : DcrThresholds F

/-- Which text a pattern for personal data is found in. -/
abbrev PiiPatterns := Text → Bool

def readCsv (storage : Storage) (uri : S3Uri) (role title : String) :
    Result (List IdentifiedRow × List Text) :=
  match storage uri with
  | none => .error (gatesError (role ++ "_artifact_unreadable") .validationGateFailed
      ("Could not read " ++ role ++ " artifact from object storage."))
  | some stored => do
    let t ← stored.table
    guardOk (t.columns ≠ []) (gatesError ("empty_" ++ role ++ "_csv") .invalidJobPayload
      (title ++ " CSV has no header columns."))
    pure (identifiedRows t.records, t.columns)

def isSyntheticColumn : Text := "is_synthetic".toList

def isSynthetic (row : IdentifiedRow) : Bool := decide (cell isSyntheticColumn row.1 = "1".toList)

end Inputs

section Gates

def passed (gateType : ValidationGateType) (reasonCode : NonEmptyStr) : CandidateValidationGate :=
  ⟨gateType, .passed, .info, reasonCode, none, 0, none⟩

def notApplicable (gateType : ValidationGateType) (reasonCode : NonEmptyStr) (reason : Text) :
    CandidateValidationGate :=
  ⟨gateType, .notApplicable, .info, reasonCode, none, 0, some reason⟩

def warned (gateType : ValidationGateType) (reasonCode : NonEmptyStr) (findingsCount : Nat) :
    CandidateValidationGate :=
  ⟨gateType, .failed, .warning, reasonCode, none, findingsCount, none⟩

def blocked (gateType : ValidationGateType) (reasonCode : NonEmptyStr) (blockAction : BlockAction)
    (findingsCount : Nat) : CandidateValidationGate :=
  ⟨gateType, .failed, .blocker, reasonCode, some blockAction, findingsCount, none⟩

variable {F : Type} [MetricLike F]

def schemaGate (request : RunValidationGatesRequest F) (columns : List Text)
    (rows : List IdentifiedRow) : CandidateValidationGate :=
  let missing :=
    sortedSet ((request.schemaColumns.map Subtype.val).filter fun column => column ∉ columns)
  let numeric := (request.numericColumns.map Subtype.val).filter fun column => column ∈ columns
  let findings := (numeric.map fun column => rows.countP fun row =>
    cell column row.1 ≠ [] ∧ (MetricLike.parse (F := F) (cell column row.1)).isNone).sum
  if missing ≠ [] then
    blocked .schemaValidation (literal "schema_columns_missing") .blockExport missing.length
  else if findings ≠ 0 then
    warned .schemaValidation (literal "non_numeric_values_in_numeric_columns") findings
  else passed .schemaValidation (literal "schema_match")

def businessRulesGate (rules : List (BusinessRule F)) (rows : List IdentifiedRow) :
    Result CandidateValidationGate :=
  if rules = [] then
    .ok (notApplicable .businessRules (literal "no_business_rules_configured")
      "no business rules supplied for this candidate".toList)
  else do
    let report ← evaluateRules rules (rows.map fun row => (row.1, some (cell objectIdColumn row.1)))
    let findings := (report.rules.map BusinessRuleSummary.violationCount).sum
    if findings = 0 then pure (passed .businessRules (literal "business_rules_passed"))
    else if report.blockerCandidateRuleIds ≠ [] then
      pure (blocked .businessRules (literal "business_rule_failure") .blockExport findings)
    else pure (warned .businessRules (literal "business_rule_warning") findings)

def privacyGate (pii : PiiPatterns) (request : RunValidationGatesRequest F) (columns : List Text)
    (rows : List IdentifiedRow) : CandidateValidationGate :=
  let scanned := columns.filter fun column => column ∉ request.numericColumns.map Subtype.val
  let findings := (rows.map fun row => scanned.countP fun column =>
    cell column row.1 ≠ [] ∧ pii (cell column row.1) = true).sum
  if findings = 0 then passed .privacyCheck (literal "no_pii_detected")
  else if request.piiRestricted then
    blocked .privacyCheck (literal "pii_in_restricted_candidate") .blockExport findings
  else warned .privacyCheck (literal "pii_detected") findings

/-- One gate for all leakage checks, with one block action. -/
def splitLeakageGate : Option (SplitLeakageReport F) → CandidateValidationGate
  | none => notApplicable .splitLeakageCheck (literal "split_leakage_report_not_provided")
      "candidate is not a split-aware artifact".toList
  | some report =>
    let findings := (report.checks.map LeakageCheckResult.findingsCount).sum
    if report.leakageDetected = false then passed .splitLeakageCheck (literal "no_split_leakage")
    else if report.blockTraining then
      blocked .splitLeakageCheck (literal "split_leakage_detected") .blockTraining findings
    else if report.blockModelEvaluation then
      blocked .splitLeakageCheck (literal "split_leakage_detected") .blockModelEvaluation findings
    else warned .splitLeakageCheck (literal "split_leakage_detected") findings

/-- A source that cannot be read again counts as changed. -/
def rawArtifactImmutabilityGate (storage : Storage) (source : ArtifactRef) :
    CandidateValidationGate × Bool :=
  match storage source.uri with
  | none => (blocked .rawArtifactImmutability (literal "source_artifact_unreadable")
    .blockExport 1, false)
  | some stored =>
    if sha256 stored.data ≠ source.hash.1 then
      (blocked .rawArtifactImmutability (literal "raw_artifact_mutated") .blockExport 1, false)
    else (passed .rawArtifactImmutability (literal "raw_artifact_unchanged"), true)

end Gates

end DataForge.Plugins.Validation.Gates
