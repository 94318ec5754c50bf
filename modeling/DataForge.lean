import DataForge.Foundation.Backtracking
import DataForge.Foundation.Canonical
import DataForge.Foundation.Csv
import DataForge.Foundation.CsvReturns
import DataForge.Foundation.CsvRoundTrip
import DataForge.Foundation.DecimalText
import DataForge.Foundation.Dictionary
import DataForge.Foundation.Entropy
import DataForge.Foundation.ExtendedNumbers
import DataForge.Foundation.ExtendedText
import DataForge.Foundation.Failures
import DataForge.Foundation.Features
import DataForge.Foundation.Grouping
import DataForge.Foundation.Hmac
import DataForge.Foundation.Interpolation
import DataForge.Foundation.Json
import DataForge.Foundation.JsonReader
import DataForge.Foundation.JsonRoundTrip
import DataForge.Foundation.JsonSchema
import DataForge.Foundation.Lines
import DataForge.Foundation.Lists
import DataForge.Foundation.Noninterference
import DataForge.Foundation.Numbers
import DataForge.Foundation.OrderedScores
import DataForge.Foundation.Outcome
import DataForge.Foundation.PosixPath
import DataForge.Foundation.Reals
import DataForge.Foundation.Rounding
import DataForge.Foundation.Runs
import DataForge.Foundation.Scores
import DataForge.Foundation.Selection
import DataForge.Foundation.Sha256
import DataForge.Foundation.Strings
import DataForge.Foundation.Substitution
import DataForge.Foundation.Tables
import DataForge.Foundation.Triples
import DataForge.Domain.Artifact
import DataForge.Domain.CandidateVersion
import DataForge.Domain.Common
import DataForge.Domain.Decision
import DataForge.Domain.Evidence
import DataForge.Domain.ImpactEligibility
import DataForge.Domain.ModelError
import DataForge.Domain.Profile
import DataForge.Domain.Report
import DataForge.Domain.Splits
import DataForge.Domain.TextOcr
import DataForge.Domain.ValidationGates
import DataForge.Ingestion.ArchiveReader
import DataForge.Ingestion.ArchiveSafety
import DataForge.Ingestion.BuildableLines
import DataForge.Ingestion.JsonlContract
import DataForge.Ingestion.ManifestArtifact
import DataForge.Ingestion.ManifestBuilder
import DataForge.Ingestion.ManifestIds
import DataForge.Ingestion.ManifestRows
import DataForge.Ingestion.ManifestTotals
import DataForge.Ingestion.ManifestValidation
import DataForge.Ingestion.Predictions
import DataForge.Ingestion.TabularRows
import DataForge.Ingestion.TransactionRows
import DataForge.Ingestion.ValidationAudit
import DataForge.Kernel.ActionCounts
import DataForge.Kernel.ActionPlanApproval
import DataForge.Kernel.ActionPlanPreview
import DataForge.Kernel.AnalysisPreview
import DataForge.Kernel.CandidateVersion
import DataForge.Kernel.DatasetScore
import DataForge.Kernel.DecisionReport
import DataForge.Kernel.DisabledGates
import DataForge.Kernel.ExportPackage
import DataForge.Kernel.ExportReadiness
import DataForge.Kernel.GateDominance
import DataForge.Kernel.Idempotency
import DataForge.Kernel.IdempotencyKeys
import DataForge.Kernel.ImpactTraining
import DataForge.Kernel.MethodSelection
import DataForge.Kernel.ModelImpact
import DataForge.Kernel.ModelImpactEligibility
import DataForge.Kernel.PiiReview
import DataForge.Kernel.Policy
import DataForge.Kernel.PreviewFailures
import DataForge.Kernel.PrivacyGate
import DataForge.Kernel.ReviewActions
import DataForge.Kernel.Slugs
import DataForge.Kernel.UtilityGate
import DataForge.Kernel.VerdictOrder
import DataForge.Kernel.VersionCompare
import DataForge.Adapters.ArtifactKeys
import DataForge.Adapters.ArtifactRegistry
import DataForge.Adapters.FailedWrites
import DataForge.Adapters.ObjectStorage
import DataForge.Adapters.PlatformMetadata
import DataForge.Adapters.RegistryRuns
import DataForge.Adapters.RegistryStep
import DataForge.Adapters.ScopeIsolation
import DataForge.Plugins.Export.SplitFiles
import DataForge.Plugins.Export.TabularWriter
import DataForge.Plugins.Export.TextOcrWriter
import DataForge.Plugins.Export.TypedColumns
import DataForge.Plugins.ObjectAnalytics.DuplicateEvidence
import DataForge.Plugins.ObjectAnalytics.Evidence
import DataForge.Plugins.ObjectAnalytics.Passports
import DataForge.Plugins.ObjectAnalytics.RareEvidence
import DataForge.Plugins.ObjectAnalytics.TabularPassports
import DataForge.Plugins.Predictions.Agreement
import DataForge.Plugins.Predictions.Analyzer
import DataForge.Plugins.Predictions.SignalRanges
import DataForge.Plugins.Tabular.AugmentedManifest
import DataForge.Plugins.Tabular.CsvFiles
import DataForge.Plugins.Tabular.CsvReadBack
import DataForge.Plugins.Tabular.DuplicateChain
import DataForge.Plugins.Tabular.DuplicateCounts
import DataForge.Plugins.Tabular.DuplicateGroups
import DataForge.Plugins.Tabular.DuplicateSeverity
import DataForge.Plugins.Tabular.Duplicates
import DataForge.Plugins.Tabular.Imputation
import DataForge.Plugins.Tabular.ImputationSteps
import DataForge.Plugins.Tabular.ImputationTarget
import DataForge.Plugins.Tabular.ImputedCells
import DataForge.Plugins.Tabular.InterpolatedCells
import DataForge.Plugins.Tabular.LeakageChecks
import DataForge.Plugins.Tabular.LeakageExactness
import DataForge.Plugins.Tabular.MarkRemoveAgreement
import DataForge.Plugins.Tabular.MarkThenRemove
import DataForge.Plugins.Tabular.MedianExactness
import DataForge.Plugins.Tabular.ProfileDuplicates
import DataForge.Plugins.Tabular.ProfileInference
import DataForge.Plugins.Tabular.ProfileLabels
import DataForge.Plugins.Tabular.RemoveExactness
import DataForge.Plugins.Tabular.RuleFigures
import DataForge.Plugins.Tabular.Rules
import DataForge.Plugins.Tabular.SmoteBlindness
import DataForge.Plugins.Tabular.SmoteErrors
import DataForge.Plugins.Tabular.SmoteIds
import DataForge.Plugins.Tabular.SmoteLeakage
import DataForge.Plugins.Tabular.Sources
import DataForge.Plugins.Tabular.SplitConsumers
import DataForge.Plugins.Tabular.SplitCreation
import DataForge.Plugins.Tabular.SplitFidelity
import DataForge.Plugins.Tabular.SplitGroups
import DataForge.Plugins.Tabular.SplitTargets
import DataForge.Plugins.Tabular.Splits
import DataForge.Plugins.Tabular.SyntheticCommon
import DataForge.Plugins.Tabular.SyntheticGaussianCopula
import DataForge.Plugins.Tabular.SyntheticSmote
import DataForge.Plugins.TextOcr.CardSurvival
import DataForge.Plugins.TextOcr.JsonlWalkers
import DataForge.Plugins.TextOcr.Patterns
import DataForge.Plugins.TextOcr.PayloadErrors
import DataForge.Plugins.TextOcr.PhoneReading
import DataForge.Plugins.TextOcr.Pii
import DataForge.Plugins.TextOcr.RedactedJsonl
import DataForge.Plugins.TextOcr.RedactionAction
import DataForge.Plugins.TextOcr.TotalValidation
import DataForge.Plugins.TextOcr.Validator
import DataForge.Plugins.TextOcr.WalkedLines
import DataForge.Plugins.Validation.Gates
import DataForge.Plugins.Validation.GatesRun
import DataForge.Plugins.Validation.LeakageFlags
import DataForge.Plugins.Validation.SyntheticPrivacy
import DataForge.Reports.ReviewPriority
import DataForge.Reports.ReviewQueue
import DataForge.Orchestration.AcknowledgedCancel
import DataForge.Orchestration.AnalysisMode
import DataForge.Orchestration.AnalyzeOutputs
import DataForge.Orchestration.AnalyzeRuns
import DataForge.Orchestration.AnalyzeRuntime
import DataForge.Orchestration.ApplyRuns
import DataForge.Orchestration.ApplySource
import DataForge.Orchestration.Cancellation
import DataForge.Orchestration.CancellationTrace
import DataForge.Orchestration.Contexts
import DataForge.Orchestration.EligibleRuns
import DataForge.Orchestration.FailureCodes
import DataForge.Orchestration.FinalOutputs
import DataForge.Orchestration.ModelImpactStage
import DataForge.Orchestration.OverlappingRuns
import DataForge.Orchestration.PolledRuns
import DataForge.Orchestration.Remediation
import DataForge.Orchestration.RemediationRetry
import DataForge.Orchestration.RemediationSteps
import DataForge.Orchestration.SmoteRuns
import DataForge.Orchestration.StatusBridge
import DataForge.Orchestration.StepOrder
import DataForge.Orchestration.TerminalEvents
import DataForge.Orchestration.TokenObjects
import DataForge.Orchestration.Workflows
import DataForge.Api.ApplyAcceptance
import DataForge.Api.Handlers
import DataForge.Api.PlanRecords
import DataForge.Api.Security
import DataForge.Api.Store
import DataForge.Api.TenantIsolation
