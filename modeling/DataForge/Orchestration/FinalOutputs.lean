import DataForge.Adapters.ArtifactRegistry
import DataForge.Foundation.Runs
import DataForge.Kernel.CandidateVersion
import DataForge.Kernel.ExportPackage
import DataForge.Orchestration.ModelImpactStage
import DataForge.Orchestration.SmoteRuns

namespace DataForge.Orchestration.FinalOutputs

open DataForge.Foundation.Strings
open DataForge.Foundation.Outcome
open DataForge.Foundation.Dictionary
open DataForge.Foundation.Features
open DataForge.Foundation.Runs
open DataForge.Foundation.Scores
open DataForge.Foundation.Tables
open DataForge.Foundation.Triples
open DataForge.Domain.Common
open DataForge.Domain.Artifact
open DataForge.Domain.CandidateVersion
open DataForge.Domain.Decision
open DataForge.Domain.ExportPackage
open DataForge.Domain.Splits
open DataForge.Domain.ValidationGates
open DataForge.Adapters.ArtifactRegistry
open DataForge.Kernel.CandidateVersion
open DataForge.Kernel.ExportPackage
open DataForge.Kernel.ModelImpact (Learner ModelImpactReport)
open DataForge.Orchestration.ApplySource (applyRuntimeError)
open DataForge.Orchestration.ModelImpactStage
open DataForge.Orchestration.Remediation (Executors)
open DataForge.Plugins.Tabular.LeakageChecks (indexAssignments)
open DataForge.Plugins.Tabular.Sources
open DataForge.Plugins.Tabular.SyntheticSmote (SmoteReport)
open DataForge.Plugins.Validation.Gates
open DataForge.Plugins.Validation.GatesRun

variable {F : Type}

/-- The part of a run's state that the final outputs write. -/
structure ApplyOutputs where
  candidateDatasetVersion : Option CandidateDatasetVersion
  candidateVersionArtifact : Option RegisteredArtifact
  datasetCardArtifact : Option RegisteredArtifact
  lineageArtifact : Option RegisteredArtifact
  tabularExportArtifacts : List ArtifactRef
  exportManifestArtifact : Option RegisteredArtifact
  exportPackage : Option ExportPackage
  exportPackageArtifact : Option RegisteredArtifact

def ApplyOutputs.fresh : ApplyOutputs := ⟨none, none, none, none, [], none, none, none⟩

structure ApplyState (F : Type) where
  inputs : ImpactState F
  outputs : ApplyOutputs

structure ApplyContext where
  datasetId : NonEmptyStr
  computeRunId : NonEmptyStr
  sourceDatasetVersionId : NonEmptyStr
  proposedVersionName : NonEmptyStr
  decisionReportId : NonEmptyStr
  configHash : Sha256Digest
  actionPlan : Option ActionPlan
  requireModelImpactEligibility : Bool

/-- The artifact that the registry keeps each part of a run under. -/
structure SavedArtifacts (F : Type) where
  table : Table → RegisteredArtifact
  stepOutputs : Remediation.ApplyExecutionState F → List RegisteredArtifact
  split : SplitManifest → RegisteredArtifact
  syntheticReport : SmoteReport F → RegisteredArtifact
  gatesReport : ValidationGatesReport → RegisteredArtifact
  modelImpactReport : ModelImpactReport F → RegisteredArtifact

/-- What the composition calls, each with what it is called on. -/
structure Stages (F : Type) where
  executors : Executors F
  fit : Learner F
  saved : SavedArtifacts F
  stableId : String → List Text → NonEmptyStr
  generatedAt : ActionPlan → Datetime
  saveCandidateVersion : CandidateDatasetVersion → Result RegisteredArtifact
  buildDatasetCardArtifact : ApplyState F → Result RegisteredArtifact
  buildLineageReport : ApplyState F → Result RegisteredArtifact
  /-- The files of a table, or of the part of it that is in one split. -/
  persistTable : Option DataSplit → Table → Result (List ArtifactRef)
  saveExportManifest : ApplyState F → Result RegisteredArtifact
  rowCount : Table → Result Nat
  saveExportPackage : ExportPackage → Result RegisteredArtifact

abbrev Run (F α : Type) := Effect Raised (ApplyState F) α

section Export

variable (stages : Stages F)

/-- The lines of a table whose ids a manifest puts in a split. -/
def splitTable (t : Table) (manifest : SplitManifest) (split : DataSplit) : Table where
  header := t.header
  lines := t.lines.filter fun line =>
    ((get? (t.value line objectIdColumn) (indexAssignments manifest)).map Prod.fst) = some split

/-- The splits in the order of their names. -/
def splitsByName : List DataSplit := [.holdout, .test, .train, .unknown, .validation]

def writePerSplit (t : Table) (manifest : SplitManifest) : Result (List ArtifactRef) := do
  let splits := splitsByName.filter fun split => (splitTable t manifest split).lines ≠ []
  let files ← splits.mapM fun split =>
      stages.persistTable (some split) (splitTable t manifest split)
  pure files.flatten

def writeTabularExport (t : Table) (manifest : Option SplitManifest) :
    Result (List ArtifactRef) := do
  guardOk (objectIdColumn ∈ t.header) (.reasoned "TabularExportWriterError"
    "object_id_column_missing_in_source" .actionPlanPreconditionFailed none
    "object_id column not found in candidate tabular source columns.")
  let files ← stages.persistTable none t
  match manifest with
  | none => pure files
  | some manifest => do
    let perSplit ← writePerSplit stages t manifest
    pure (files ++ (stages.saved.split manifest).artifactRef :: perSplit)

end Export

section Composition

variable (ctx : ApplyContext) (stages : Stages F)

/-- A stage that writes to the inputs alone. -/
def onInputs (m : ImpactRun F Unit) : Run F Unit := fun s =>
  ((m.run s.inputs).1, { s with inputs := (m.run s.inputs).2 })

def requirePlan : Result ActionPlan :=
  match ctx.actionPlan with
  | some plan => .ok plan
  | none => .error (applyRuntimeError "action_plan_missing"
      "APPLY requires the approved ActionPlan in ApplyRunContext.")

def gatesRef (inputs : ImpactState F) : Option ArtifactRef :=
  inputs.remediation.validationGatesReport.map fun report =>
    (stages.saved.gatesReport report).artifactRef

def modelImpactRef (inputs : ImpactState F) : Option ArtifactRef :=
  inputs.modelImpactReport.map fun report => (stages.saved.modelImpactReport report).artifactRef

def candidateArtifactRefs (inputs : ImpactState F) : List ArtifactRef :=
  uniqueByUri []
    ((stages.saved.stepOutputs inputs.remediation).map RegisteredArtifact.artifactRef ++
    (gatesRef stages inputs).toList ++ (modelImpactRef stages inputs).toList)

def extraExportArtifacts (state : ApplyState F) : List ArtifactRef :=
  uniqueByUri []
    ((state.outputs.candidateVersionArtifact.map RegisteredArtifact.artifactRef).toList ++
    (gatesRef stages state.inputs).toList ++ (modelImpactRef stages state.inputs).toList)

def candidateRequest (inputs : ImpactState F) (plan : ActionPlan) (primary : Table) :
    BuildCandidateVersionRequest where
  parentVersionId := ctx.sourceDatasetVersionId
  proposedVersionName := ctx.proposedVersionName
  actionPlan := plan
  createdByJobId := ctx.computeRunId
  configHash := ctx.configHash
  candidateArtifacts := candidateArtifactRefs stages inputs
  primaryDatasetArtifact := (stages.saved.table primary).artifactRef
  validationGatesReport := inputs.remediation.validationGatesReport
  validationGatesReportArtifact := gatesRef stages inputs
  syntheticGeneratedCount :=
    inputs.remediation.syntheticDatasetReport.map SmoteReport.generatedCount
  syntheticDatasetReportArtifact := inputs.remediation.syntheticDatasetReport.map fun report =>
    (stages.saved.syntheticReport report).artifactRef
  syntheticValidationReportArtifact :=
    if inputs.remediation.syntheticDatasetReport.isSome then gatesRef stages inputs else none
  candidateVersionId := stages.stableId "candidate_dataset_version"
    [plan.actionPlanId.1, ctx.proposedVersionName.1, ctx.configHash.1]
  proposedAt := stages.generatedAt plan

def buildCandidate (plan : ActionPlan) (primary : Table) : Run F CandidateDatasetVersion := do
  let state ← Effect.get
  let version ← Effect.lift
    (buildCandidateVersion (candidateRequest ctx stages state.inputs plan primary))
  let artifact ← Effect.lift (stages.saveCandidateVersion version)
  Effect.modify fun state => { state with outputs :=
    { state.outputs with
      candidateDatasetVersion := some version
      candidateVersionArtifact := some artifact } }
  pure version

/-- The dataset card and the lineage report. -/
def buildReports (primary : Table) : Run F (RegisteredArtifact × RegisteredArtifact) := do
  let state ← Effect.get
  let _ ← Effect.lift (stages.rowCount primary)
  let card ← Effect.lift (stages.buildDatasetCardArtifact state)
  Effect.modify fun state => { state with outputs :=
    { state.outputs with datasetCardArtifact := some card } }
  let state ← Effect.get
  let lineage ← Effect.lift (stages.buildLineageReport state)
  Effect.modify fun state => { state with outputs :=
    { state.outputs with lineageArtifact := some lineage } }
  pure (card, lineage)

/-- The tables of a blocked candidate are not written. -/
def exportTables (primary : Table) (version : CandidateDatasetVersion) :
    Run F (List ArtifactRef) := do
  if version.status = .blocked then pure []
  else do
    let state ← Effect.get
    let refs ← Effect.lift
        (writeTabularExport stages primary state.inputs.remediation.splitManifest)
    Effect.modify fun state => { state with outputs :=
      { state.outputs with tabularExportArtifacts := refs } }
    pure refs

def persistExportManifest : Run F RegisteredArtifact := do
  let state ← Effect.get
  match state.outputs.exportManifestArtifact with
  | some manifest => pure manifest
  | none => do
    let manifest ← Effect.lift (stages.saveExportManifest state)
    Effect.modify fun state => { state with outputs :=
      { state.outputs with exportManifestArtifact := some manifest } }
    pure manifest

def packageRequest (state : ApplyState F) (plan : ActionPlan)
    (version : CandidateDatasetVersion) (reports : RegisteredArtifact × RegisteredArtifact)
    (tabular : List ArtifactRef) (manifest : RegisteredArtifact) (rows : Nat) :
    BuildExportPackageRequest where
  datasetId := ctx.datasetId
  candidateDatasetVersion := version
  validationGatesReport := state.inputs.remediation.validationGatesReport
  modelImpactVerdict := state.inputs.modelImpactReport.map ModelImpactReport.verdict
  textOcrReport := none
  decisionReportId := ctx.decisionReportId
  exportManifestArtifact := manifest.artifactRef
  tabularArtifacts := tabular
  textArtifacts := []
  datasetCardArtifact := some reports.1.artifactRef
  lineageArtifact := some reports.2.artifactRef
  dataforgeReportArtifact := none
  reviewQueueArtifact := none
  extraArtifacts := extraExportArtifacts stages state
  includedObjectCount := rows
  blockedObjectCount := if version.blockExport then 1 else 0
  excludedObjectCount := 0
  requireModelImpactEligibility := ctx.requireModelImpactEligibility
  requireDatasetCard := true
  requireLineageArtifact := true
  createdByJobId := ctx.computeRunId
  configHash := ctx.configHash
  exportPackageId := stages.stableId "export_package"
    [version.candidateVersionId.1, ctx.configHash.1]
  createdAt := stages.generatedAt plan

def buildPackage (plan : ActionPlan) (primary : Table)
    (version : CandidateDatasetVersion) (reports : RegisteredArtifact × RegisteredArtifact)
    (tabular : List ArtifactRef) (manifest : RegisteredArtifact) : Run F RegisteredArtifact := do
  let state ← Effect.get
  let rows ← Effect.lift (stages.rowCount primary)
  let package := exportPackage
    (packageRequest ctx stages state plan version reports tabular manifest rows)
  let artifact ← Effect.lift (stages.saveExportPackage package)
  Effect.modify fun state => { state with outputs :=
    { state.outputs with
      exportPackage := some package
      exportPackageArtifact := some artifact } }
  pure artifact

def finishOutputs (plan : ActionPlan) (primary : Table) : Run F RegisteredArtifact := do
  let version ← buildCandidate ctx stages plan primary
  let reports ← buildReports stages primary
  let tabular ← exportTables stages primary version
  let manifest ← persistExportManifest stages
  buildPackage ctx stages plan primary version reports tabular manifest

end Composition

section Attempt

variable [FeatureLike F] (ctx : ApplyContext) (stages : Stages F)

def prepareInputs (plan : ActionPlan) : Run F Unit := do
  onInputs (ensureCandidate stages.executors plan)
  onInputs (ensureModelImpactReport stages.fit stages.executors plan
    ctx.requireModelImpactEligibility)

/-- Without a plan every stage raises the same error. -/
def buildFinalApplyOutputs : Run F RegisteredArtifact := do
  let state ← Effect.get
  match state.outputs.exportPackageArtifact with
  | some artifact => pure artifact
  | none => do
    let plan ← Effect.lift (requirePlan ctx)
    prepareInputs ctx stages plan
    let state ← Effect.get
    match state.inputs.remediation.sourceArtifact,
      state.inputs.remediation.primaryCandidateArtifact,
      state.inputs.remediation.validationGatesReport with
    | some _, some primary, some _ => finishOutputs ctx stages plan primary
    | _, _, _ => Effect.raise (applyRuntimeError "candidate_validation_outputs_missing"
        "APPLY cannot build final outputs without validation gates.")

end Attempt

section References

variable (state : ApplyState F)

def finalCandidateRef : Option RegisteredArtifact :=
  match state.outputs.candidateDatasetVersion, state.outputs.candidateVersionArtifact with
  | some version, some artifact =>
    if version.status = .blocked ∨ version.status = .failed then none else some artifact
  | _, _ => none

def finalExportRef : Option RegisteredArtifact :=
  match state.outputs.exportPackage, state.outputs.exportPackageArtifact with
  | some package, some artifact => if package.status = .ready then some artifact else none
  | _, _ => none

end References

section Withholding

/-- A package that withholds the dataset and names the export manifest alone. -/
structure BlockedPackage (manifest : Option RegisteredArtifact) (package : ExportPackage) :
    Prop where
  status : package.status = .blocked
  artifacts : ∃ m, manifest = some m ∧ package.artifacts = [m.artifactRef]
  included : package.objectCounts.included = 0

/-- Whatever has been written, nothing is published. -/
structure Withheld (outputs : ApplyOutputs) : Prop where
  candidate : ∀ version, outputs.candidateDatasetVersion = some version → version.status = .blocked
  package : ∀ package, outputs.exportPackage = some package →
    BlockedPackage outputs.exportManifestArtifact package
  complete : outputs.exportPackageArtifact ≠ none →
    outputs.candidateDatasetVersion ≠ none ∧ outputs.exportPackage ≠ none

theorem withheld_fresh : Withheld ApplyOutputs.fresh := by
  constructor
  · rintro version ⟨⟩
  · rintro package ⟨⟩
  · exact fun h => absurd rfl h

theorem finalRefs_of_withheld {state : ApplyState F} (h : Withheld state.outputs) :
    finalCandidateRef state = none ∧ finalExportRef state = none := by
  constructor
  · rw [finalCandidateRef]
    split
    · next version artifact hversion _ => exact if_pos (Or.inl (h.candidate version hversion))
    · rfl
  · rw [finalExportRef]
    split
    · next package artifact hpackage _ =>
      refine if_neg ?_
      rw [(h.package package hpackage).status]
      decide
    · rfl

/-- The gates report of the run fails its candidate. -/
def Failing (inputs : ImpactState F) : Prop :=
  ∃ report, inputs.remediation.validationGatesReport = some report ∧ FailsCandidate report

variable {ctx : ApplyContext} {stages : Stages F} {inputs : ImpactState F}

/-- The invariant of the composition: the inputs stay, and a failing report withholds. -/
def Closed (inputs : ImpactState F) (state : ApplyState F) : Prop :=
  state.inputs = inputs ∧ (Failing inputs → Withheld state.outputs)

/-- The invariant after the candidate version is there. -/
def HasVersion (inputs : ImpactState F) (version : CandidateDatasetVersion)
    (state : ApplyState F) : Prop :=
  state.inputs = inputs ∧ (Failing inputs → Withheld state.outputs ∧
    state.outputs.candidateDatasetVersion = some version ∧ version.blockExport = true)

theorem HasVersion.closed {version : CandidateDatasetVersion} {state : ApplyState F}
    (h : HasVersion inputs version state) : Closed inputs state :=
  ⟨h.1, fun hfailing => (h.2 hfailing).1⟩

theorem triple_buildCandidate (plan : ActionPlan) (primary : Table) :
    Triple (Closed inputs) (buildCandidate ctx stages plan primary) (HasVersion inputs)
      (Closed inputs) := by
  refine triple_get_bind fun state hstate => ?_
  have hclosed : ∀ s, s = state → Closed inputs s := by
    rintro s rfl
    exact hstate
  obtain ⟨rfl, hwithheld⟩ := hstate
  refine triple_bind (triple_lift hclosed) fun version => ?_
  refine triple_bind (triple_lift fun s hs => hclosed s hs.2) fun artifact => ?_
  refine triple_bind (triple_modify (Q := fun _ => HasVersion state.inputs version) ?_) fun _ =>
    triple_pure fun s hs => hs
  rintro s ⟨-, hversion, rfl⟩
  refine ⟨rfl, fun hfailing => ?_⟩
  obtain ⟨report, hreport, hfails⟩ := hfailing
  obtain ⟨hblocked, hexport⟩ := blocked_of_failsCandidate hreport hfails hversion
  have hold := hwithheld ⟨report, hreport, hfails⟩
  refine ⟨⟨?_, hold.package, fun hpackage => ⟨Option.some_ne_none _, (hold.complete hpackage).2⟩⟩,
    rfl, hexport⟩
  rintro other hother
  obtain rfl := Option.some.inj hother
  exact hblocked

variable {version : CandidateDatasetVersion}

/-- A change of the outputs that no reference depends on. -/
theorem HasVersion.modify {f : ApplyOutputs → ApplyOutputs} {state : ApplyState F}
    (hwithheld : ∀ outputs, Withheld outputs → Withheld (f outputs))
    (hversion : ∀ outputs, (f outputs).candidateDatasetVersion = outputs.candidateDatasetVersion)
    (h : HasVersion inputs version state) :
    HasVersion inputs version { state with outputs := f state.outputs } := by
  refine ⟨h.1, fun hfailing => ?_⟩
  obtain ⟨hold, hsome, hexport⟩ := h.2 hfailing
  exact ⟨hwithheld _ hold, (hversion state.outputs).trans hsome, hexport⟩

theorem triple_buildReports (primary : Table) :
    Triple (HasVersion inputs version) (buildReports stages primary)
      (fun _ => HasVersion inputs version) (Closed inputs) := by
  refine triple_get_bind fun state hstate => ?_
  have hclosed : ∀ s, s = state → Closed inputs s := by
    rintro s rfl
    exact hstate.closed
  refine triple_bind (triple_lift hclosed) fun _ => ?_
  refine triple_bind (triple_lift fun s hs => hclosed s hs.2) fun card => ?_
  refine triple_bind (triple_modify (Q := fun _ => HasVersion inputs version) ?_) fun _ => ?_
  · rintro s ⟨-, -, rfl⟩
    exact hstate.modify (f := fun outputs => { outputs with datasetCardArtifact := some card })
      (fun _ h => ⟨h.candidate, h.package, h.complete⟩) fun _ => rfl
  refine triple_get_bind fun state hstate => ?_
  refine triple_bind (triple_lift ?_) fun lineage => ?_
  · rintro s rfl
    exact hstate.closed
  refine triple_bind (triple_modify (Q := fun _ => HasVersion inputs version) ?_) fun _ =>
    triple_pure fun s hs => hs
  rintro s ⟨-, rfl⟩
  exact hstate.modify (f := fun outputs => { outputs with lineageArtifact := some lineage })
    (fun _ h => ⟨h.candidate, h.package, h.complete⟩) fun _ => rfl

theorem triple_exportTables (primary : Table) :
    Triple (HasVersion inputs version) (exportTables stages primary version)
    (fun _ => HasVersion inputs version) (Closed inputs) := by
  rw [exportTables]
  split
  · exact triple_pure fun s hs => hs
  refine triple_get_bind fun state hstate => ?_
  refine triple_bind (triple_lift ?_) fun refs => ?_
  · rintro s rfl
    exact hstate.closed
  refine triple_bind (triple_modify (Q := fun _ => HasVersion inputs version) ?_) fun _ =>
    triple_pure fun s hs => hs
  rintro s ⟨-, rfl⟩
  exact hstate.modify (f := fun outputs => { outputs with tabularExportArtifacts := refs })
    (fun _ h => ⟨h.candidate, h.package, h.complete⟩) fun _ => rfl

/-- The invariant with the manifest that the package will name. -/
def HasManifest (inputs : ImpactState F) (version : CandidateDatasetVersion)
    (manifest : RegisteredArtifact) (state : ApplyState F) : Prop :=
  HasVersion inputs version state ∧ state.outputs.exportManifestArtifact = some manifest

theorem triple_persistExportManifest :
    Triple (HasVersion inputs version) (persistExportManifest stages)
      (HasManifest inputs version) (Closed inputs) := by
  refine triple_get_bind fun state hstate => ?_
  cases hmanifest : state.outputs.exportManifestArtifact with
  | some manifest =>
    refine triple_pure ?_
    rintro s rfl
    exact ⟨hstate, hmanifest⟩
  | none =>
    refine triple_bind (triple_lift ?_) fun manifest => ?_
    · rintro s rfl
      exact hstate.closed
    refine triple_bind
      (triple_modify (Q := fun _ => HasManifest inputs version manifest) ?_) fun _ =>
      triple_pure fun s hs => hs
    rintro s ⟨-, rfl⟩
    refine ⟨⟨hstate.1, fun hfailing => ?_⟩, rfl⟩
    obtain ⟨hold, hsome, hexport⟩ := hstate.2 hfailing
    refine ⟨⟨hold.candidate, fun package hpackage => ?_, hold.complete⟩, hsome, hexport⟩
    -- a package that is there names a manifest
    obtain ⟨m, hm, -⟩ := (hold.package package hpackage).artifacts
    rw [hmanifest] at hm
    cases hm

/-- The object that the composition counts as blocked blocks the package. -/
theorem blockedPackage_of_blockExport {state : ApplyState F} {plan : ActionPlan}
    {reports : RegisteredArtifact × RegisteredArtifact} {tabular : List ArtifactRef}
    {manifest : RegisteredArtifact} {rows : Nat} (h : version.blockExport = true) :
    BlockedPackage (some manifest) (exportPackage
      (packageRequest ctx stages state plan version reports tabular manifest rows)) := by
  have hcount : (packageRequest ctx stages state plan version reports tabular manifest
      rows).blockedObjectCount = 1 := if_pos h
  have hgate : blockedObjectsGate 1 ∈ exportGates
      (packageRequest ctx stages state plan version reports tabular manifest rows) := by
    rw [exportGates, hcount]
    simp
  obtain ⟨hstatus, hartifacts, hincluded⟩ := blocked_of_failed hgate rfl
    (List.mem_singleton_self "blocked_objects_present".toList) (by decide)
  exact ⟨hstatus, ⟨manifest, rfl, hartifacts⟩, hincluded⟩

theorem triple_buildPackage (plan : ActionPlan) (primary : Table)
    (reports : RegisteredArtifact × RegisteredArtifact) (tabular : List ArtifactRef)
    (manifest : RegisteredArtifact) :
    Triple (HasManifest inputs version manifest)
      (buildPackage ctx stages plan primary version reports tabular manifest)
      (fun _ s => Closed inputs s ∧ s.outputs.exportPackageArtifact ≠ none) (Closed inputs) := by
  refine triple_get_bind fun state hstate => ?_
  obtain ⟨hversion, hmanifest⟩ := hstate
  have hclosed : ∀ s, s = state → Closed inputs s := by
    rintro s rfl
    exact hversion.closed
  refine triple_bind (triple_lift hclosed) fun rows => ?_
  refine triple_bind (triple_lift fun s hs => hclosed s hs.2) fun artifact => ?_
  refine triple_bind (triple_modify (Q := fun _ s => Closed inputs s ∧
    s.outputs.exportPackageArtifact ≠ none) ?_) fun _ => triple_pure fun s hs => hs
  rintro s ⟨-, -, rfl⟩
  refine ⟨⟨hversion.1, fun hfailing => ?_⟩, Option.some_ne_none _⟩
  obtain ⟨hold, hsome, hexport⟩ := hversion.2 hfailing
  refine ⟨hold.candidate, fun package hpackage => ?_, fun _ => ⟨?_, Option.some_ne_none _⟩⟩
  · obtain rfl := Option.some.inj hpackage
    rw [hmanifest]
    exact blockedPackage_of_blockExport hexport
  · rw [hsome]
    exact Option.some_ne_none _

theorem triple_finishOutputs (plan : ActionPlan) (primary : Table) :
    Triple (Closed inputs) (finishOutputs ctx stages plan primary)
      (fun _ s => Closed inputs s ∧ s.outputs.exportPackageArtifact ≠ none) (Closed inputs) := by
  refine triple_bind (triple_buildCandidate plan primary) fun version => ?_
  refine triple_bind (triple_buildReports primary) fun reports => ?_
  refine triple_bind (triple_exportTables primary) fun tabular => ?_
  refine triple_bind triple_persistExportManifest fun manifest => ?_
  exact triple_buildPackage plan primary reports tabular manifest

end Withholding

section Attempts

/-- Where the gates report, if there is one, fails its candidate, nothing is published. -/
def Guarded (state : ApplyState F) : Prop :=
  (∀ report, state.inputs.remediation.validationGatesReport = some report → FailsCandidate report) →
    Withheld state.outputs

/-- From one state to a later one the outputs stay, and a gates report that is there. -/
def Prepared (state later : ApplyState F) : Prop :=
  later.outputs = state.outputs ∧ ∀ report,
    state.inputs.remediation.validationGatesReport = some report →
      later.inputs.remediation.validationGatesReport = some report

theorem guarded_of_prepared {state later : ApplyState F} (h : Guarded state)
    (hprepared : Prepared state later) : Guarded later := by
  intro hfails
  rw [hprepared.1]
  exact h fun report hreport => hfails report (hprepared.2 report hreport)

theorem preserves_onInputs {m : ImpactRun F Unit} {state : ApplyState F}
    (hkeeps : ∀ report, Preserves (fun s : ImpactState F => Reported report s.remediation) m) :
    Preserves (Prepared state) (onInputs m) := by
  intro s hs
  have hnext : Prepared state { s with inputs := (m.run s.inputs).2 } :=
    ⟨hs.1, fun report hreport => (hkeeps report).keeps (hs.2 report hreport)⟩
  constructor
  · rintro _ t hrun
    obtain ⟨-, rfl⟩ := Prod.mk.inj hrun
    exact hnext
  · rintro e t hrun
    obtain ⟨-, rfl⟩ := Prod.mk.inj hrun
    exact hnext

variable [FeatureLike F] {ctx : ApplyContext} {stages : Stages F}

theorem preserves_prepareInputs (plan : ActionPlan) (state : ApplyState F) :
    Preserves (Prepared state) (prepareInputs ctx stages plan) := by
  refine preserves_bind (preserves_onInputs fun report => preserves_ensureCandidate) fun _ => ?_
  exact preserves_onInputs fun report => preserves_ensureModelImpactReport

/-- One attempt keeps the invariant, and writes the package if it returns. -/
theorem triple_buildFinalApplyOutputs : Triple Guarded (buildFinalApplyOutputs ctx stages)
    (fun _ s => Guarded s ∧ s.outputs.exportPackageArtifact ≠ none) Guarded := by
  refine triple_get_bind fun state hguarded => ?_
  have hstate : ∀ s, s = state → Guarded s := by
    rintro s rfl
    exact hguarded
  cases hpackage : state.outputs.exportPackageArtifact with
  | some artifact =>
    refine triple_pure ?_
    rintro s rfl
    exact ⟨hguarded, by simp [hpackage]⟩
  | none =>
    refine triple_bind (triple_lift hstate) fun plan => ?_
    have hprepare : Triple (fun s => requirePlan ctx = .ok plan ∧ s = state)
        (prepareInputs ctx stages plan) (fun _ => Prepared state) Guarded := by
      refine ((preserves_prepareInputs plan state).pre ?_).post (fun _ s hs => hs)
        fun s hs => guarded_of_prepared hguarded hs
      rintro s ⟨-, rfl⟩
      exact ⟨rfl, fun _ h => h⟩
    refine triple_bind hprepare fun _ => triple_get_bind fun later hlater => ?_
    have hguarded := guarded_of_prepared hguarded hlater
    split
    · next _ primary report _ _ hreport =>
      have hclosed : ∀ s, Closed later.inputs s → Guarded s := by
        rintro s ⟨hinputs, hwithheld⟩ hfails
        exact hwithheld ⟨report, hreport, hfails report (hinputs ▸ hreport)⟩
      refine ((triple_finishOutputs plan primary).pre ?_).post
        (fun _ s hs => ⟨hclosed s hs.1, hs.2⟩) hclosed
      rintro s rfl
      refine ⟨rfl, fun ⟨found, hfound, hfails⟩ => hguarded fun other hother => ?_⟩
      obtain rfl := Option.some.inj (hfound.symm.trans hother)
      exact hfails
    · refine triple_raise ?_
      rintro s rfl
      exact hguarded

/-- The invariant holds after any attempts, each with its own stages. -/
theorem guarded_after {attempts : List (Stages F)} {start : ApplyState F}
    (hstart : start.outputs = .fresh) :
    Guarded (after (buildFinalApplyOutputs ctx) attempts start) := by
  have hfresh : Guarded start := fun _ => hstart ▸ withheld_fresh
  refine after_invariant _ hfresh fun stages _ s hs => ?_
  exact (triple_buildFinalApplyOutputs.post (fun _ s hs => hs.1) fun _ hs => hs).keeps hs

/-- The candidate and its package are there, and both are blocked. -/
def BlockedOutputs (outputs : ApplyOutputs) : Prop :=
  (∃ version, outputs.candidateDatasetVersion = some version ∧ version.status = .blocked) ∧
    ∃ package, outputs.exportPackage = some package ∧
      BlockedPackage outputs.exportManifestArtifact package

theorem blockedOutputs_of_withheld {outputs : ApplyOutputs} (h : Withheld outputs)
    (hpackage : outputs.exportPackageArtifact ≠ none) : BlockedOutputs outputs := by
  obtain ⟨hversion, hexport⟩ := h.complete hpackage
  obtain ⟨version, hversion⟩ := Option.ne_none_iff_exists'.mp hversion
  obtain ⟨package, hexport⟩ := Option.ne_none_iff_exists'.mp hexport
  exact ⟨⟨version, hversion, h.candidate version hversion⟩, package, hexport,
    h.package package hexport⟩

/-- A blocking gate or a changed source fails the report, and whatever the other inputs
of an attempt are, a run with that report publishes nothing. -/
theorem publication_fails_closed {G : Type} [MetricLike G] {pii : PiiPatterns} {storage : Storage}
    {request : RunValidationGatesRequest G} {report : ValidationGatesReport}
    (hgates : runValidationGates pii storage request = .ok report)
    (hfailed : (∃ gate ∈ report.gates, gate.status = .failed ∧ gate.severity = .blocker) ∨
      SourceChanged storage request.sourceArtifact)
    {attempts : List (Stages F)} {start state : ApplyState F} {result : Result RegisteredArtifact}
    (hstart : start.outputs = .fresh)
    (hrun : (buildFinalApplyOutputs ctx stages).run
      (after (buildFinalApplyOutputs ctx) attempts start) =
      (result, state))
    (hreport : state.inputs.remediation.validationGatesReport = some report) :
    (report.candidateStatus = .validationFailed ∧ report.blockExport = true) ∧
      (finalCandidateRef state = none ∧ finalExportRef state = none) ∧
      ∀ artifact, result = .ok artifact → BlockedOutputs state.outputs := by
  have hfails := failsCandidate_of_failed hgates hfailed
  have hguarded : Guarded (after (buildFinalApplyOutputs ctx) attempts start) :=
    guarded_after hstart
  have hwithheld : Guarded state → Withheld state.outputs := by
    refine fun h => h fun found hfound => ?_
    obtain rfl := Option.some.inj (hreport.symm.trans hfound)
    exact hfails
  have htriple : Triple Guarded (buildFinalApplyOutputs ctx stages)
      (fun _ s => Guarded s ∧ s.outputs.exportPackageArtifact ≠ none) Guarded :=
    triple_buildFinalApplyOutputs
  obtain ⟨hok, herror⟩ := htriple _ hguarded
  refine ⟨hfails, finalRefs_of_withheld ?_, ?_⟩
  · cases result with
    | ok artifact => exact hwithheld (hok artifact state hrun).1
    | error e => exact hwithheld (herror e state hrun)
  · rintro artifact rfl
    obtain ⟨hguard, hpackage⟩ := hok artifact state hrun
    exact blockedOutputs_of_withheld (hwithheld hguard) hpackage

end Attempts

section Example

def notReached : Raised := .plain "KeyError" "stage"

def candidateFile : ArtifactRef where
  artifactId := literal "candidate"
  kind := literal "candidate_tabular_dataset"
  uri := ⟨"s3://b/candidate.csv".toList, by decide⟩
  hash := zeroDigest
  mediaType := literal "text/csv"
  sizeBytes := 0
  schemaVersion := literal "tabular_dataset.v1"
  lineage := ⟨literal "v0", literal "job", zeroDigest, ⟨0, none⟩⟩

def sourceFile : ArtifactRef :=
  { candidateFile with
    artifactId := literal "raw"
    kind := literal "raw_transactions"
    uri := ⟨"s3://b/raw.csv".toList, by decide⟩ }

def registered (ref : ArtifactRef) : RegisteredArtifact where
  artifactRef := ref
  artifactKind := ref.kind
  uri := ref.uri
  hash := ref.hash
  format := literal "csv"
  schemaVersion := ref.schemaVersion
  createdByJobId := literal "job"

def labelled : Table where
  header := ["object_id".toList, "label".toList]
  lines := [["a".toList, "0".toList]]

/-- The candidate is there and the source is gone. -/
def withoutSource : Storage := fun uri =>
  if uri = candidateFile.uri then some ⟨.empty, .ok labelled⟩ else none

def plainRequest : RunValidationGatesRequest ℚ where
  candidateArtifact := candidateFile
  sourceArtifact := sourceFile
  schemaColumns := []
  numericColumns := []
  businessRules := []
  piiRestricted := false
  splitLeakageReport := none
  syntheticFeatureColumns := none
  dcrThresholds := ⟨0, 0⟩

def savingStages : Stages ℚ where
  executors := ⟨.error notReached, fun _ _ _ => .error notReached, fun _ _ _ => .error notReached,
    fun _ _ => .error notReached, fun _ _ _ _ => .error notReached, fun _ _ _ _ _ =>
      .error notReached⟩
  fit _ _ _ := .error notReached
  saved := ⟨fun _ => registered candidateFile, fun _ => [], fun _ => registered candidateFile,
    fun _ => registered candidateFile, fun _ => registered candidateFile,
    fun _ => registered candidateFile⟩
  stableId prefix_ _ := literal "id"
  generatedAt plan := plan.createdAt
  saveCandidateVersion _ := .ok (registered candidateFile)
  buildDatasetCardArtifact _ := .ok (registered candidateFile)
  buildLineageReport _ := .ok (registered candidateFile)
  persistTable _ _ := .ok []
  saveExportManifest _ := .ok (registered candidateFile)
  rowCount t := .ok t.records.length
  saveExportPackage _ := .ok (registered candidateFile)

def smoteContext : ApplyContext where
  datasetId := literal "dataset"
  computeRunId := literal "job"
  sourceDatasetVersionId := literal "v0"
  proposedVersionName := literal "v1"
  decisionReportId := literal "report"
  configHash := zeroDigest
  actionPlan := some SmoteRuns.smotePlan
  requireModelImpactEligibility := false

/-- A run after its gates. -/
def gatedState (report : ValidationGatesReport) : ApplyState ℚ where
  inputs :=
    { remediation :=
        { sourceArtifact := some labelled
          primaryCandidateArtifact := some labelled
          splitManifest := none
          syntheticDatasetReport := none
          validationGatesReport := some report
          remediationReportArtifact := none }
      modelImpactReport := none }
  outputs := .fresh

theorem publication_fails_closed_source_gone : ∃ report result state,
    runValidationGates (fun _ => false) withoutSource plainRequest = .ok report ∧
      (buildFinalApplyOutputs smoteContext savingStages).run (gatedState report) = (result, state) ∧
      result = .ok (registered candidateFile) ∧
      (finalCandidateRef state = none ∧ finalExportRef state = none) ∧
        BlockedOutputs state.outputs := by
  have hgates : ∃ report, runValidationGates (fun _ => false) withoutSource plainRequest =
      .ok report ∧
      ((buildFinalApplyOutputs smoteContext savingStages).run (gatedState report)).1 =
          .ok (registered candidateFile) ∧
        ((buildFinalApplyOutputs smoteContext savingStages).run
          (gatedState report)).2.inputs.remediation.validationGatesReport = some report :=
    ⟨_, rfl, rfl, rfl⟩
  obtain ⟨report, hgates, hok, hreport⟩ := hgates
  have hchanged : SourceChanged withoutSource plainRequest.sourceArtifact := by
    intro stored hstored
    rw [withoutSource, if_neg (by decide)] at hstored
    cases hstored
  have hrun : (buildFinalApplyOutputs smoteContext savingStages).run
      (after (buildFinalApplyOutputs smoteContext) [] (gatedState report)) = (_, _) := rfl
  obtain ⟨-, hrefs, hblocked⟩ := publication_fails_closed hgates (.inr hchanged) rfl hrun hreport
  exact ⟨report, _, _, hgates, rfl, hok, hrefs, hblocked _ hok⟩

end Example

end DataForge.Orchestration.FinalOutputs
