import DataForge.Kernel.ActionPlanPreview
import DataForge.Orchestration.SmoteRuns

namespace DataForge.Orchestration.RemediationRetry

open DataForge.Foundation.Strings
open DataForge.Foundation.Outcome
open DataForge.Foundation.Tables
open DataForge.Domain.Common
open DataForge.Domain.Decision
open DataForge.Domain.Splits
open DataForge.Domain.Artifact
open DataForge.Domain.ValidationGates
open DataForge.Kernel.ActionPlanPreview
open DataForge.Kernel.ActionPlanExecution
open DataForge.Orchestration.ApplySource (applyRuntimeError)
open DataForge.Orchestration.Remediation
open DataForge.Orchestration.RemediationSteps
open DataForge.Orchestration.SmoteRuns (smotePlan zeroSurroundings transactions)
open DataForge.Plugins.Tabular.SyntheticSmote

variable {F : Type} {ex : Executors F} {plan : ActionPlan}

section Steps

/-- The executors that see nothing of the state but the current table. -/
def plainStep (ex : Executors F) (plan : ActionPlan) (step : ActionPlanStep) (t : Table) :
    Result Table :=
  if step.type.1 = imputeType then ex.impute plan step t
  else if step.type.1 ∈ duplicateTypes then ex.duplicates plan step t
  else .error (applyRuntimeError "unsupported_action_plan_step"
    "APPLY runtime does not support the selected ActionPlan step.")

theorem executeStep_plain {step : ActionPlanStep} (h : ¬ isSmoteStep step) (t : Table) :
    executeStep ex plan step t = Effect.lift (plainStep ex plan step t) := by
  rw [executeStep, plainStep, if_neg h]
  split
  · rfl
  · split <;> rfl

/-- The manifest that the first SMOTE step of a fresh run creates. -/
def firstManifest (ex : Executors F) (plan : ActionPlan) :
    List ActionPlanStep → Table → Option SplitManifest
  | [], _ => none
  | step :: steps, t =>
    if isSmoteStep step then (ex.createSplit plan t).toOption
    else match plainStep ex plan step t with
      | .ok candidate => firstManifest ex plan steps candidate
      | .error _ => none

theorem smoteOutcome_created (step : ActionPlanStep) (t : Table) :
    smoteOutcome ex plan step t (ex.createSplit plan t).toOption =
      smoteOutcome ex plan step t none := by
  have hcreated : manifestFor ex plan t (ex.createSplit plan t).toOption =
      manifestFor ex plan t none := by
    cases h : ex.createSplit plan t with
    | error e => rfl
    | ok manifest => exact h.symm
  rw [smoteOutcome, smoteOutcome, hcreated]

end Steps

section Resume

/-- A state that a run resumes from, beside the state of a fresh run at the same step:
they differ at most in the manifest that the fresh run is about to create, and in what
later steps write again. -/
structure Resumes (ex : Executors F) (plan : ActionPlan) (steps : List ActionPlanStep) (t : Table)
    (s fresh : ApplyExecutionState F) : Prop where
  source : s.sourceArtifact = fresh.sourceArtifact
  gates : s.validationGatesReport = fresh.validationGatesReport
  report : s.remediationReportArtifact = fresh.remediationReportArtifact
  primary : s.primaryCandidateArtifact = fresh.primaryCandidateArtifact ∨ steps ≠ []
  split : s.splitManifest = fresh.splitManifest ∨
    fresh.splitManifest = none ∧ s.splitManifest = firstManifest ex plan steps t
  synthetic : s.syntheticDatasetReport = fresh.syntheticDatasetReport ∨
    ∃ step ∈ steps, isSmoteStep step

theorem eq_of_resumes_nil {t : Table} {s fresh : ApplyExecutionState F}
    (h : Resumes ex plan [] t s fresh) : s = fresh := by
  obtain ⟨hsource, hgates, hreport, hprimary, hsplit, hsynthetic⟩ := h
  have hprimary' := hprimary.resolve_right (not_not_intro rfl)
  have hsynthetic' : s.syntheticDatasetReport = fresh.syntheticDatasetReport := by
    refine hsynthetic.resolve_right ?_
    rintro ⟨step, hstep, -⟩
    cases hstep
  have hsplit' : s.splitManifest = fresh.splitManifest := by
    obtain hsame | ⟨hnone, hfirst⟩ := hsplit
    · exact hsame
    · rw [hnone, hfirst, firstManifest]
  cases s
  cases fresh
  simp_all

theorem smoteOutcome_of_resumes {step : ActionPlanStep} (hsmote : isSmoteStep step)
    {steps : List ActionPlanStep} {t : Table} {s fresh : ApplyExecutionState F}
    (h : Resumes ex plan (step :: steps) t s fresh) :
    smoteOutcome ex plan step t s.splitManifest =
      smoteOutcome ex plan step t fresh.splitManifest := by
  obtain hsame | ⟨hnone, hfirst⟩ := h.split
  · rw [hsame]
  · rw [hnone, hfirst, firstManifest, if_pos hsmote, smoteOutcome_created]

/-- Resumed steps end as those of a fresh run do, and in the same state. -/
theorem executeSteps_of_resumes {steps : List ActionPlanStep} {t : Table}
    {s fresh : ApplyExecutionState F} (h : Resumes ex plan steps t s fresh) :
    ((executeSteps ex plan steps t).run s).1 = ((executeSteps ex plan steps t).run fresh).1 ∧
      ∀ candidate, ((executeSteps ex plan steps t).run fresh).1 = .ok candidate →
        ((executeSteps ex plan steps t).run s).2 =
          ((executeSteps ex plan steps t).run fresh).2 := by
  induction steps generalizing t s fresh with
  | nil =>
    rw [eq_of_resumes_nil h]
    exact ⟨rfl, fun _ _ => rfl⟩
  | cons step steps ih =>
    rw [executeSteps]
    by_cases hsmote : isSmoteStep step
    · have houtcome := smoteOutcome_of_resumes hsmote h
      rw [executeStep_smote hsmote]
      obtain ⟨e, split, herror, hrun⟩ | ⟨result, hok, hrun⟩ :=
        @executeSmoteStep_run _ ex plan step t s
      · obtain ⟨e', split', herror', hrun'⟩ | ⟨result', hok', -⟩ :=
          @executeSmoteStep_run _ ex plan step t fresh
        · rw [Effect.run_bind_error hrun, Effect.run_bind_error hrun']
          rw [houtcome, herror'] at herror
          exact ⟨congrArg Except.error (Except.error.inj herror).symm, fun _ hok => by cases hok⟩
        · rw [houtcome, hok'] at herror
          cases herror
      · obtain ⟨e', split', herror', -⟩ | ⟨result', hok', hrun'⟩ :=
          @executeSmoteStep_run _ ex plan step t fresh
        · rw [houtcome, herror'] at hok
          cases hok
        · rw [houtcome, hok'] at hok
          obtain rfl := Except.ok.inj hok
          rw [Effect.run_bind_ok hrun, Effect.run_bind_ok hrun']
          exact ih ⟨h.source, h.gates, h.report, .inl rfl, .inl rfl, .inl rfl⟩
    · rw [executeStep_plain hsmote]
      rw [Effect.run_bind_lift, Effect.run_bind_lift]
      have hfirst : firstManifest ex plan (step :: steps) t = match plainStep ex plan step t with
          | .ok candidate => firstManifest ex plan steps candidate
          | .error _ => none := by
        rw [firstManifest, if_neg hsmote]
      have hsynthetic : s.syntheticDatasetReport = fresh.syntheticDatasetReport ∨
          ∃ step ∈ steps, isSmoteStep step := by
        refine h.synthetic.imp_right ?_
        rintro ⟨other, hother, hsmote'⟩
        obtain rfl | hmem := List.mem_cons.mp hother
        · exact absurd hsmote' hsmote
        · exact ⟨other, hmem, hsmote'⟩
      cases hplain : plainStep ex plan step t with
      | error e => exact ⟨rfl, fun _ hok => by cases hok⟩
      | ok candidate =>
        have hsplit := h.split
        rw [hfirst, hplain] at hsplit
        exact ih ⟨h.source, h.gates, h.report, .inl rfl, hsplit, hsynthetic⟩

end Resume

section FailedRun

/-- What steps leave alone, whether they succeed or not. -/
structure Framed (steps : List ActionPlanStep) (s s' : ApplyExecutionState F) : Prop where
  source : s'.sourceArtifact = s.sourceArtifact
  gates : s'.validationGatesReport = s.validationGatesReport
  report : s'.remediationReportArtifact = s.remediationReportArtifact
  synthetic : s'.syntheticDatasetReport = s.syntheticDatasetReport ∨
    s'.syntheticDatasetReport ≠ none ∧ ∃ step ∈ steps, isSmoteStep step

theorem framed_executeStep {step : ActionPlanStep} {t : Table} {s s' : ApplyExecutionState F}
    {outcome : Result Table} (h : (executeStep ex plan step t).run s = (outcome, s')) :
    Framed [step] s s' := by
  by_cases hsmote : isSmoteStep step
  · rw [executeStep_smote hsmote] at h
    obtain ⟨e, split, -, hrun⟩ | ⟨result, -, hrun⟩ := @executeSmoteStep_run _ ex plan step t s
    · obtain ⟨-, rfl⟩ := Prod.mk.inj (hrun.symm.trans h)
      exact ⟨rfl, rfl, rfl, .inl rfl⟩
    · obtain ⟨-, rfl⟩ := Prod.mk.inj (hrun.symm.trans h)
      exact ⟨rfl, rfl, rfl, .inr ⟨Option.some_ne_none _, step, List.mem_cons_self, hsmote⟩⟩
  · rw [executeStep_plain hsmote, Effect.run_lift] at h
    obtain ⟨-, rfl⟩ := Prod.mk.inj h
    exact ⟨rfl, rfl, rfl, .inl rfl⟩

theorem framed_executeSteps {steps : List ActionPlanStep} {t : Table} {s s' : ApplyExecutionState F}
    {outcome : Result Table} (h : (executeSteps ex plan steps t).run s = (outcome, s')) :
    Framed steps s s' := by
  induction steps generalizing t s with
  | nil =>
    obtain ⟨-, rfl⟩ := Prod.mk.inj h
    exact ⟨rfl, rfl, rfl, .inl rfl⟩
  | cons step steps ih =>
    have hone : ∀ {u : ApplyExecutionState F}, Framed [step] s u → Framed (step :: steps) s u := by
      intro u hu
      refine ⟨hu.source, hu.gates, hu.report, hu.synthetic.imp_right ?_⟩
      rintro ⟨hreport, other, hother, hsmote⟩
      rw [List.mem_singleton] at hother
      exact ⟨hreport, other, hother ▸ List.mem_cons_self, hsmote⟩
    obtain ⟨e, hstep, -⟩ | ⟨candidate, u, hstep, h⟩ := Effect.run_bind_cases h
    · exact hone (framed_executeStep hstep)
    · have hhead := hone (framed_executeStep hstep)
      rw [Effect.run_bind_ok (Effect.run_modify _ u)] at h
      have htail := ih h
      refine ⟨htail.source.trans hhead.source, htail.gates.trans hhead.gates,
        htail.report.trans hhead.report, ?_⟩
      obtain hsame | ⟨hreport, other, hother, hsmote⟩ := htail.synthetic
      · refine hhead.synthetic.imp hsame.trans (And.imp_left fun hreport => ?_)
        exact fun hnone => hreport (hsame.symm.trans hnone)
      · exact .inr ⟨hreport, other, List.mem_cons_of_mem step hother, hsmote⟩

/-- Executors once the cause of failures is gone: what returned before returns the same. -/
structure Recovered (failing ex : Executors F) : Prop where
  source : failing.source = ex.source
  impute {plan step t candidate} : failing.impute plan step t = .ok candidate →
    ex.impute plan step t = .ok candidate
  duplicates {plan step t candidate} : failing.duplicates plan step t = .ok candidate →
    ex.duplicates plan step t = .ok candidate
  createSplit {plan t manifest} : failing.createSplit plan t = .ok manifest →
    ex.createSplit plan t = .ok manifest
  smote {plan step manifest t result} : failing.smote plan step manifest t = .ok result →
    ex.smote plan step manifest t = .ok result
  gates {plan source candidate split synthetic report} :
    failing.gates plan source candidate split synthetic = .ok report →
      ex.gates plan source candidate split synthetic = .ok report

theorem plainStep_of_recovered {failing : Executors F} (h : Recovered failing ex)
    {step : ActionPlanStep}
    {t candidate : Table} (hok : plainStep failing plan step t = .ok candidate) :
    plainStep ex plan step t = .ok candidate := by
  rw [plainStep] at hok ⊢
  split at hok
  · next himpute => rw [if_pos himpute, h.impute hok]
  · next himpute =>
    rw [if_neg himpute]
    split at hok
    · next hduplicates => rw [if_pos hduplicates, h.duplicates hok]
    · cases hok

theorem executeSmoteStep_error {step : ActionPlanStep} {t : Table} {s s' : ApplyExecutionState F}
    {e : Raised} (h : (executeSmoteStep ex plan step t).run s = (.error e, s'))
    (hnone : s.splitManifest = none) :
    s'.splitManifest = none ∨
      ∃ manifest, ex.createSplit plan t = .ok manifest ∧ s'.splitManifest = some manifest := by
  rw [executeSmoteStep] at h
  obtain ⟨e', -, hrun⟩ | ⟨manifest, hmanifest, hrun⟩ := @ensureSplitManifest_run _ ex plan t s
  · rw [Effect.run_bind_error hrun] at h
    obtain ⟨-, rfl⟩ := Prod.mk.inj h
    exact .inl hnone
  · rw [Effect.run_bind_ok hrun, Effect.run_bind_lift] at h
    rw [hnone, manifestFor] at hmanifest
    cases hsmote : ex.smote plan step manifest t with
    | error e'' =>
      rw [hsmote] at h
      obtain ⟨-, rfl⟩ := Prod.mk.inj h
      exact .inr ⟨manifest, hmanifest, rfl⟩
    | ok result =>
      rw [hsmote] at h
      cases (Prod.mk.inj h).1

/-- Steps of which none has augmented leave no manifest, or the one of a fresh run. -/
theorem splitManifest_of_executeSteps {failing : Executors F} (hrecovered : Recovered failing ex)
    {steps : List ActionPlanStep} {t : Table} {s s' : ApplyExecutionState F}
    {outcome : Result Table}
    (h : (executeSteps failing plan steps t).run s = (outcome, s')) (hnone : s.splitManifest = none)
    (hreport : s'.syntheticDatasetReport = none) :
    s'.splitManifest = none ∨ s'.splitManifest = firstManifest ex plan steps t := by
  induction steps generalizing t s with
  | nil =>
    obtain ⟨-, rfl⟩ := Prod.mk.inj h
    exact .inl hnone
  | cons step steps ih =>
    rw [firstManifest]
    by_cases hsmote : isSmoteStep step
    · rw [executeSteps, executeStep_smote hsmote] at h
      rw [if_pos hsmote]
      obtain ⟨e, hstep, -⟩ | ⟨candidate, u, hstep, h⟩ := Effect.run_bind_cases h
      · refine (executeSmoteStep_error hstep hnone).imp_right ?_
        rintro ⟨manifest, hcreated, hsome⟩
        rw [hsome, hrecovered.createSplit hcreated]
        rfl
      · rw [Effect.run_bind_ok (Effect.run_modify _ u)] at h
        obtain ⟨e, split, -, hrun⟩ | ⟨result, -, hrun⟩ :=
          @executeSmoteStep_run _ failing plan step t s
        · cases (Prod.mk.inj (hrun.symm.trans hstep)).1
        · obtain ⟨-, rfl⟩ := Prod.mk.inj (hrun.symm.trans hstep)
          obtain hsame | ⟨hkept, -⟩ := (framed_executeSteps h).synthetic
          · exact absurd (hsame.symm.trans hreport) (Option.some_ne_none result.report)
          · exact absurd hreport hkept
    · rw [executeSteps, executeStep_plain hsmote, Effect.run_bind_lift] at h
      rw [if_neg hsmote]
      cases hplain : plainStep failing plan step t with
      | error e =>
        rw [hplain] at h
        obtain ⟨-, rfl⟩ := Prod.mk.inj h
        exact .inl hnone
      | ok candidate =>
        rw [hplain] at h
        rw [plainStep_of_recovered hrecovered hplain]
        exact ih h hnone

theorem finishRemediation_error {s s' : ApplyExecutionState F} {e : Raised}
    (h : (finishRemediation ex plan).run s = (.error e, s')) : s' = s := by
  rw [finishRemediation, Effect.run_bind_ok (Effect.run_get s)] at h
  cases hprimary : s.primaryCandidateArtifact with
  | none =>
    rw [hprimary] at h
    exact (Prod.mk.inj h).2.symm
  | some candidate =>
    rw [hprimary] at h
    obtain ⟨e', hgates, -⟩ | ⟨report, u, -, h⟩ := Effect.run_bind_cases h
    · rw [runValidationGates, Effect.run_bind_ok (Effect.run_get s)] at hgates
      cases hreport : s.validationGatesReport with
      | some report =>
        rw [hreport] at hgates
        cases (Prod.mk.inj hgates).1
      | none =>
        rw [hreport, hprimary] at hgates
        cases hsource : s.sourceArtifact with
        | none =>
          rw [hsource] at hgates
          exact (Prod.mk.inj hgates).2.symm
        | some source =>
          rw [hsource] at hgates
          dsimp only at hgates
          rw [Effect.run_bind_lift] at hgates
          cases hrun : ex.gates plan source candidate s.splitManifest s.syntheticDatasetReport with
          | error e'' =>
            rw [hrun] at hgates
            exact (Prod.mk.inj hgates).2.symm
          | ok report =>
            rw [hrun] at hgates
            cases (Prod.mk.inj hgates).1
    · cases (Prod.mk.inj h).1

/-- The state of a fresh run that has read its source. -/
def sourced (source : Table) : ApplyExecutionState F := ⟨some source, none, none, none, none, none⟩

/-- A call on a state without a report reads the source and goes through the steps. -/
theorem executeRemediationPlan_run {source : Table} (hsource : ex.source = .ok source)
    {s : ApplyExecutionState F} (hreport : s.remediationReportArtifact = none)
    (hown : s.sourceArtifact = none ∨ s.sourceArtifact = some source) :
    (executeRemediationPlan ex plan).run s =
      (executeSteps ex plan plan.steps source >>= fun _ => finishRemediation ex plan).run
        { s with sourceArtifact := some source } := by
  have hresolve : (resolveSourceArtifact ex).run s =
      (.ok source, { s with sourceArtifact := some source }) := by
    rw [resolveSourceArtifact, Effect.run_bind_ok (Effect.run_get s)]
    obtain hnone | hsome := hown
    · rw [hnone, hsource]
      rfl
    · rw [hsome, Effect.run_pure, ← hsome]
  rw [executeRemediationPlan, Effect.run_bind_ok (Effect.run_get s), hreport]
  dsimp only
  rw [Effect.run_bind_ok hresolve, hreport]

/-- A call that failed on a fresh state left what its steps leave, where its source
could be read. -/
theorem executeSteps_of_failed {source : Table} (hsource : ex.source = .ok source) {e : Raised}
    {s : ApplyExecutionState F} (h : (executeRemediationPlan ex plan).run .fresh = (.error e, s)) :
    ∃ outcome, (executeSteps ex plan plan.steps source).run (sourced source) = (outcome, s) := by
  rw [executeRemediationPlan_run hsource rfl (.inl rfl)] at h
  obtain ⟨e', hsteps, -⟩ | ⟨candidate, u, hsteps, h⟩ := Effect.run_bind_cases h
  · exact ⟨.error e', hsteps⟩
  · exact ⟨.ok candidate, finishRemediation_error h ▸ hsteps⟩

end FailedRun

section Retry

/-- A call on a state that a failed call has left. -/
def retried (failing ex : Executors F) (plan : ActionPlan) :
    Result RemediationExecutionReport × ApplyExecutionState F :=
  (executeRemediationPlan ex plan).run ((executeRemediationPlan failing plan).run .fresh).2

def firstCall (ex : Executors F) (plan : ActionPlan) :
    Result RemediationExecutionReport × ApplyExecutionState F :=
  (executeRemediationPlan ex plan).run .fresh

/-- The two calls raise the same, or return the same report and leave the same state. -/
def SameOutcome (a b : Result RemediationExecutionReport × ApplyExecutionState F) : Prop :=
  a.1 = b.1 ∧ ∀ report, b.1 = .ok report → a.2 = b.2

/-- Steps and gates that resume end as those of a fresh run do. -/
theorem sameOutcome_of_resumes {source : Table} {s fresh : ApplyExecutionState F}
    (h : Resumes ex plan plan.steps source s fresh) :
    SameOutcome
      ((executeSteps ex plan plan.steps source >>= fun _ => finishRemediation ex plan).run s)
      ((executeSteps ex plan plan.steps source >>= fun _ => finishRemediation ex plan).run
        fresh) := by
  obtain ⟨hfst, hsnd⟩ := executeSteps_of_resumes h
  cases hfresh : (executeSteps ex plan plan.steps source).run fresh with
  | mk outcome u =>
    cases hretried : (executeSteps ex plan plan.steps source).run s with
    | mk outcome' u' =>
      rw [hfresh, hretried] at hfst hsnd
      obtain rfl : outcome' = outcome := hfst
      cases outcome' with
      | error e =>
        rw [Effect.run_bind_error hfresh, Effect.run_bind_error hretried]
        exact ⟨rfl, fun report hok => by cases hok⟩
      | ok candidate =>
        obtain rfl : u' = u := hsnd candidate rfl
        rw [Effect.run_bind_ok hfresh, Effect.run_bind_ok hretried]
        exact ⟨rfl, fun _ _ => rfl⟩

/-- A retry does what a first call does as long as no SMOTE step of the failed call has
completed: a completed one leaves its augmented manifest to the steps of the retry. -/
theorem retried_same {p : Platform} {request : ValidateActionPlanExecutionRequest}
    {hash : Sha256Digest}
    (haccepted : validateActionPlanExecution p request = .ok hash) {failing ex : Executors F}
    (hrecovered : Recovered failing ex) {source : Table} (hsource : ex.source = .ok source)
    {e : Raised} (hfailed : (firstCall failing request.actionPlan).1 = .error e)
    (hreport : (firstCall failing request.actionPlan).2.syntheticDatasetReport = none) :
    SameOutcome (retried failing ex request.actionPlan) (firstCall ex request.actionPlan) := by
  set plan := request.actionPlan
  have hne : plan.steps ≠ [] := (validateActionPlanExecution_eq_ok.mp haccepted).2.2.1
  rw [retried, firstCall]
  rw [firstCall] at hfailed hreport
  cases hrun : (executeRemediationPlan failing plan).run .fresh with
  | mk left s =>
    rw [hrun] at hfailed hreport
    obtain rfl : left = .error e := hfailed
    obtain ⟨outcome, hsteps⟩ := executeSteps_of_failed (hrecovered.source.trans hsource) hrun
    have hframed := framed_executeSteps hsteps
    have hsplit := splitManifest_of_executeSteps hrecovered hsteps rfl hreport
    have hresumes : Resumes ex plan plan.steps source s (sourced source) :=
      { source := hframed.source
        gates := hframed.gates
        report := hframed.report
        primary := .inr hne
        split := hsplit.imp_right fun hfirst => ⟨rfl, hfirst⟩
        synthetic := hframed.synthetic.imp_right And.right }
    have hsame : { s with sourceArtifact := some source } = s := by
      have hown : s.sourceArtifact = some source := hframed.source
      rw [← hown]
    rw [executeRemediationPlan_run hsource hframed.report (.inr hframed.source), hsame,
      executeRemediationPlan_run hsource rfl (.inl rfl)]
    exact sameOutcome_of_resumes hresumes

end Retry

section Example

open DataForge.Foundation.Features

def passedReport : ValidationGatesReport where
  overallStatus := .passed
  candidateStatus := .ok
  rawArtifactUnchanged := true
  blockExport := false
  blockModelEvaluation := false
  blockTraining := false
  blockerPresent := false
  blockerGateTypes := []
  gates := []

def transactionExecutors : Executors ℚ :=
  executors { zeroSurroundings with
    source := .ok (transactions "t0")
    gates := fun _ _ _ _ _ => .ok passedReport }

/-- No split can be created. -/
def splitFails : Executors ℚ :=
  { transactionExecutors with createSplit := fun _ _ => .error (.plain "OSError" "split") }

/-- The gates fail, after the SMOTE step. -/
def gatesFail : Executors ℚ :=
  { transactionExecutors with gates := fun _ _ _ _ _ => .error (.plain "OSError" "gates") }

theorem splitFails_recovered : Recovered splitFails transactionExecutors where
  source := rfl
  impute := id
  duplicates := id
  createSplit := fun h => by cases h
  smote := id
  gates := id

theorem gatesFail_recovered : Recovered gatesFail transactionExecutors where
  source := rfl
  impute := id
  duplicates := id
  createSplit := id
  smote := id
  gates := fun h => by cases h

theorem smotePlan_accepted :
    validateActionPlanExecution asciiPlatform ⟨smotePlan, literal "source", none⟩ =
      .ok (actionPlanIntegrityHash asciiPlatform smotePlan) := by
  have hstep : ∀ step ∈ smotePlan.steps, validateStep step = .ok () := by
    intro step hstep
    rw [smotePlan, List.mem_singleton] at hstep
    rw [hstep]
    exact validateStep_eq_ok.mpr ⟨rfl, rfl⟩
  exact validateActionPlanExecution_eq_ok.mpr
    ⟨rfl, rfl, List.cons_ne_nil _ _, forM_eq_ok.mpr hstep, guardOk_eq_ok.mpr rfl, rfl⟩

theorem retried_same_after_split :
    SameOutcome (retried splitFails transactionExecutors smotePlan)
      (firstCall transactionExecutors smotePlan) :=
  retried_same smotePlan_accepted splitFails_recovered rfl rfl rfl

/-- A retry after a completed SMOTE step raises where a first call returns its report. -/
theorem retry_fails_after_smote :
    ¬ ∀ (request : ValidateActionPlanExecutionRequest) (hash : Sha256Digest)
        (failing ex : Executors ℚ) (source : Table) (e : Raised),
      validateActionPlanExecution asciiPlatform request = .ok hash → Recovered failing ex →
      ex.source = .ok source → (firstCall failing request.actionPlan).1 = .error e →
        SameOutcome (retried failing ex request.actionPlan) (firstCall ex request.actionPlan) := by
  intro h
  have hfailed : (firstCall gatesFail smotePlan).1.isOk = false := by decide +kernel
  have hfirst : (firstCall transactionExecutors smotePlan).1.isOk = true := by decide +kernel
  have hretried : (retried gatesFail transactionExecutors smotePlan).1.isOk =
      false := by decide +kernel
  cases hraised : (firstCall gatesFail smotePlan).1 with
  | ok report =>
    rw [hraised] at hfailed
    cases hfailed
  | error e =>
    obtain ⟨hsame, -⟩ := h ⟨smotePlan, literal "source", none⟩ _ gatesFail transactionExecutors
      (transactions "t0") e smotePlan_accepted gatesFail_recovered rfl hraised
    rw [hsame, hfirst] at hretried
    cases hretried

end Example

end DataForge.Orchestration.RemediationRetry
