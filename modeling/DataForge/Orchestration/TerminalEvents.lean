import DataForge.Kernel.ActionPlanApproval
import DataForge.Orchestration.ApplyRuns
import DataForge.Orchestration.ApplySource

namespace DataForge.Orchestration.TerminalEvents

open DataForge.Foundation.Outcome
open DataForge.Foundation.Runs
open DataForge.Domain.Common
open DataForge.Domain.Artifact
open DataForge.Domain.Compute
open DataForge.Orchestration.Cancellation
open DataForge.Kernel.ActionPlanApproval (imputePreview imputeApproval)
open DataForge.Orchestration.ApplySource (january)
open DataForge.Orchestration.StatusBridge
open DataForge.Orchestration.ApplyRuns
open DataForge.Orchestration.Workflows (ActionPlanExecuteApprovedRequest)

variable {σ : Type} {p : Platform} {request : ActionPlanExecuteApprovedRequest}
  {assets : ApplyAssets σ} {s : RunState σ}

section Order

/-- An asset is materialized only after all that it depends on. -/
def Ordered (s : RunState σ) : Prop :=
  ∀ a, s.settled a = some .materialized → ∀ d ∈ a.deps, s.settled d = some .materialized

theorem ordered_settle {a : ApplyAsset} {status : AssetStatus} (h : Ordered s)
    (hnone : s.settled a = none)
    (hstatus : status = .materialized → ∀ d ∈ a.deps, s.settled d = some .materialized) :
    Ordered (s.settle a status) := by
  have hkeep : ∀ d, s.settled d = some .materialized →
      (s.settle a status).settled d = some .materialized := by
    intro d hd
    have hne : d ≠ a := by
      rintro rfl
      rw [hnone] at hd
      cases hd
    rw [RunState.settled_settle_of_ne hne, hd]
  intro b hb d hd
  refine hkeep d ?_
  by_cases hba : b = a
  · subst hba
    rw [RunState.settled_settle_self] at hb
    exact hstatus (Option.some.inj hb) d hd
  · rw [RunState.settled_settle_of_ne hba] at hb
    exact h b hb d hd

/-- The export package comes last. -/
theorem success_of_exported (h : Ordered s)
    (hexport : s.settled .exportPackage = some .materialized) : s.Success := by
  have hmodel := h _ hexport .modelImpactReport (by decide)
  have hsynthetic := h _ hmodel .syntheticDataset (by decide)
  have hprepared := h _ hsynthetic .preparedDataset (by decide)
  have hremediation := h _ hprepared .remediationExecutionReport (by decide)
  have hplan := h _ hremediation .actionPlan (by decide)
  intro a _
  cases a <;> assumption

end Order

section Invariant

/-- The status of a run that returned no result. -/
def Ended (status : ComputeRunStatus) : Prop := status = .cancelled ∨ status = .failed

/-- What the events of a run look like while no cancellation follows its completion. -/
structure Sound (s : RunState σ) : Prop where
  ordered : Ordered s
  unstarted : s.phase = .start ∨ s.phase = .admitted → s.settled .exportPackage ≠ some .materialized
  quiet : s.phase ≠ .raised → s.settled .exportPackage ≠ some .materialized → Quiet s.events
  completed : s.phase ≠ .raised → s.settled .exportPackage = some .materialized →
    EndsWith (· = .completed) s.events
  raised : s.phase = .raised → Quiet s.events ∨ EndsWith Ended s.events

theorem sound_initial (token : CancellationToken) (store : σ) : Sound (initial token store) where
  ordered := fun a h => by cases h
  unstarted := fun _ h => by cases h
  quiet := fun _ _ e he => absurd he List.not_mem_nil
  completed := fun _ h => by cases h
  raised := fun h => by cases h

/-- A launcher that gives up on a run without a completed event. -/
theorem sound_raise (h : Sound s) (hphase : s.phase ≠ .raised)
    (hexport : s.settled .exportPackage ≠ some .materialized) {e : JobEvent} (he : Ended e.status) :
    Sound (s.record e .raised) where
  ordered := h.ordered
  unstarted := fun hstart => by cases hstart <;> contradiction
  quiet := fun hne => absurd rfl hne
  completed := fun hne => absurd rfl hne
  raised := fun _ => .inr ⟨s.events, e, rfl, h.quiet hphase hexport, he⟩

/-- A change of phase alone. -/
theorem sound_phase (h : Sound s) (hphase : s.phase ≠ .raised) {phase : Phase}
    (hne : phase ≠ .raised)
    (hstart : phase = .start ∨ phase = .admitted → s.phase = .start ∨ s.phase = .admitted) :
    Sound { s with phase := phase } where
  ordered := h.ordered
  unstarted := fun hphase' => h.unstarted (hstart hphase')
  quiet := fun _ => h.quiet hphase
  completed := fun _ => h.completed hphase
  raised := fun hraised => absurd hraised hne

/-- The look at the token that cancels a run whose assets are all materialized. -/
def CancelsCompleted (s : RunState σ) : Prop :=
  s.phase = .materializing ∧ s.Success ∧ s.token.cancelled = true

theorem sound_launch (h : Sound s) (hcancels : ¬ CancelsCompleted s) :
    Sound (launch request s) := by
  rw [launch]
  split
  · next hphase =>
    have hraised : s.phase ≠ .raised := by simp [hphase]
    have hexport := h.unstarted (.inl hphase)
    split
    · exact
        { ordered := h.ordered
          unstarted := fun hstart => by cases hstart <;> contradiction
          quiet := fun hne => absurd rfl hne
          completed := fun hne => absurd rfl hne
          raised := fun _ => .inl (h.quiet hraised hexport) }
    · split
      · exact sound_raise h hraised hexport (.inl rfl)
      · exact sound_phase h hraised (by decide) fun _ => .inl hphase
  · next hphase =>
    have hraised : s.phase ≠ .raised := by simp [hphase]
    have hexport := h.unstarted (.inr hphase)
    exact
      { ordered := h.ordered
        unstarted := fun _ => hexport
        quiet := fun _ _ => quiet_concat (h.quiet hraised hexport) id
        completed := fun _ hexported => absurd hexported hexport
        raised := fun hraised' => by cases hraised' }
  · next hphase =>
    have hraised : s.phase ≠ .raised := by simp [hphase]
    split
    · exact h
    · split
      · next hcancelled =>
        refine sound_raise h hraised (fun hexport => hcancels ?_) (.inl rfl)
        exact ⟨hphase, success_of_exported h.ordered hexport, hcancelled⟩
      · exact sound_phase h hraised (by decide) (by rintro (h | h) <;> cases h)
  · next hphase =>
    have hraised : s.phase ≠ .raised := by simp [hphase]
    split
    · exact sound_phase h hraised (by decide) (by rintro (h | h) <;> cases h)
    · next hfailure =>
      exact sound_raise h hraised (fun hexport => hfailure (success_of_exported h.ordered hexport))
        (.inr rfl)
  · exact h
  · exact h

/-- An asset that settles without being materialized. -/
theorem sound_unmaterialized (h : Sound s) {a : ApplyAsset} (henabled : s.Enabled a)
    {status : AssetStatus} (hstatus : status ≠ .materialized) (store : σ) :
    Sound { s.settle a status with store := store } := by
  obtain ⟨hphase, hnone, -⟩ := henabled
  have hexport : (s.settle a status).settled .exportPackage = some .materialized ↔
      s.settled .exportPackage = some .materialized := by
    by_cases ha : ApplyAsset.exportPackage = a
    · subst ha
      rw [RunState.settled_settle_self, hnone]
      simp [hstatus]
    · rw [RunState.settled_settle_of_ne ha]
  exact
    { ordered := ordered_settle h.ordered hnone fun hmaterialized => absurd hmaterialized hstatus
      unstarted := fun hstart hexported => h.unstarted hstart (hexport.mp hexported)
      quiet := fun hraised hexported => h.quiet hraised (mt hexport.mpr hexported)
      completed := fun hraised hexported => h.completed hraised (hexport.mp hexported)
      raised := h.raised }

theorem sound_materialized (h : Sound s) {a : ApplyAsset} (henabled : s.Enabled a)
    (hdeps : ∀ d ∈ a.deps, s.settled d = some .materialized) (jobId : NonEmptyStr)
    (refs : List ArtifactRef) (store : σ) :
    Sound { s.settle a .materialized with
      events := s.events ++ [emitAndResult jobId a refs], store := store } := by
  obtain ⟨hphase, hnone, -⟩ := henabled
  have hraised : s.phase ≠ .raised := by simp [hphase]
  have hstart : ¬ (s.phase = .start ∨ s.phase = .admitted) := by simp [hphase]
  -- An exported package would have the asset among the materialized ones.
  have hexport : s.settled .exportPackage ≠ some .materialized := by
    intro hexport
    have hsettled := success_of_exported h.ordered hexport a a.mem_all
    rw [hnone] at hsettled
    cases hsettled
  have hquiet := h.quiet hraised hexport
  refine
    { ordered := ordered_settle h.ordered hnone fun _ => hdeps
      unstarted := fun hphase' => absurd hphase' hstart
      quiet := fun _ hexported => quiet_concat hquiet ?_
      completed := fun _ hexported => ⟨s.events, _, rfl, hquiet, ?_⟩
      raised := fun hphase' => absurd hphase' hraised }
  · have ha : a ≠ .exportPackage := by
      rintro rfl
      have hself :
          (s.settle .exportPackage .materialized).settled .exportPackage = some .materialized :=
        RunState.settled_settle_self
      exact hexported hself
    rw [status_emitAndResult, if_neg ha]
    exact id
  · have ha : a = .exportPackage := by
      by_contra hne
      exact hexport ((RunState.settled_settle_of_ne (Ne.symm hne)).symm.trans hexported)
    rw [status_emitAndResult, if_pos ha]

theorem sound_settleAsset (h : Sound s) {a : ApplyAsset} (henabled : s.Enabled a) :
    Sound (settleAsset request assets a s) := by
  rw [settleAsset]
  split
  · next hdeps =>
    split
    · exact sound_unmaterialized h henabled (by decide) _
    · exact sound_materialized h henabled hdeps _ _ _
  · exact sound_unmaterialized h henabled (by decide) s.store

theorem sound_step {action : Action} (h : Sound s) (hcrash : ∀ e, action ≠ .crash e)
    (hcancels : action = .launch → ¬ CancelsCompleted s) :
    Sound (step p request assets s action) := by
  cases action with
  | trigger reasonCode => exact ⟨h.ordered, h.unstarted, h.quiet, h.completed, h.raised⟩
  | launch => exact sound_launch h (hcancels rfl)
  | settle a =>
    rw [step]
    split
    · next henabled => exact sound_settleAsset h henabled
    · exact h
  | crash e => exact absurd rfl (hcrash e)

end Invariant

section Contract

/-- What the platform relies on: one terminal event at most, as the last one, and no
promoted refs on a completed event where the run ended without a result. -/
structure TerminalContract (assets : ApplyAssets σ) (s : RunState σ) : Prop where
  oneTerminal : OneTerminal s.events
  unpublished : (∃ e, s.events.getLast? = some e ∧ Ended e.status) →
    ∀ e ∈ s.events, e.status =
      .completed → ∀ ref ∈ e.artifactRefs, ref ∉ assets.promotedRefs s.store

theorem terminalContract_of_sound (h : Sound s) : TerminalContract assets s := by
  have hcases : Quiet s.events ∨ EndsWith (· = .completed) s.events ∨ EndsWith Ended s.events := by
    by_cases hraised : s.phase = .raised
    · exact (h.raised hraised).imp_right .inr
    · by_cases hexport : s.settled .exportPackage = some .materialized
      · exact .inr (.inl (h.completed hraised hexport))
      · exact .inl (h.quiet hraised hexport)
  obtain hquiet | hcompleted | hended := hcases
  · refine ⟨oneTerminal_of_quiet hquiet, fun _ e he hstatus => ?_⟩
    exact absurd (hstatus ▸ trivial) (hquiet e he)
  · refine ⟨oneTerminal_of_endsWith hcompleted, ?_⟩
    rintro ⟨last, hlast, hended⟩
    have hmem := List.mem_of_getLast? hlast
    obtain hcancelled | hfailed := hended
    · have hstatus := status_of_endsWith hcompleted hmem (hcancelled ▸ trivial)
      rw [hcancelled] at hstatus
      cases hstatus
    · have hstatus := status_of_endsWith hcompleted hmem (hfailed ▸ trivial)
      rw [hfailed] at hstatus
      cases hstatus
  · refine ⟨oneTerminal_of_endsWith hended, fun _ e he hstatus => ?_⟩
    obtain hcancelled | hfailed := status_of_endsWith hended he (hstatus ▸ trivial)
    · rw [hstatus] at hcancelled
      cases hcancelled
    · rw [hstatus] at hfailed
      cases hfailed

end Contract

section Broken

/-- A materialized export package has recorded its completed event. -/
def Recorded (s : RunState σ) : Prop :=
  s.settled .exportPackage = some .materialized → ∃ e ∈ s.events, e.status = .completed

theorem recorded_of_events {t : RunState σ} (h : Recorded s) {more : List JobEvent}
    (hsettled :
      t.settled .exportPackage = some .materialized → s.settled .exportPackage = some .materialized)
    (hevents : t.events = s.events ++ more) : Recorded t := by
  intro hexport
  obtain ⟨e, he, hstatus⟩ := h (hsettled hexport)
  exact ⟨e, hevents ▸ List.mem_append_left more he, hstatus⟩

theorem launch_events (s : RunState σ) :
    (launch request s).settled = s.settled ∧ ∃ more, (launch request s).events =
      s.events ++ more := by
  have hsame : ∃ more, s.events = s.events ++ more := ⟨[], (List.append_nil s.events).symm⟩
  rw [launch]
  split
  · split
    · exact ⟨rfl, hsame⟩
    · split
      · exact ⟨rfl, _, rfl⟩
      · exact ⟨rfl, hsame⟩
  · exact ⟨rfl, _, rfl⟩
  · split
    · exact ⟨rfl, hsame⟩
    · split
      · exact ⟨rfl, _, rfl⟩
      · exact ⟨rfl, hsame⟩
  · split
    · exact ⟨rfl, hsame⟩
    · exact ⟨rfl, _, rfl⟩
  · exact ⟨rfl, hsame⟩
  · exact ⟨rfl, hsame⟩

theorem recorded_settleAsset (h : Recorded s) (a : ApplyAsset) :
    Recorded (settleAsset request assets a s) := by
  have hunmaterialized : ∀ {status : AssetStatus} (store : σ), status ≠ .materialized →
      Recorded { s.settle a status with store := store } := by
    intro status store hstatus hexport
    by_cases ha : ApplyAsset.exportPackage = a
    · subst ha
      have hself : (s.settle .exportPackage status).settled .exportPackage = some status :=
        RunState.settled_settle_self
      exact absurd (Option.some.inj (hself.symm.trans hexport)) hstatus
    · exact h ((RunState.settled_settle_of_ne ha).symm.trans hexport)
  rw [settleAsset]
  split
  · split
    · exact hunmaterialized _ (by decide)
    · next refs store _ =>
      intro hexport
      by_cases ha : a = .exportPackage
      · refine ⟨_, List.mem_append_right s.events List.mem_cons_self, ?_⟩
        rw [status_emitAndResult, if_pos ha]
      · obtain ⟨e, he, hstatus⟩ :=
          h ((RunState.settled_settle_of_ne (Ne.symm ha)).symm.trans hexport)
        exact ⟨e, List.mem_append_left _ he, hstatus⟩
  · exact hunmaterialized s.store (by decide)

theorem recorded_step (h : Recorded s) (action : Action) :
    Recorded (step p request assets s action) := by
  cases action with
  | trigger reasonCode => exact h
  | launch =>
    obtain ⟨hsettled, more, hevents⟩ := @launch_events _ request s
    exact recorded_of_events h (fun hexport => hsettled ▸ hexport) hevents
  | settle a =>
    rw [step]
    split
    · exact recorded_settleAsset h a
    · exact h
  | crash e =>
    rw [step]
    split
    · exact recorded_of_events h id rfl
    · exact h

/-- A launcher that has raised records nothing more. -/
theorem step_raised (h : s.phase = .raised) (action : Action) :
    (step p request assets s action).phase = .raised ∧
      (step p request assets s action).events = s.events := by
  cases action with
  | trigger reasonCode => exact ⟨h, rfl⟩
  | launch =>
    rw [step, launch, h]
    exact ⟨h, rfl⟩
  | settle a =>
    have henabled : ¬ s.Enabled a := by
      rintro ⟨hphase, -, -⟩
      rw [h] at hphase
      cases hphase
    rw [step, if_neg henabled]
    exact ⟨h, rfl⟩
  | crash e =>
    rw [step, if_neg (by simp [h])]
    exact ⟨h, rfl⟩

theorem launch_cancelsCompleted (h : CancelsCompleted s) :
    launch request s = s.record (emitCancelled request.platformJobId 50) .raised := by
  obtain ⟨hphase, hsuccess, hcancelled⟩ := h
  have hsettled : s.AllSettled := by
    intro a ha hnone
    have hsome := hsuccess a ha
    rw [hnone] at hsome
    cases hsome
  rw [launch, hphase]
  dsimp only
  rw [if_neg (not_not_intro hsettled), if_pos hcancelled]

end Broken

section Runs

variable (p request assets) in
/-- The run of a launcher under some actions. -/
abbrev reached (token : CancellationToken) (store : σ) (actions : List Action) : RunState σ :=
  after (perform p request assets) actions (initial token store)

variable {token : CancellationToken} {store : σ} {actions : List Action}

theorem recorded_reached (actions : List Action) :
    Recorded (reached p request assets token store actions) := by
  refine after_invariant _ (fun h => ?_) fun action _ s hs => recorded_step hs action
  cases h

/-- After a cancellation of a completed run two terminal events stay recorded. -/
theorem broken_of_cancelsCompleted {pre post : List Action}
    (h : CancelsCompleted (reached p request assets token store pre)) :
    ¬ TerminalContract assets (reached p request assets token store (pre ++ .launch :: post)) := by
  set s := reached p request assets token store pre with hs
  obtain ⟨e, he, hstatus⟩ := recorded_reached pre (h.2.1 .exportPackage (by decide))
  have hrun : reached p request assets token store (pre ++ .launch :: post) =
      after (perform p request assets) post (launch request s) := by
    rw [reached, after_append, after_cons]
    rfl
  have hended : (after (perform p request assets) post (launch request s)).phase = .raised ∧
      (after (perform p request assets) post (launch request s)).events =
        s.events ++ [emitCancelled request.platformJobId 50] := by
    rw [launch_cancelsCompleted h]
    refine @after_invariant _ _ _ _ (perform p request assets)
      (fun t => t.phase = .raised ∧ t.events = s.events ++ [emitCancelled request.platformJobId 50])
      post _ ⟨rfl, rfl⟩ fun action _ t ht => ?_
    obtain ⟨hphase, hevents⟩ := @step_raised _ p request assets t ht.1 action
    exact ⟨hphase, hevents.trans ht.2⟩
  rw [hrun]
  intro hcontract
  have hquiet := hcontract.oneTerminal.last
  rw [hended.2, List.dropLast_concat] at hquiet
  exact hquiet e he (hstatus ▸ trivial)

/-- Whatever the order of cancellations, assets and looks of the launcher: the events
keep their contract exactly as long as no look finds a cancellation when every asset is
already materialized. -/
theorem terminalContract_iff (hdagster : ∀ e, Action.crash e ∉ actions) :
    TerminalContract assets (reached p request assets token store actions) ↔
      ∀ pre post, actions = pre ++ .launch :: post →
        ¬ CancelsCompleted (reached p request assets token store pre) := by
  constructor
  · rintro hcontract pre post rfl hcancels
    exact broken_of_cancelsCompleted hcancels hcontract
  · intro hcancels
    apply terminalContract_of_sound
    refine after_invariant_along _ (sound_initial token store) fun pre action post heq hsound => ?_
    refine sound_step hsound ?_ ?_
    · rintro e rfl
      exact hdagster e (heq ▸ List.mem_append_right pre List.mem_cons_self)
    · rintro rfl
      exact hcancels pre post heq

end Runs

section Example

def applyRequest : ActionPlanExecuteApprovedRequest where
  platformJobId := literal "apply-job"
  organizationId := literal "organization"
  projectId := literal "project"
  datasetId := literal "dataset"
  sourceDatasetVersionId := imputePreview.sourceDatasetVersionId
  actionPlan := imputePreview
  approvalMetadata := some imputeApproval
  sourceArtifacts := []

/-- Assets of which none fails; the export package promotes a candidate. -/
def promotingAssets : ApplyAssets Unit where
  body _ := pure []
  finalCandidateRef _ := some january
  finalExportRef _ := none
  gatesReportRef _ := none

def materialization : List Action := [.launch, .launch] ++ ApplyAsset.all.map .settle

theorem cancelled_first_contract :
    TerminalContract promotingAssets
      (reached asciiPlatform applyRequest promotingAssets .fresh () [.trigger [], .launch]) := by
  have hdagster : ∀ e, Action.crash e ∉ [Action.trigger [], .launch] := by
    intro e
    simp
  refine (terminalContract_iff hdagster).mpr ?_
  rintro pre post heq ⟨hphase, -⟩
  obtain _ | ⟨first, pre⟩ := pre
  · cases hphase
  · obtain ⟨rfl, hrest⟩ := List.cons.inj heq
    obtain _ | ⟨second, pre⟩ := pre
    · cases hphase
    · obtain ⟨-, hnil⟩ := List.cons.inj hrest
      exact absurd hnil.symm (by simp)

/-- A cancellation after the last asset lets a CANCELLED event follow the COMPLETED one. -/
theorem cancelled_after_completion :
    ¬ ∀ (request : ActionPlanExecuteApprovedRequest) (assets : ApplyAssets Unit)
        (token : CancellationToken) (actions : List Action),
      request.approvalMetadata.isSome = true → (∀ e, Action.crash e ∉ actions) →
        TerminalContract assets (reached asciiPlatform request assets token () actions) := by
  intro h
  have hcancels : CancelsCompleted (reached asciiPlatform applyRequest promotingAssets .fresh ()
      (materialization ++ [.trigger []])) := by
    refine ⟨rfl, ?_, rfl⟩
    intro a _
    cases a <;> rfl
  have hdagster : ∀ e, Action.crash e ∉ materialization ++ [.trigger []] ++ [.launch] := by
    intro e
    simp [materialization, ApplyAsset.all]
  exact broken_of_cancelsCompleted hcancels (h applyRequest promotingAssets .fresh _ rfl hdagster)

end Example

end DataForge.Orchestration.TerminalEvents
