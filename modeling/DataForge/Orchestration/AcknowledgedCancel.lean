import DataForge.Orchestration.AnalyzeRuns
import DataForge.Orchestration.PolledRuns
import DataForge.Orchestration.TerminalEvents

namespace DataForge.Orchestration.AcknowledgedCancel

open DataForge.Foundation.Strings
open DataForge.Foundation.Outcome
open DataForge.Foundation.Runs
open DataForge.Domain.Common
open DataForge.Domain.Artifact
open DataForge.Domain.Compute
open DataForge.Orchestration.Cancellation
open DataForge.Orchestration.StatusBridge
open DataForge.Orchestration.ApplyRuns (ApplyAsset ApplyAssets AssetStatus)
open DataForge.Orchestration.AnalyzeRuns (AnalyzeAsset AnalyzeAssets RunMove)
open DataForge.Orchestration.PolledRuns
open DataForge.Orchestration.Workflows (AnalyzeDatasetRequest ActionPlanExecuteApprovedRequest)

variable {σ : Type} {p : Platform}

theorem uncompleted_concat {events : List JobEvent} {e : JobEvent} (he : e.status ≠ .completed)
    (h : ∀ e ∈ events, e.status ≠ .completed) : ∀ e' ∈ events ++ [e], e'.status ≠ .completed := by
  intro found hfound
  obtain hold | hnew := List.mem_append.mp hfound
  · exact h found hold
  · rwa [List.mem_singleton.mp hnew]

section Analyze

variable {request : AnalyzeDatasetRequest} {assets : AnalyzeAssets σ} {s : AnalyzeRuns.RunState σ}

def analyzeLauncher (p : Platform) (request : AnalyzeDatasetRequest) (assets : AnalyzeAssets σ) :
    Launcher (AnalyzeRuns.RunState σ) (RunMove AnalyzeAsset) where
  act token move run := AnalyzeRuns.step p request assets token run move
  events := AnalyzeRuns.RunState.events
  finished run := decide (run.phase = .returned ∨ run.phase = .raised)

/-- Unless the launcher has seen its last look and only the completion is left. -/
def AnalyzeLooksAhead (request : AnalyzeDatasetRequest) (s : AnalyzeRuns.RunState σ) : Prop :=
  ¬ (s.phase = .checked ∧ s.Success request)

theorem analyzeLooksAhead_of_phase (h : s.phase ≠ .checked) : AnalyzeLooksAhead request s :=
  fun hchecked => h hchecked.1

theorem analyze_launch_heeds {token : CancellationToken} (htoken : token.cancelled = true)
    (h : AnalyzeLooksAhead request s) :
    AnalyzeLooksAhead request (AnalyzeRuns.launch request assets token s) ∧
      (Uncompleted (analyzeLauncher p request assets) s →
        Uncompleted (analyzeLauncher p request assets)
          (AnalyzeRuns.launch request assets token s)) := by
  rw [AnalyzeRuns.launch]
  split
  · rw [if_pos htoken]
    exact ⟨analyzeLooksAhead_of_phase nofun, uncompleted_concat nofun⟩
  · split
    · exact ⟨h, id⟩
    · exact ⟨analyzeLooksAhead_of_phase nofun, uncompleted_concat nofun⟩
  · next hphase =>
    rw [if_neg fun hsuccess => h ⟨hphase, hsuccess⟩]
    exact ⟨analyzeLooksAhead_of_phase nofun, uncompleted_concat nofun⟩
  · exact ⟨h, id⟩
  · exact ⟨h, id⟩

theorem analyze_settle_heeds {a : AnalyzeAsset} (hphase : s.phase = .materializing) :
    AnalyzeLooksAhead request (AnalyzeRuns.settleAsset request assets a s) ∧
      (Uncompleted (analyzeLauncher p request assets) s →
        Uncompleted (analyzeLauncher p request assets)
          (AnalyzeRuns.settleAsset request assets a s)) := by
  have hunchecked : s.phase ≠ .checked := by simp [hphase]
  rw [AnalyzeRuns.settleAsset]
  split
  · split
    · exact ⟨analyzeLooksAhead_of_phase hunchecked, id⟩
    · exact ⟨analyzeLooksAhead_of_phase hunchecked, uncompleted_concat nofun⟩
  · exact ⟨analyzeLooksAhead_of_phase hunchecked, id⟩

/-- A launcher that is done does nothing more. -/
theorem analyze_done (hdone : s.phase = .returned ∨ s.phase = .raised) (token : CancellationToken)
    (move : RunMove AnalyzeAsset) : AnalyzeRuns.step p request assets token s move = s := by
  have hphase : s.phase ≠ .materializing := by
    rintro hphase
    rw [hphase] at hdone
    obtain h | h := hdone <;> cases h
  cases move with
  | launch =>
    rw [AnalyzeRuns.step, AnalyzeRuns.launch]
    obtain h | h := hdone <;> rw [h]
  | settle a => rw [AnalyzeRuns.step, if_neg fun henabled => hphase henabled.1]
  | crash e => rw [AnalyzeRuns.step, if_neg hphase]

theorem analyze_crash (token : CancellationToken) (e : Raised) :
    (analyzeLauncher p request assets).act token (.crash e) s =
      if s.phase = .materializing then
        s.record (emitFailed request.platformJobId 0
          (classifyFailure p (Workflows.Raised.text e))) .raised
      else s := rfl

theorem analyze_heeds : Heeds (analyzeLauncher p request assets) (AnalyzeLooksAhead request) where
  act token move run htoken hahead := by
    cases move with
    | launch => exact analyze_launch_heeds htoken hahead
    | settle a =>
      have hact : (analyzeLauncher p request assets).act token (.settle a) run =
          if run.Enabled request a then AnalyzeRuns.settleAsset request assets a run else run := rfl
      rw [hact]
      split
      · next henabled => exact analyze_settle_heeds henabled.1
      · exact ⟨hahead, id⟩
    | crash e =>
      rw [analyze_crash]
      split
      · exact ⟨analyzeLooksAhead_of_phase nofun, uncompleted_concat nofun⟩
      · exact ⟨hahead, id⟩
  done token move run hfinished := by
    have hsame : (analyzeLauncher p request assets).act token move run = run :=
      analyze_done (of_decide_eq_true hfinished) token move
    rw [hsame]
    exact ⟨hfinished, rfl⟩

end Analyze

section Apply

variable {request : ActionPlanExecuteApprovedRequest} {assets : ApplyAssets σ}
  {s : ApplyRuns.RunState σ}

def applyAction : RunMove ApplyAsset → ApplyRuns.Action
  | .launch => .launch
  | .settle a => .settle a
  | .crash e => .crash e

def applyLauncher (p : Platform) (request : ActionPlanExecuteApprovedRequest)
    (assets : ApplyAssets σ) : Launcher (ApplyRuns.RunState σ) (RunMove ApplyAsset) where
  act token move run :=
    ApplyRuns.step p request assets { run with token := token } (applyAction move)
  events := ApplyRuns.RunState.events
  finished run := decide (run.phase = .returned ∨ run.phase = .raised)

/-- Unless the launcher has had its first look and the export package, which completes
the run from inside the materialization, is still to settle. -/
def ApplyLooksAhead (s : ApplyRuns.RunState σ) : Prop :=
  s.phase ≠ .admitted ∧ (s.phase = .materializing → s.settled .exportPackage ≠ none)

theorem applyLooksAhead_of_over (h : s.phase = .raised ∨ s.phase = .returned) :
    ApplyLooksAhead s := by
  constructor
  · intro hphase
    rw [hphase] at h
    simp at h
  · intro hphase
    rw [hphase] at h
    simp at h

theorem apply_launch_heeds (htoken : s.token.cancelled = true) (h : ApplyLooksAhead s) :
    ApplyLooksAhead (ApplyRuns.launch request s) ∧
      (Uncompleted (applyLauncher p request assets) s →
        Uncompleted (applyLauncher p request assets) (ApplyRuns.launch request s)) := by
  have hover : ∀ t : ApplyRuns.RunState σ, t.phase = .raised → ApplyLooksAhead t :=
    fun t ht => applyLooksAhead_of_over (.inl ht)
  rw [ApplyRuns.launch]
  split
  · split
    · exact ⟨hover _ rfl, id⟩
    · exact ⟨hover _ rfl, uncompleted_concat fun h => by cases h⟩
  · next hphase => exact absurd hphase h.1
  · split
    · exact ⟨h, id⟩
    · exact ⟨hover _ rfl, uncompleted_concat fun h => by cases h⟩
  · split
    · exact ⟨applyLooksAhead_of_over (.inr rfl), id⟩
    · exact ⟨hover _ rfl, uncompleted_concat fun h => by cases h⟩
  · exact ⟨h, id⟩
  · exact ⟨h, id⟩

theorem apply_settle_heeds {a : ApplyAsset} (henabled : s.Enabled a) (h : ApplyLooksAhead s) :
    ApplyLooksAhead (ApplyRuns.settleAsset request assets a s) ∧
      (Uncompleted (applyLauncher p request assets) s →
        Uncompleted (applyLauncher p request assets)
          (ApplyRuns.settleAsset request assets a s)) := by
  obtain ⟨hphase, hnone, -⟩ := henabled
  have ha : ApplyAsset.exportPackage ≠ a := by
    rintro rfl
    exact h.2 hphase hnone
  have hahead : ∀ status (t : ApplyRuns.RunState σ), t.phase = s.phase →
      t.settled = (s.settle a status).settled → ApplyLooksAhead t := by
    intro status t ht hsettled
    refine ⟨by rw [ht]; exact h.1, fun _ => ?_⟩
    rw [hsettled, ApplyRuns.RunState.settled_settle_of_ne ha]
    exact h.2 hphase
  rw [ApplyRuns.settleAsset]
  split
  · split
    · exact ⟨hahead .failed _ rfl rfl, id⟩
    · refine ⟨hahead .materialized _ rfl rfl, uncompleted_concat ?_⟩
      rw [ApplyRuns.status_emitAndResult, if_neg (Ne.symm ha)]
      intro h
      cases h
  · exact ⟨hahead .skipped _ rfl rfl, id⟩

theorem apply_heeds : Heeds (applyLauncher p request assets) ApplyLooksAhead where
  act token move run htoken hahead := by
    have hact : (applyLauncher p request assets).act token move run =
        ApplyRuns.step p request assets { run with token := token } (applyAction move) := rfl
    rw [hact]
    cases move with
    | launch => exact apply_launch_heeds htoken hahead
    | settle a =>
      rw [applyAction, ApplyRuns.step]
      split
      · next henabled => exact apply_settle_heeds henabled hahead
      · exact ⟨hahead, id⟩
    | crash e =>
      rw [applyAction, ApplyRuns.step]
      split
      · exact ⟨applyLooksAhead_of_over (.inl rfl), uncompleted_concat fun h => by cases h⟩
      · exact ⟨hahead, id⟩
  done token move run hfinished := by
    have hdone : run.phase = .returned ∨ run.phase = .raised := of_decide_eq_true hfinished
    have hphase : run.phase ≠ .materializing := by
      rintro hphase
      rw [hphase] at hdone
      obtain h | h := hdone <;> cases h
    have hact :
        (applyLauncher p request assets).act token move run = { run with token := token } := by
      cases move with
      | launch =>
        show ApplyRuns.launch request { run with token := token } = _
        rw [ApplyRuns.launch]
        obtain h | h := hdone <;> simp only [h]
      | settle a =>
        exact if_neg fun henabled => hphase henabled.1
      | crash e => exact if_neg hphase
    rw [hact]
    exact ⟨hfinished, rfl⟩

end Apply

section Completing

variable {request : ActionPlanExecuteApprovedRequest} {assets : ApplyAssets σ}
  {s : ApplyRuns.RunState σ}
  {token : CancellationToken}

def NeverFails (assets : ApplyAssets σ) : Prop :=
  ∀ a store, ∃ refs store', (assets.body a).run store = (.ok refs, store')

/-- Every asset that has settled is materialized. -/
def Clean (s : ApplyRuns.RunState σ) : Prop :=
  ∀ a, s.settled a ≠ none → s.settled a = some .materialized

theorem settleAsset_clean (hassets : NeverFails assets) (h : Clean s) {a : ApplyAsset}
    (henabled : s.Enabled a) :
    Clean (ApplyRuns.settleAsset request assets a s) ∧
      (ApplyRuns.settleAsset request assets a s).phase = s.phase ∧
      (ApplyRuns.settleAsset request assets a s).settled =
        Function.update s.settled a (some .materialized) := by
  obtain ⟨refs, store', hbody⟩ := hassets a s.store
  have hdeps : ∀ d ∈ a.deps, s.settled d = some .materialized :=
    fun d hd => h d (henabled.2.2 d hd)
  rw [ApplyRuns.settleAsset, if_pos hdeps, hbody]
  refine ⟨fun b hb => ?_, rfl, rfl⟩
  by_cases hba : b = a
  · subst hba
    exact ApplyRuns.RunState.settled_settle_self
  · have hkept : (s.settle a .materialized).settled b = s.settled b :=
      ApplyRuns.RunState.settled_settle_of_ne hba
    exact hkept.trans (h b (hkept ▸ hb))

theorem clean_act (hassets : NeverFails assets) (h : Clean s) (move : RunMove ApplyAsset) :
    Clean ((applyLauncher p request assets).act token move s) := by
  cases move with
  | launch =>
    have hsettled := (@TerminalEvents.launch_events _ request { s with token := token }).1
    intro a ha
    exact (congrFun hsettled a).trans (h a (congrFun hsettled a ▸ ha))
  | settle a =>
    show Clean (if _ then _ else _)
    split
    · next henabled =>
        exact (settleAsset_clean (s := { s with token := token }) hassets h henabled).1
    · exact h
  | crash e =>
    show Clean (if _ then _ else _)
    split
    · exact h
    · exact h

/-- The assets in an order in which each comes after those it depends on. -/
def dependenciesFirst (done : List ApplyAsset) : List ApplyAsset → Bool
  | [] => true
  | a :: rest => a.deps.all (fun d => decide (d ∈ done)) && dependenciesFirst (a :: done) rest

theorem materialized_settles (hassets : NeverFails assets) (rest done : List ApplyAsset)
    (hphase : s.phase = .materializing) (hclean : Clean s)
    (hdone : ∀ d ∈ done, s.settled d = some .materialized)
    (hfirst : dependenciesFirst done rest = true) :
    ∀ a ∈ rest ++ done,
      ((rest.map RunMove.settle).foldl
        (fun run move => (applyLauncher p request assets).act token move run)
        s).settled a = some .materialized := by
  induction rest generalizing s done with
  | nil => exact hdone
  | cons a rest ih =>
    rw [dependenciesFirst, Bool.and_eq_true, List.all_eq_true] at hfirst
    obtain ⟨hdeps, hfirst⟩ := hfirst
    set t := (applyLauncher p request assets).act token (.settle a) s with ht
    have hstep : t.phase = .materializing ∧ ∀ d ∈ a :: done, t.settled d = some .materialized := by
      have hact : t = if ({ s with token := token } : ApplyRuns.RunState σ).Enabled a then
            ApplyRuns.settleAsset request assets a { s with token := token }
          else { s with token := token } := rfl
      rw [hact]
      split
      · next henabled =>
        obtain ⟨-, hkept, hsettled⟩ :=
          @settleAsset_clean _ request assets { s with token := token } hassets hclean a henabled
        rw [hkept, hsettled]
        refine ⟨hphase, fun d hd => ?_⟩
        by_cases hda : d = a
        · rw [hda, Function.update_self]
        · rw [Function.update_of_ne hda]
          exact hdone d (List.mem_of_ne_of_mem hda hd)
      · next hdisabled =>
        refine ⟨hphase, fun d hd => ?_⟩
        obtain rfl | hd := List.mem_cons.mp hd
        · apply hclean
          intro hnone
          apply hdisabled
          refine ⟨hphase, hnone, fun d hd => ?_⟩
          have hmem := of_decide_eq_true (hdeps d hd)
          have hmaterialized := hdone d hmem
          simp [hmaterialized]
        · exact hdone d hd
    have hrest := ih (s := t) (a :: done) hstep.1 (clean_act hassets hclean _) hstep.2 hfirst
    intro b hb
    refine hrest b ?_
    simp only [List.cons_append, List.mem_cons, List.mem_append] at hb ⊢
    tauto

end Completing

section Runs

variable (p : Platform) (me : Nat)

/-- An analyze run in the service after some moves. -/
abbrev analyzeReached (request : AnalyzeDatasetRequest) (assets : AnalyzeAssets σ) (store : σ)
    (moves : List (Move (RunMove AnalyzeAsset))) : Session (AnalyzeRuns.RunState σ) :=
  reached (analyzeLauncher p request assets) me request.platformJobId.1
    (AnalyzeRuns.initial store) moves

/-- An apply run in the service after some moves. -/
abbrev applyReached (request : ActionPlanExecuteApprovedRequest) (assets : ApplyAssets σ)
    (store : σ) (moves : List (Move (RunMove ApplyAsset))) : Session (ApplyRuns.RunState σ) :=
  reached (applyLauncher p request assets) me request.platformJobId.1
    (ApplyRuns.initial .fresh store) moves

variable {p me}

theorem analyze_completes {request : AnalyzeDatasetRequest} {assets : AnalyzeAssets σ}
    {s : AnalyzeRuns.RunState σ} (h : ¬ AnalyzeLooksAhead request s) (token : CancellationToken) :
    ¬ Uncompleted (analyzeLauncher p request assets)
      ((analyzeLauncher p request assets).act token .launch s) := by
  obtain ⟨hphase, hsuccess⟩ := not_not.mp h
  have hact : (analyzeLauncher p request assets).act token .launch s =
      s.record (emitCompleted request.platformJobId (AnalyzeRuns.completedRefs assets s))
        .returned := by
    show AnalyzeRuns.launch request assets token s = _
    rw [AnalyzeRuns.launch, hphase]
    exact if_pos hsuccess
  rw [hact]
  intro huncompleted
  exact huncompleted _ (List.mem_append_right s.events List.mem_cons_self) rfl

variable {request : ActionPlanExecuteApprovedRequest} {assets : ApplyAssets σ}
  {s : ApplyRuns.RunState σ}

/-- The moves of a materialization in which no asset fails. -/
def materialization : List (RunMove ApplyAsset) := .launch :: ApplyAsset.all.map .settle

theorem recorded_act (h : TerminalEvents.Recorded s) (token : CancellationToken)
    (move : RunMove ApplyAsset) :
    TerminalEvents.Recorded ((applyLauncher p request assets).act token move s) :=
  @TerminalEvents.recorded_step _ p request assets { s with token := token } h (applyAction move)

theorem launch_unsettled (hphase : s.phase = .materializing)
    (hnone : ¬ s.settled .exportPackage ≠ none) : ApplyRuns.launch request s = s := by
  have hunsettled : ¬ s.AllSettled := fun hall => hnone (hall .exportPackage (ApplyAsset.mem_all _))
  rw [ApplyRuns.launch, hphase]
  exact if_pos hunsettled

theorem apply_completes (hassets : NeverFails assets) (hclean : Clean s)
    (hrecorded : TerminalEvents.Recorded s) (h : ¬ ApplyLooksAhead s) (token : CancellationToken) :
    ¬ Uncompleted (applyLauncher p request assets)
      (materialization.foldl
        (fun run move => (applyLauncher p request assets).act token move run) s) := by
  set t := (applyLauncher p request assets).act token .launch s with ht
  have hphase : t.phase = .materializing := by
    have hact : t = ApplyRuns.launch request { s with token := token } := rfl
    rw [ApplyLooksAhead, not_and_or, not_not] at h
    obtain hadmitted | hexport := h
    · rw [hact, ApplyRuns.launch]
      simp only [hadmitted]
      rfl
    · obtain ⟨hmaterializing, hnone⟩ := Classical.not_imp.mp hexport
      rw [hact, @launch_unsettled _ request { s with token := token } hmaterializing hnone]
      exact hmaterializing
  have hfold : materialization.foldl
      (fun run move => (applyLauncher p request assets).act token move run) s =
      (ApplyAsset.all.map .settle).foldl
        (fun run move => (applyLauncher p request assets).act token move run) t :=
          List.foldl_cons ..
  have hexported :=
    @materialized_settles _ p request assets t token hassets ApplyAsset.all [] hphase
    (clean_act hassets hclean _) (fun _ hd => absurd hd List.not_mem_nil) rfl .exportPackage
    (List.mem_append_left _ (ApplyAsset.mem_all _))
  have hrecorded' : TerminalEvents.Recorded
      (materialization.foldl
        (fun run move => (applyLauncher p request assets).act token move run) s) := by
    refine List.foldlRecOn materialization _ hrecorded fun run hrun move _ => ?_
    exact recorded_act hrun token move
  rw [hfold] at hrecorded' ⊢
  obtain ⟨e, he, hstatus⟩ := hrecorded' hexported
  exact fun huncompleted => huncompleted e he hstatus

/-- Whatever the order of cancel requests and steps: an acknowledged cancel request wins
exactly while a look at the token still comes before the completion. After the last look
of an analyze run, and from the first look of an apply run to the end of its export
package, nothing stops the completion any more. -/
theorem acknowledged_cancel_wins (p : Platform) (me : Nat) (reasonCode : Text) (store : σ) :
    (∀ (request : AnalyzeDatasetRequest) (assets : AnalyzeAssets σ)
      (pre : List (Move (RunMove AnalyzeAsset))), EndedAlone (analyzeLauncher p request assets) me
        request.platformJobId.1 (AnalyzeRuns.initial store) pre →
      Acknowledged (analyzeLauncher p request assets) me request.platformJobId.1
        (analyzeReached p me request assets store pre) reasonCode →
      ((∀ post, Uncompleted (analyzeLauncher p request assets)
        (analyzeReached p me request assets store
          (pre ++ .call (.cancel request.platformJobId.1 reasonCode) :: post)).run) ↔
        AnalyzeLooksAhead request (analyzeReached p me request assets store pre).run)) ∧
    ∀ (request : ActionPlanExecuteApprovedRequest) (assets : ApplyAssets σ)
      (pre : List (Move (RunMove ApplyAsset))),
      EndedAlone (applyLauncher p request assets) me request.platformJobId.1
        (ApplyRuns.initial .fresh store) pre →
      Acknowledged (applyLauncher p request assets) me request.platformJobId.1
        (applyReached p me request assets store pre) reasonCode →
      (ApplyLooksAhead (applyReached p me request assets store pre).run →
        ∀ post, Uncompleted (applyLauncher p request assets) (applyReached p me request assets store
          (pre ++ .call (.cancel request.platformJobId.1 reasonCode) :: post)).run) ∧
      (NeverFails assets →
        (∀ post, Uncompleted (applyLauncher p request assets)
          (applyReached p me request assets store
          (pre ++ .call (.cancel request.platformJobId.1 reasonCode) :: post)).run) →
        ApplyLooksAhead (applyReached p me request assets store pre).run) := by
  refine ⟨fun request assets pre halone hacknowledged => ⟨fun hwins => ?_, fun hahead post => ?_⟩,
    fun request assets pre halone hacknowledged => ⟨fun hahead post => ?_, fun hassets hwins => ?_⟩⟩
  · by_contra hlate
    have hcompletes (token : CancellationToken) : ¬ Uncompleted (analyzeLauncher p request assets)
        ([.launch].foldl (fun run move => (analyzeLauncher p request assets).act token move run)
          (analyzeReached p me request assets store pre).run) := analyze_completes hlate token
    obtain ⟨post, hcompleted⟩ := completed_of_acknowledged hacknowledged hcompletes
    exact hcompleted (hwins post)
  · exact uncompleted_of_acknowledged analyze_heeds halone hacknowledged hahead post
  · exact uncompleted_of_acknowledged apply_heeds halone hacknowledged hahead post
  · by_contra hlate
    have hclean : Clean (applyReached p me request assets store pre).run :=
      run_invariant (P := Clean) (fun a ha => absurd rfl ha)
        (fun _ move _ h => clean_act hassets h move) pre
    have hrecorded : TerminalEvents.Recorded (applyReached p me request assets store pre).run :=
      run_invariant (P := TerminalEvents.Recorded) (fun h => by cases h)
        (fun token move _ h => recorded_act h token move) pre
    have hcompletes (token : CancellationToken) : ¬ Uncompleted (applyLauncher p request assets)
        (materialization.foldl (fun run move => (applyLauncher p request assets).act token move run)
          (applyReached p me request assets store pre).run) :=
      apply_completes hassets hclean hrecorded hlate token
    obtain ⟨post, hcompleted⟩ := completed_of_acknowledged hacknowledged hcompletes
    exact hcompleted (hwins post)

/-- A request whose launcher is yet to take its first look. -/
def registered : List (Move (RunMove ApplyAsset)) :=
  [.call (.start 0 TerminalEvents.applyRequest.platformJobId.1)]

def admitted : List (Move (RunMove ApplyAsset)) := registered ++ [.act .launch]

abbrev promotingLauncher : Launcher (ApplyRuns.RunState Unit) (RunMove ApplyAsset) :=
  applyLauncher asciiPlatform TerminalEvents.applyRequest TerminalEvents.promotingAssets

theorem endedAlone_admitted {pre : List (Move (RunMove ApplyAsset))} (h : pre ⊆ admitted) :
    EndedAlone promotingLauncher 0 TerminalEvents.applyRequest.platformJobId.1
      (ApplyRuns.initial .fresh ()) pre := by
  rintro before other post rfl
  have hmem : Move.call (.finish other) ∈ admitted :=
    h (List.mem_append_right before List.mem_cons_self)
  simp [admitted, registered] at hmem

theorem acknowledged_cancel_wins_registered :
    ∀ post, Uncompleted promotingLauncher
      (applyReached asciiPlatform 0 TerminalEvents.applyRequest TerminalEvents.promotingAssets ()
        (registered ++ .call (.cancel TerminalEvents.applyRequest.platformJobId.1 []) ::
          post)).run :=
  ((acknowledged_cancel_wins asciiPlatform 0 [] ()).2 TerminalEvents.applyRequest
    TerminalEvents.promotingAssets registered
    (endedAlone_admitted (List.subset_append_left registered _))
    ⟨rfl, rfl, fun _ he => absurd he List.not_mem_nil⟩).1 ⟨nofun, nofun⟩

/-- A cancel request after the first look is acknowledged, and the export package
completes the run all the same. -/
theorem admitted_completes :
    ¬ ∀ (request : ActionPlanExecuteApprovedRequest) (assets : ApplyAssets Unit) (reasonCode : Text)
        (pre post : List (Move (RunMove ApplyAsset))),
      EndedAlone (applyLauncher asciiPlatform request assets) 0 request.platformJobId.1
        (ApplyRuns.initial .fresh ()) pre →
      Acknowledged (applyLauncher asciiPlatform request assets) 0 request.platformJobId.1
        (applyReached asciiPlatform 0 request assets () pre) reasonCode →
      Uncompleted (applyLauncher asciiPlatform request assets)
        (applyReached asciiPlatform 0 request assets ()
          (pre ++ .call (.cancel request.platformJobId.1 reasonCode) :: post)).run := by
  intro h
  have hacknowledged : Acknowledged promotingLauncher 0 TerminalEvents.applyRequest.platformJobId.1
      (applyReached asciiPlatform 0 TerminalEvents.applyRequest TerminalEvents.promotingAssets
        () admitted)
      [] := ⟨rfl, rfl, fun _ he => absurd he List.not_mem_nil⟩
  have hcompletes : ∀ token, ¬ Uncompleted promotingLauncher
      (materialization.foldl (fun run move => promotingLauncher.act token move run)
        (applyReached asciiPlatform 0 TerminalEvents.applyRequest TerminalEvents.promotingAssets ()
          admitted).run) := by
    intro token
    refine apply_completes (fun a store => ⟨[], store, rfl⟩) (fun a ha => absurd rfl ha)
      (fun hexport => by cases hexport) (fun hahead => hahead.1 rfl) token
  obtain ⟨post, hcompleted⟩ := completed_of_acknowledged hacknowledged hcompletes
  exact hcompleted (h _ _ [] admitted post (endedAlone_admitted (List.Subset.refl _)) hacknowledged)

end Runs

end DataForge.Orchestration.AcknowledgedCancel
