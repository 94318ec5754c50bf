import DataForge.Orchestration.AcknowledgedCancel

namespace DataForge.Orchestration.FailureCodes

open DataForge.Foundation.Strings
open DataForge.Foundation.Outcome
open DataForge.Foundation.Runs
open DataForge.Domain.Common
open DataForge.Domain.Artifact
open DataForge.Domain.Compute
open DataForge.Orchestration.Cancellation
open DataForge.Orchestration.StatusBridge
open DataForge.Orchestration.ApplyRuns (ApplyAsset ApplyAssets)
open DataForge.Orchestration.AnalyzeRuns (AnalyzeAsset AnalyzeAssets RunMove)
open DataForge.Orchestration.PolledRuns (Launcher)
open DataForge.Orchestration.AcknowledgedCancel
open DataForge.Orchestration.Workflows
  (AnalyzeDatasetRequest ActionPlanExecuteApprovedRequest Raised.text)

section Classification

def recoverableReasons : List RunFailureReason :=
  [.transientStorageError, .dagsterWorkerRestart, .platformCallbackTimeout, .externalAiTimeout]

def isRecoverable (reason : RunFailureReason) : Bool := decide (reason ∈ recoverableReasons)

/-- The lower-cased message has none of the patterns that the classifier looks for. -/
structure Unmatched (p : Platform) (message : Text) : Prop where
  timeout : "timeout".toList <:+: p.lower message →
    ¬ "platform".toList <:+: p.lower message ∧ ¬ "external".toList <:+: p.lower message
  transient : ¬ "transient".toList <:+: p.lower message
  storage : "storage".toList <:+: p.lower message → ¬ "error".toList <:+: p.lower message
  worker : "worker".toList <:+: p.lower message → ¬ "restart".toList <:+: p.lower message
  approval : "approval".toList <:+: p.lower message → ¬ "hash".toList <:+: p.lower message
  policy : "policy".toList <:+: p.lower message →
    ¬ "blocked".toList <:+: p.lower message ∧ ¬ "gate".toList <:+: p.lower message
  contract : "contract".toList <:+: p.lower message → ¬ "fail".toList <:+: p.lower message
  invalid : ¬ "invalid".toList <:+: p.lower message
  validation : ¬ "validation".toList <:+: p.lower message

theorem ite_eq_iff_of_ne {α : Type} {c : Prop} [Decidable c] {a b x : α} (h : a ≠ x) :
    (if c then a else b) = x ↔ ¬ c ∧ b = x := by
  by_cases hc : c
  · simp [hc, h]
  · simp [hc]

theorem classifyFailure_eq_internalError_iff {p : Platform} {message : Text} :
    classifyFailure p message = .internalError ↔ Unmatched p message := by
  unfold classifyFailure
  simp only [ite_eq_iff_of_ne, ne_eq, reduceCtorEq, not_false_eq_true, Bool.and_eq_true,
    Bool.or_eq_true, decide_eq_true_eq, not_and, not_or]
  constructor
  · rintro ⟨hplatform, hexternal, htransient, hworker, happroval, hpolicy, hcontract, hinvalid, -⟩
    exact ⟨fun h => ⟨hplatform h, hexternal h⟩, htransient.1, htransient.2, hworker, happroval,
      hpolicy, fun h => (hcontract h).2, hinvalid.1, hinvalid.2⟩
  · intro h
    exact ⟨fun ht => (h.timeout ht).1, fun ht => (h.timeout ht).2, ⟨h.transient, h.storage⟩,
      h.worker, h.approval, h.policy, fun hc => ⟨h.invalid, h.contract hc⟩,
      ⟨h.invalid, h.validation⟩, trivial⟩

end Classification

section Reports

variable {ρ A : Type} (launcher : Launcher ρ (RunMove A))

/-- A step of a run: the token as the launcher then finds it, and the move. -/
abbrev Turn (A : Type) := CancellationToken × RunMove A

def perform (turn : Turn A) : Effect Empty ρ Unit := fun s => (.ok (), launcher.act turn.1 turn.2 s)

/-- The run after some steps. -/
abbrev reached (s : ρ) (turns : List (Turn A)) : ρ := after (perform launcher) turns s

variable (failure : ρ → RunMove A → Option Raised)

/-- The messages of the assets that fail in the course of a run. -/
def failures : ρ → List (Turn A) → List Text
  | _, [] => []
  | s, turn :: turns =>
    ((failure s turn.2).map Raised.text).toList ++ failures (launcher.act turn.1 turn.2 s) turns

/-- The messages that an event is about which a run records with its next move. -/
def causes (s : ρ) (turns : List (Turn A)) : RunMove A → List Text
  | .crash e => [Raised.text e]
  | _ => failures launcher failure s turns

/-- Every FAILED event of the run has the code, and is recoverable, as the failure that it
reports. -/
def Surfaces (p : Platform) (s : ρ) (turns : List (Turn A)) : Prop :=
  ∀ pre turn post, turns = pre ++ turn :: post → ∀ e : JobEvent,
    launcher.events (reached launcher s (pre ++ [turn])) =
      launcher.events (reached launcher s pre) ++ [e] →
    e.status = .failed → ∀ m ∈ causes launcher failure s pre turn.2,
      e.errorCode = some (classifyFailure p m) ∧
        e.errorCode.map isRecoverable = some (isRecoverable (classifyFailure p m))

/-- What the moves of a launcher record: an unsuccessful result and a crash are two ways to fail. -/
structure Reporting (p : Platform) (Unsuccessful : ρ → Prop) : Prop where
  failed : ∀ s (turn : Turn A) e, launcher.events (launcher.act turn.1 turn.2 s) =
    launcher.events s ++ [e] →
    e.status = .failed →
      (∃ r, turn.2 = .crash r ∧ e.errorCode = some (classifyFailure p (Raised.text r))) ∨
        turn.2 = .launch ∧ Unsuccessful s ∧ e.errorCode = some .internalError
  unsuccessful : ∀ s token, Unsuccessful s → ∃ e, launcher.events (launcher.act token .launch s) =
    launcher.events s ++ [e] ∧ e.status = .failed ∧ e.errorCode = some .internalError

variable {launcher failure} {p : Platform} {Unsuccessful : ρ → Prop}

theorem reached_concat (s : ρ) (turns : List (Turn A)) (turn : Turn A) :
    reached launcher s (turns ++ [turn]) =
      launcher.act turn.1 turn.2 (reached launcher s turns) := by
  rw [reached, after_append]
  rfl

theorem surfaces_iff (h : Reporting launcher p Unsuccessful) (s : ρ) (turns : List (Turn A)) :
    Surfaces launcher failure p s turns ↔
      ∀ pre token post, turns =
        pre ++ (token, .launch) :: post → Unsuccessful (reached launcher s pre) →
        ∀ m ∈ failures launcher failure s pre, Unmatched p m := by
  constructor
  · intro hsurfaces pre token post heq hunsuccessful m hm
    obtain ⟨e, hevents, hstatus, hcode⟩ := h.unsuccessful _ token hunsuccessful
    rw [← reached_concat s pre (token, .launch)] at hevents
    obtain ⟨hclass, -⟩ := hsurfaces pre (token, .launch) post heq e hevents hstatus m hm
    rw [hcode] at hclass
    exact classifyFailure_eq_internalError_iff.mp (Option.some.inj hclass).symm
  · intro hunmatched pre turn post heq e hevents hstatus m hm
    rw [reached_concat] at hevents
    have hcode : e.errorCode = some (classifyFailure p m) := by
      obtain ⟨r, hcrash, hcode⟩ | ⟨hlaunch, hunsuccessful, hcode⟩ :=
        h.failed _ turn e hevents hstatus
      · rw [hcrash, causes, List.mem_singleton] at hm
        rw [hcode, hm]
      · obtain ⟨token, move⟩ := turn
        obtain rfl : move = .launch := hlaunch
        have hclass := classifyFailure_eq_internalError_iff.mpr
          (hunmatched pre token post heq hunsuccessful m hm)
        rw [hcode, hclass]
    refine ⟨hcode, ?_⟩
    rw [hcode, Option.map_some]

end Reports

section Analyze

variable {σ : Type} (request : AnalyzeDatasetRequest) (assets : AnalyzeAssets σ)

/-- What the asset raises that a move of an analyze run settles. -/
def analyzeFailure (s : AnalyzeRuns.RunState σ) : RunMove AnalyzeAsset → Option Raised
  | .settle a =>
    if s.Enabled request a ∧ ∀ d ∈ a.deps, s.settled d = some .materialized then
      match ((assets.ensureAnalyzeOutputs a).run s.store).1 with
      | .error e => some e
      | .ok () => none
    else none
  | _ => none

/-- The materialization is over, and its result is not a success. -/
def AnalyzeUnsuccessful (s : AnalyzeRuns.RunState σ) : Prop :=
  s.phase = .checked ∧ ¬ s.Success request

theorem concat_ne_self {events : List JobEvent} {e : JobEvent} : events ≠ events ++ [e] := by
  intro h
  simpa using congrArg List.length h

theorem eq_of_concat {events : List JobEvent} {e e' : JobEvent}
    (h : events ++ [e] = events ++ [e']) : e' = e :=
  (List.singleton_injective (List.append_cancel_left h)).symm

variable {request assets} {p : Platform}

theorem settled_of_analyzeFailure {s : AnalyzeRuns.RunState σ} {a : AnalyzeAsset} {e : Raised}
    (h : analyzeFailure request assets s (.settle a) = some e) (token : CancellationToken) :
    (AnalyzeRuns.step p request assets token s (.settle a)).settled a = some .failed := by
  rw [analyzeFailure] at h
  split at h
  · next hsettles =>
    rw [AnalyzeRuns.step, if_pos hsettles.1, AnalyzeRuns.settleAsset, if_pos hsettles.2]
    split at h
    · next hraised =>
      split
      · exact Function.update_self ..
      · next hok =>
        rw [hok] at hraised
        cases hraised
    · cases h
  · cases h

theorem analyze_reporting :
    Reporting (analyzeLauncher p request assets) p (AnalyzeUnsuccessful request) where
  failed s turn e hevents hstatus := by
    obtain ⟨token, move⟩ := turn
    cases move with
    | launch =>
      right
      change (AnalyzeRuns.launch request assets token s).events = s.events ++ [e] at hevents
      rw [AnalyzeRuns.launch] at hevents
      split at hevents
      · split at hevents
        · rw [eq_of_concat hevents] at hstatus
          cases hstatus
        · exact absurd hevents concat_ne_self
      · split at hevents
        · exact absurd hevents concat_ne_self
        · split at hevents
          · rw [eq_of_concat hevents] at hstatus
            cases hstatus
          · exact absurd hevents concat_ne_self
      · next hphase =>
        split at hevents
        · rw [eq_of_concat hevents] at hstatus
          cases hstatus
        · next hsuccess =>
          rw [eq_of_concat hevents]
          exact ⟨rfl, ⟨hphase, hsuccess⟩, rfl⟩
      · exact absurd hevents concat_ne_self
      · exact absurd hevents concat_ne_self
    | settle a =>
      change (if s.Enabled request a then AnalyzeRuns.settleAsset request assets a s
        else s).events =
        s.events ++ [e] at hevents
      split at hevents
      · rw [AnalyzeRuns.settleAsset] at hevents
        split at hevents
        · split at hevents
          · exact absurd hevents concat_ne_self
          · rw [eq_of_concat hevents] at hstatus
            cases hstatus
        · exact absurd hevents concat_ne_self
      · exact absurd hevents concat_ne_self
    | crash r =>
      left
      rw [analyze_crash] at hevents
      split at hevents
      · rw [eq_of_concat hevents]
        exact ⟨r, rfl, rfl⟩
      · exact absurd hevents concat_ne_self
  unsuccessful s token h := by
    refine ⟨emitFailed request.platformJobId 0 .internalError, ?_, rfl, rfl⟩
    change (AnalyzeRuns.launch request assets token s).events = _
    rw [AnalyzeRuns.launch, h.1]
    dsimp only
    rw [if_neg h.2]
    rfl

end Analyze

section Apply

variable {σ : Type} (assets : ApplyAssets σ)

/-- What the asset raises that a move of an apply run settles. -/
def applyFailure (s : ApplyRuns.RunState σ) : RunMove ApplyAsset → Option Raised
  | .settle a =>
    if s.Enabled a ∧ ∀ d ∈ a.deps, s.settled d = some .materialized then
      match ((assets.body a).run s.store).1 with
      | .error e => some e
      | .ok _ => none
    else none
  | _ => none

def ApplyUnsuccessful (s : ApplyRuns.RunState σ) : Prop := s.phase = .checked ∧ ¬ s.Success

instance (s : ApplyRuns.RunState σ) : Decidable (ApplyUnsuccessful s) :=
  inferInstanceAs (Decidable (_ ∧ _))

variable {assets} {p : Platform} {request : ActionPlanExecuteApprovedRequest}

theorem settled_of_applyFailure {s : ApplyRuns.RunState σ} {a : ApplyAsset} {e : Raised}
    (h : applyFailure assets s (.settle a) = some e) :
    (ApplyRuns.step p request assets s (.settle a)).settled a = some .failed := by
  rw [applyFailure] at h
  split at h
  · next hsettles =>
    rw [ApplyRuns.step, if_pos hsettles.1, ApplyRuns.settleAsset, if_pos hsettles.2]
    split at h
    · next hraised =>
      split
      · exact Function.update_self ..
      · next hok =>
        rw [hok] at hraised
        cases hraised
    · cases h
  · cases h

theorem apply_reporting : Reporting (applyLauncher p request assets) p ApplyUnsuccessful where
  failed s turn e hevents hstatus := by
    obtain ⟨token, move⟩ := turn
    change (ApplyRuns.step p request assets { s with token := token } (applyAction move)).events =
      s.events ++ [e] at hevents
    cases move with
    | launch =>
      right
      rw [applyAction, ApplyRuns.step, ApplyRuns.launch] at hevents
      split at hevents
      · split at hevents
        · exact absurd hevents concat_ne_self
        · split at hevents
          · rw [eq_of_concat hevents] at hstatus
            cases hstatus
          · exact absurd hevents concat_ne_self
      · rw [eq_of_concat hevents] at hstatus
        cases hstatus
      · split at hevents
        · exact absurd hevents concat_ne_self
        · split at hevents
          · rw [eq_of_concat hevents] at hstatus
            cases hstatus
          · exact absurd hevents concat_ne_self
      · next hphase =>
        split at hevents
        · exact absurd hevents concat_ne_self
        · next hsuccess =>
          rw [eq_of_concat hevents]
          exact ⟨rfl, ⟨hphase, hsuccess⟩, rfl⟩
      · exact absurd hevents concat_ne_self
      · exact absurd hevents concat_ne_self
    | settle a =>
      rw [applyAction, ApplyRuns.step] at hevents
      split at hevents
      · rw [ApplyRuns.settleAsset] at hevents
        split at hevents
        · split at hevents
          · exact absurd hevents concat_ne_self
          · have hrunning := ApplyRuns.status_emitAndResult request.platformJobId a
            rw [eq_of_concat hevents, hrunning] at hstatus
            split at hstatus <;> cases hstatus
        · exact absurd hevents concat_ne_self
      · exact absurd hevents concat_ne_self
    | crash r =>
      left
      rw [applyAction, ApplyRuns.step] at hevents
      split at hevents
      · rw [eq_of_concat hevents]
        exact ⟨r, rfl, rfl⟩
      · exact absurd hevents concat_ne_self
  unsuccessful s token h := by
    refine ⟨emitFailed request.platformJobId 0 .internalError, ?_, rfl, rfl⟩
    cases s
    obtain ⟨rfl, hsuccess⟩ := h
    exact congrArg ApplyRuns.RunState.events (if_neg hsuccess)

end Apply

section Result

/-- The failure behind a FAILED event surfaces in it exactly if, whenever the launcher finds an
unsuccessful result, no asset has failed with a message that the classifier knows. -/
theorem failure_surfaces_iff (p : Platform) (σ : Type) (store : σ) :
    (∀ (request : AnalyzeDatasetRequest) (assets : AnalyzeAssets σ)
      (turns : List (Turn AnalyzeAsset)), Surfaces (analyzeLauncher p request assets)
        (analyzeFailure request assets) p (AnalyzeRuns.initial store)
          turns ↔
        ∀ pre token post, turns = pre ++ (token, .launch) :: post →
          AnalyzeUnsuccessful request
            (reached (analyzeLauncher p request assets) (AnalyzeRuns.initial store) pre) →
          ∀ m ∈ failures (analyzeLauncher p request assets) (analyzeFailure request assets)
            (AnalyzeRuns.initial store) pre, Unmatched p m) ∧
    ∀ (request : ActionPlanExecuteApprovedRequest) (assets : ApplyAssets σ)
      (turns : List (Turn ApplyAsset)),
      Surfaces (applyLauncher p request assets) (applyFailure assets) p
        (ApplyRuns.initial .fresh store) turns ↔
        ∀ pre token post, turns = pre ++ (token, .launch) :: post →
          ApplyUnsuccessful
            (reached (applyLauncher p request assets) (ApplyRuns.initial .fresh store) pre) →
          ∀ m ∈ failures (applyLauncher p request assets) (applyFailure assets)
            (ApplyRuns.initial .fresh store) pre, Unmatched p m :=
  ⟨fun _ _ turns => surfaces_iff analyze_reporting _ turns,
    fun _ _ turns => surfaces_iff apply_reporting _ turns⟩

/-- Assets that cannot reach the storage. -/
def unreachableAssets : ApplyAssets Unit where
  body _ := Effect.raise (.plain "ObjectStorageError" "object storage error: read timed out")
  finalCandidateRef _ := none
  finalExportRef _ := none
  gatesReportRef _ := none

/-- A run to its failure, which is not cancelled. -/
def unsuccessfulMoves : List (RunMove ApplyAsset) :=
  [.launch, .launch] ++ ApplyAsset.all.map .settle ++ [.launch, .launch]

def unsuccessfulRun : List (Turn ApplyAsset) := unsuccessfulMoves.map fun move => (.fresh, move)

/-- A storage error that fails an asset is recorded as an internal error, which no retry
recovers. -/
theorem storage_error_not_surfaced :
    ¬ Surfaces (applyLauncher asciiPlatform TerminalEvents.applyRequest unreachableAssets)
      (applyFailure unreachableAssets) asciiPlatform (ApplyRuns.initial .fresh ())
        unsuccessfulRun := by
  rw [surfaces_iff apply_reporting]
  intro h
  have hunsuccessful :
      ApplyUnsuccessful (reached (applyLauncher asciiPlatform TerminalEvents.applyRequest
        unreachableAssets) (ApplyRuns.initial .fresh ())
      unsuccessfulRun.dropLast) := by decide +kernel
  have hfailed : "object storage error: read timed out".toList ∈ failures
      (applyLauncher asciiPlatform TerminalEvents.applyRequest unreachableAssets)
        (applyFailure unreachableAssets)
      (ApplyRuns.initial .fresh ()) unsuccessfulRun.dropLast := by decide +kernel
  have hunmatched := h unsuccessfulRun.dropLast .fresh [] rfl hunsuccessful _ hfailed
  exact hunmatched.storage (by decide) (by decide)

end Result

end DataForge.Orchestration.FailureCodes
