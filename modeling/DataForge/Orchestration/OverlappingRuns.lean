import DataForge.Orchestration.TokenObjects

namespace DataForge.Orchestration.OverlappingRuns

open DataForge.Foundation.Strings
open DataForge.Foundation.Dictionary
open DataForge.Foundation.Outcome
open DataForge.Foundation.Runs
open DataForge.Orchestration.Cancellation
open DataForge.Orchestration.TokenObjects

section System

/-- A run between its registration and its discarding, with the token it holds. -/
structure LiveRun where
  jobId : Text
  ref : Nat

structure RunsState where
  registry : TokenRegistry
  live : Nat → Option LiveRun

/-- Runs are numbered by the requests that start them; several may carry one job id. -/
inductive Action where
  | start (run : Nat) (jobId : Text)
  | finish (run : Nat)
  | cancel (jobId reasonCode : Text)

namespace RunsState

variable (s : RunsState)

def start (run : Nat) (jobId : Text) : RunsState :=
  { registry := (s.registry.register jobId).2
    live := Function.update s.live run (some ⟨jobId, (s.registry.register jobId).1⟩) }

def finish (run : Nat) (jobId : Text) : RunsState :=
  { registry := s.registry.discard jobId
    live := Function.update s.live run none }

def cancel (jobId reasonCode : Text) : RunsState :=
  { s with registry := (s.registry.cancel jobId reasonCode).2 }

variable {s}

theorem live_start (run : Nat) (jobId : Text) (other : Nat) : (s.start run jobId).live other =
    if other = run then some ⟨jobId, (s.registry.register jobId).1⟩ else s.live other := by
  simp [start, Function.update_apply]

theorem live_finish (run : Nat) (jobId : Text) (other : Nat) :
    (s.finish run jobId).live other = if other = run then none else s.live other := by
  simp [finish, Function.update_apply]

variable (s)

/-- A request runs once, from its registration to its discarding. -/
def step : Action → RunsState
  | .start run jobId =>
    match s.live run with
    | some _ => s
    | none => s.start run jobId
  | .finish run =>
    match s.live run with
    | some live => s.finish run live.jobId
    | none => s
  | .cancel jobId reasonCode => s.cancel jobId reasonCode

end RunsState

def perform (action : Action) : Effect Empty RunsState Unit := fun s => (.ok (), s.step action)

abbrev reached (actions : List Action) : RunsState := after perform actions ⟨.empty, fun _ => none⟩

theorem reached_concat (actions : List Action) (action : Action) :
    reached (actions ++ [action]) = (reached actions).step action := by
  rw [reached, after_append]
  rfl

end System

section Property

/-- A cancel request now is accepted and triggers the token that the run holds. -/
def Cancellable (s : RunsState) (live : LiveRun) : Prop :=
  ∀ reasonCode, (s.registry.cancel live.jobId reasonCode).1 = true ∧
    ((s.registry.cancel live.jobId reasonCode).2.object live.ref).cancelled = true

def NoCancelLost (s : RunsState) : Prop := ∀ run live, s.live run = some live → Cancellable s live

/-- No other run of the same job is live. -/
def Alone (s : RunsState) (run : Nat) : Prop :=
  ∀ live, s.live run = some live →
    ∀ other live', s.live other = some live' → live'.jobId = live.jobId → other = run

end Property

section Invariant

/-- Every live run holds the token under which the registry knows its job. -/
structure Held (s : RunsState) : Prop where
  wellFormed : s.registry.WellFormed
  token : ∀ run live, s.live run = some live → get? live.jobId s.registry.tokens = some live.ref

variable {s : RunsState}

theorem noCancelLost_of_held (h : Held s) : NoCancelLost s := by
  intro run live hlive reasonCode
  have htoken := h.token run live hlive
  rw [TokenRegistry.cancel, htoken]
  refine ⟨rfl, ?_⟩
  dsimp only
  rw [TokenRegistry.object_trigger (h.wellFormed.bounded _ _ htoken), if_pos rfl]
  rfl

/-- A new token for a job is one that no live run waits for. -/
theorem get?_newToken {jobId : Text} (hnone : get? jobId s.registry.tokens = none) (h : Held s)
    {run : Nat} {live : LiveRun} (hlive : s.live run = some live) :
    get? live.jobId (s.registry.newToken jobId).tokens = some live.ref := by
  have htoken := h.token run live hlive
  have hne : jobId ≠ live.jobId := by
    rintro rfl
    rw [hnone] at htoken
    cases htoken
  rw [TokenRegistry.newToken, get?_set_ne hne, htoken]

theorem held_start {run : Nat} {jobId : Text} (h : Held s) : Held (s.start run jobId) := by
  have hself : get? jobId (s.registry.register jobId).2.tokens =
      some (s.registry.register jobId).1 := by
    rw [TokenRegistry.register]
    split
    · next ref href => exact href
    · exact get?_set_self _ _ _
  have hkept : ∀ other live, s.live other = some live →
      get? live.jobId (s.registry.register jobId).2.tokens = some live.ref := by
    intro other live hlive
    rw [TokenRegistry.register]
    split
    · exact h.token other live hlive
    · next hnone => exact get?_newToken hnone h hlive
  refine ⟨h.wellFormed.register, fun other live hlive => ?_⟩
  rw [RunsState.live_start] at hlive
  split at hlive
  · obtain rfl := Option.some.inj hlive
    exact hself
  · exact hkept other live hlive

theorem held_finish {run : Nat} {live : LiveRun} (h : Held s) (hlive : s.live run = some live)
    (halone : Alone s run) : Held (s.finish run live.jobId) := by
  refine ⟨h.wellFormed.discard, fun other live' hother => ?_⟩
  rw [RunsState.live_finish] at hother
  split at hother
  · cases hother
  · next hrun =>
    have hne :
        live.jobId ≠ live'.jobId := fun heq => hrun (halone live hlive other live' hother heq.symm)
    rw [RunsState.finish, TokenRegistry.discard, get?_erase_ne hne]
    exact h.token other live' hother

theorem held_cancel {jobId reasonCode : Text} (h : Held s) : Held (s.cancel jobId reasonCode) := by
  refine ⟨h.wellFormed.cancel reasonCode, fun run live hlive => ?_⟩
  rw [RunsState.cancel, TokenRegistry.cancel]
  split
  · exact h.token run live hlive
  · next hnone =>
    split
    · exact h.token run live hlive
    · exact get?_newToken hnone h hlive

theorem held_step {action : Action} (h : Held s)
    (halone : ∀ run, action = .finish run → Alone s run) : Held (s.step action) := by
  cases action with
  | start run jobId =>
    rw [RunsState.step]
    split
    · exact h
    · exact held_start h
  | finish run =>
    rw [RunsState.step]
    split
    · next live hlive => exact held_finish h hlive (halone run rfl)
    · exact h
  | cancel jobId reasonCode => exact held_cancel h

end Invariant

section Runs

/-- A run that ends while another of its job is live takes the token from the registry:
a cancel request is refused until someone registers the job again. -/
theorem cancel_lost_of_not_alone {s : RunsState} {run : Nat} (h : ¬ Alone s run) :
    ¬ NoCancelLost (s.step (.finish run)) := by
  intro hkept
  apply h
  intro live hlive other live' hother hjob
  by_contra hne
  have hstep : s.step (.finish run) = s.finish run live.jobId := by
    rw [RunsState.step, hlive]
  rw [hstep] at hkept
  have hlive' : (s.finish run live.jobId).live other = some live' := by
    rw [RunsState.live_finish, if_neg hne, hother]
  obtain ⟨haccepted, -⟩ := hkept other live' hlive' []
  have hrefused : (s.registry.discard live.jobId).cancel live.jobId [] =
      (false, s.registry.discard live.jobId) := by
    rw [TokenRegistry.cancel, TokenRegistry.discard, get?_erase_self]
    simp
  rw [hjob, RunsState.finish, hrefused] at haccepted
  cases haccepted

/-- Along a run of the service no cancel is lost exactly when every run that ends is the
only live one of its job. -/
theorem no_cancel_lost_iff (actions : List Action) :
    (∀ pre, pre <+: actions → NoCancelLost (reached pre)) ↔
      ∀ pre run post, actions = pre ++ .finish run :: post → Alone (reached pre) run := by
  constructor
  · rintro hkept pre run post rfl
    by_contra hshared
    apply cancel_lost_of_not_alone hshared
    rw [← reached_concat]
    apply hkept
    exact ⟨post, by rw [List.append_assoc, List.singleton_append]⟩
  · rintro halone pre ⟨rest, rfl⟩
    apply noCancelLost_of_held
    apply after_invariant_along
    · exact ⟨TokenRegistry.wellFormed_empty, fun run live hlive => by cases hlive⟩
    · rintro pre' action post rfl hheld
      apply held_step hheld
      rintro run rfl
      exact halone pre' run (post ++ rest) (by rw [List.append_assoc, List.cons_append])

def resentJob : List Action :=
  [.start 0 "job".toList, .start 1 "job".toList, .finish 0]

/-- A request that is sent again shares the token of the first; the first to end
leaves the other beyond cancelling. -/
theorem resent_job_loses_cancel :
    ¬ ∀ actions : List Action, ∀ pre, pre <+: actions → NoCancelLost (reached pre) := by
  intro h
  have hlive : (reached resentJob).live 1 = some ⟨"job".toList, 0⟩ := rfl
  obtain ⟨haccepted, -⟩ := h resentJob resentJob List.prefix_rfl 1 _ hlive []
  exact absurd haccepted (by decide)

end Runs

end DataForge.Orchestration.OverlappingRuns
