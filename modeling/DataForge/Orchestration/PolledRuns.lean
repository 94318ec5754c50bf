import DataForge.Domain.Artifact
import DataForge.Orchestration.OverlappingRuns
import DataForge.Orchestration.StatusBridge

namespace DataForge.Orchestration.PolledRuns

open DataForge.Foundation.Strings
open DataForge.Foundation.Outcome
open DataForge.Foundation.Runs
open DataForge.Orchestration.Cancellation
open DataForge.Orchestration.TokenObjects
open DataForge.Orchestration.StatusBridge
open DataForge.Orchestration.OverlappingRuns (RunsState LiveRun Held Alone held_step)

section System

/-- A launcher as the service sees it: what it does with the token that it holds, the
events it has recorded, and whether it has returned or raised. -/
structure Launcher (ρ α : Type) where
  act : CancellationToken → α → ρ → ρ
  events : ρ → List JobEvent
  finished : ρ → Bool

/-- One run of the service, among all others. -/
structure Session (ρ : Type) where
  service : RunsState
  run : ρ

inductive Move (α : Type) where
  | call (action : OverlappingRuns.Action)
  | act (move : α)

variable {ρ α : Type} (launcher : Launcher ρ α) (me : Nat) (jobId : Text)

/-- The request registers its own job, and discards it once its launcher is done. -/
def Permitted (s : Session ρ) : OverlappingRuns.Action → Prop
  | .start run job => run = me → job = jobId
  | .finish run => run = me → launcher.finished s.run = true
  | .cancel _ _ => True

instance (s : Session ρ) (action : OverlappingRuns.Action) :
    Decidable (Permitted launcher me jobId s action) := by
  cases action <;> unfold Permitted <;> infer_instance

def Session.step (s : Session ρ) : Move α → Session ρ
  | .call action =>
    if Permitted launcher me jobId s action then { s with service := s.service.step action } else s
  | .act move =>
    match s.service.live me with
    | some live => { s with run := launcher.act (s.service.registry.object live.ref) move s.run }
    | none => s

def perform (move : Move α) : Effect Empty (Session ρ) Unit :=
  fun s => (.ok (), s.step launcher me jobId move)

/-- The session after some moves, from a service without any runs. -/
abbrev reached (run : ρ) (moves : List (Move α)) : Session ρ :=
  after (perform launcher me jobId) moves ⟨⟨.empty, fun _ => none⟩, run⟩

end System

section Runs

variable {ρ α : Type} {launcher : Launcher ρ α} {me : Nat} {jobId : Text}

/-- What every act of the launcher preserves holds of the run in every session. -/
theorem run_invariant {P : ρ → Prop} {run : ρ} (hrun : P run)
    (hact : ∀ token move run, P run → P (launcher.act token move run)) (moves : List (Move α)) :
    P (reached launcher me jobId run moves).run := by
  apply after_invariant (P := fun s : Session ρ => P s.run) _ hrun
  intro move _ s hs
  cases move with
  | call action =>
    show P (if _ then _ else _ : Session ρ).run
    split <;> exact hs
  | act move =>
    show P (s.step launcher me jobId (.act move)).run
    rw [Session.step]
    split
    · exact hact _ move s.run hs
    · exact hs

/-- Left alone by the service, a launcher goes on with the token that it holds. -/
theorem run_acts {s : Session ρ} {live : LiveRun} (hlive : s.service.live me = some live)
    (moves : List α) :
    (after (perform launcher me jobId) (moves.map .act) s).run =
      moves.foldl (fun run move => launcher.act (s.service.registry.object live.ref) move run)
        s.run := by
  induction moves generalizing s with
  | nil => rfl
  | cons move moves ih =>
    have hstep : s.step launcher me jobId (.act move) =
        { s with run := launcher.act (s.service.registry.object live.ref) move s.run } := by
      rw [Session.step, hlive]
    have hperform : ((perform launcher me jobId (.act move)).run s).2 =
        s.step launcher me jobId (.act move) := rfl
    rw [List.map_cons, after_cons, List.foldl_cons, hperform, hstep]
    exact ih (s := { s with run := launcher.act (s.service.registry.object live.ref) move s.run })
      hlive

end Runs

section Property

variable {ρ α : Type} (launcher : Launcher ρ α) (me : Nat) (jobId : Text)

def Uncompleted (run : ρ) : Prop := ∀ e ∈ launcher.events run, e.status ≠ .completed

/-- A cancel request of now is accepted while the run is registered and has not completed. -/
structure Acknowledged (s : Session ρ) (reasonCode : Text) : Prop where
  live : (s.service.live me).isSome = true
  accepted : (s.service.registry.cancel jobId reasonCode).1 = true
  uncompleted : Uncompleted launcher s.run

/-- No run that has ended so far shared its job with another that was live. -/
def EndedAlone (run : ρ) (moves : List (Move α)) : Prop :=
  ∀ pre other post, moves = pre ++ .call (.finish other) :: post →
    Alone (reached launcher me jobId run pre).service other

/-- How a launcher answers to a cancelled token: while it is still to look at it, it
completes nothing, and a launcher that is done stays so. -/
structure Heeds (LooksAhead : ρ → Prop) : Prop where
  act : ∀ token move run, token.cancelled = true → LooksAhead run →
    LooksAhead (launcher.act token move run) ∧
      (Uncompleted launcher run → Uncompleted launcher (launcher.act token move run))
  done : ∀ token move run, launcher.finished run = true →
    launcher.finished (launcher.act token move run) = true ∧
      launcher.events (launcher.act token move run) = launcher.events run

end Property

section Registered

variable {ρ α : Type} {launcher : Launcher ρ α} {me : Nat} {jobId : Text} {s : Session ρ}

/-- The run holds the token under which the registry knows its job. -/
structure Registered (me : Nat) (jobId : Text) (s : Session ρ) : Prop where
  held : Held s.service
  job : ∀ live, s.service.live me = some live → live.jobId = jobId

theorem job_step (h : ∀ live, s.service.live me = some live → live.jobId = jobId)
    {action : OverlappingRuns.Action} (hpermitted : Permitted launcher me jobId s action)
    {live : LiveRun}
    (hlive : (s.service.step action).live me = some live) : live.jobId = jobId := by
  cases action with
  | start run job =>
    rw [RunsState.step] at hlive
    split at hlive
    · exact h live hlive
    · rw [RunsState.live_start] at hlive
      split at hlive
      · next hme =>
        obtain rfl := Option.some.inj hlive
        exact hpermitted hme.symm
      · exact h live hlive
  | finish run =>
    rw [RunsState.step] at hlive
    split at hlive
    · rw [RunsState.live_finish] at hlive
      split at hlive
      · cases hlive
      · exact h live hlive
    · exact h live hlive
  | cancel job reasonCode => exact h live hlive

theorem registered_step (h : Registered me jobId s) {move : Move α}
    (halone : ∀ run, move = .call (.finish run) → Alone s.service run) :
    Registered me jobId (s.step launcher me jobId move) := by
  cases move with
  | call action =>
    rw [Session.step]
    split
    · next hpermitted =>
      refine ⟨held_step h.held fun run hrun => halone run (by rw [hrun]), fun live hlive => ?_⟩
      exact job_step h.job hpermitted hlive
    · exact h
  | act move =>
    rw [Session.step]
    split
    · exact ⟨h.held, h.job⟩
    · exact h

theorem registered_reached {run : ρ} {moves : List (Move α)}
    (halone : EndedAlone launcher me jobId run moves) :
    Registered me jobId (reached launcher me jobId run moves) := by
  apply after_invariant_along
  · exact ⟨⟨TokenRegistry.wellFormed_empty, fun _ _ h => by cases h⟩, fun _ h => by cases h⟩
  · rintro pre move post heq hregistered
    apply registered_step hregistered
    rintro other rfl
    exact halone pre other post heq

end Registered

section Wins

variable {ρ α : Type} {launcher : Launcher ρ α} {me : Nat} {jobId : Text} {s : Session ρ}
  {LooksAhead : ρ → Prop}

/-- The token that the run holds is cancelled. -/
def Triggered (me : Nat) (s : Session ρ) : Prop :=
  ∃ live, s.service.live me = some live ∧ (s.service.registry.object live.ref).cancelled = true

variable (launcher me LooksAhead) in
/-- The cancellation has won: the run is done, or its launcher will still see it. -/
structure Won (s : Session ρ) : Prop where
  uncompleted : Uncompleted launcher s.run
  sees : launcher.finished s.run = true ∨ LooksAhead s.run ∧ Triggered me s

/-- The service takes the token from a run only when it is done. -/
theorem triggered_step (h : Triggered me s) {action : OverlappingRuns.Action}
    (hpermitted : Permitted launcher me jobId s action) :
    launcher.finished s.run = true ∨ Triggered me { s with service := s.service.step action } := by
  obtain ⟨live, hlive, hcancelled⟩ := h
  cases action with
  | start run job =>
    refine .inr ⟨live, ?_, ?_⟩
    · rw [RunsState.step]
      split
      · exact hlive
      · next hnone =>
        have hne : me ≠ run := by
          rintro rfl
          rw [hlive] at hnone
          cases hnone
        rw [RunsState.live_start, if_neg hne, hlive]
    · rw [RunsState.step]
      split
      · exact hcancelled
      · exact TokenRegistry.cancelled_register hcancelled
  | finish run =>
    by_cases hme : run = me
    · exact .inl (hpermitted hme)
    · refine .inr ⟨live, ?_, ?_⟩
      · rw [RunsState.step]
        split
        · rw [RunsState.live_finish, if_neg (Ne.symm hme), hlive]
        · exact hlive
      · rw [RunsState.step]
        split <;> exact hcancelled
  | cancel job reasonCode =>
    exact .inr ⟨live, hlive, TokenRegistry.cancelled_cancel hcancelled reasonCode⟩

theorem won_step (hheeds : Heeds launcher LooksAhead) (h : Won launcher me LooksAhead s)
    (move : Move α) : Won launcher me LooksAhead (s.step launcher me jobId move) := by
  cases move with
  | call action =>
    rw [Session.step]
    split
    · next hpermitted =>
      refine ⟨h.uncompleted, ?_⟩
      obtain hdone | ⟨hahead, htriggered⟩ := h.sees
      · exact .inl hdone
      · exact (triggered_step htriggered hpermitted).imp_right fun hkept => ⟨hahead, hkept⟩
    · exact h
  | act move =>
    rw [Session.step]
    split
    · next live hlive =>
      obtain hdone | ⟨hahead, live', hlive', hcancelled⟩ := h.sees
      · obtain ⟨hfinished, hevents⟩ :=
          hheeds.done (s.service.registry.object live.ref) move s.run hdone
        refine ⟨fun e he => h.uncompleted e (hevents ▸ he), .inl hfinished⟩
      · obtain rfl := Option.some.inj (hlive'.symm.trans hlive)
        obtain ⟨hahead', huncompleted⟩ := hheeds.act _ move s.run hcancelled hahead
        exact ⟨huncompleted h.uncompleted, .inr ⟨hahead', live', hlive, hcancelled⟩⟩
    · exact h

/-- An accepted cancel request triggers the token that the run holds. -/
theorem triggered_cancel (h : Registered me jobId s) (hlive : (s.service.live me).isSome = true)
    (reasonCode : Text) :
    Triggered me (s.step launcher me jobId (.call (.cancel jobId reasonCode))) := by
  obtain ⟨live, hlive⟩ := Option.isSome_iff_exists.mp hlive
  obtain rfl := h.job live hlive
  have hcancelled := (OverlappingRuns.noCancelLost_of_held h.held me live hlive reasonCode).2
  exact ⟨live, hlive, hcancelled⟩

theorem reached_cancel (run : ρ) (pre : List (Move α)) (reasonCode : Text) (post : List (Move α)) :
    reached launcher me jobId run (pre ++ .call (.cancel jobId reasonCode) :: post) =
      after (perform launcher me jobId) post
        ((reached launcher me jobId run pre).step launcher me jobId
          (.call (.cancel jobId reasonCode))) := by
  rw [reached, after_append, after_cons]
  rfl

/-- An acknowledged cancel request wins against a run that still is to look at its token. -/
theorem uncompleted_of_acknowledged (hheeds : Heeds launcher LooksAhead) {run : ρ}
    {pre : List (Move α)} (halone : EndedAlone launcher me jobId run pre) {reasonCode : Text}
    (hacknowledged : Acknowledged launcher me jobId (reached launcher me jobId run pre) reasonCode)
    (hahead : LooksAhead (reached launcher me jobId run pre).run) (post : List (Move α)) :
    Uncompleted launcher
      (reached launcher me jobId run (pre ++ .call (.cancel jobId reasonCode) :: post)).run := by
  have hregistered := registered_reached halone
  have hwon : Won launcher me LooksAhead
      ((reached launcher me jobId run pre).step launcher me jobId
        (.call (.cancel jobId reasonCode))) :=
    ⟨hacknowledged.uncompleted,
      .inr ⟨hahead, triggered_cancel hregistered hacknowledged.live reasonCode⟩⟩
  rw [reached_cancel]
  exact (after_invariant (perform launcher me jobId) hwon fun move _ t ht => won_step hheeds ht
    move).uncompleted

/-- It loses where the launcher can go on to completion whatever its token says. -/
theorem completed_of_acknowledged {run : ρ} {pre : List (Move α)} {reasonCode : Text}
    (hacknowledged : Acknowledged launcher me jobId (reached launcher me jobId run pre) reasonCode)
    {moves : List α}
    (hcompletes : ∀ token, ¬ Uncompleted launcher
      (moves.foldl (fun run move => launcher.act token move run)
        (reached launcher me jobId run pre).run)) :
    ∃ post, ¬ Uncompleted launcher
      (reached launcher me jobId run (pre ++ .call (.cancel jobId reasonCode) :: post)).run := by
  obtain ⟨live, hlive⟩ := Option.isSome_iff_exists.mp hacknowledged.live
  refine ⟨moves.map .act, ?_⟩
  have hlive' : ((reached launcher me jobId run pre).step launcher me jobId
      (.call (.cancel jobId reasonCode))).service.live me = some live := hlive
  rw [reached_cancel, run_acts hlive']
  exact hcompletes _

end Wins

end DataForge.Orchestration.PolledRuns
