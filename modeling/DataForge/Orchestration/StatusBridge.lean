import DataForge.Domain.Artifact
import DataForge.Orchestration.Cancellation

namespace DataForge.Orchestration.StatusBridge

open DataForge.Domain.Common
open DataForge.Domain.Artifact
open DataForge.Domain.Compute
open DataForge.Orchestration.Cancellation

inductive JobStage where
  | queued
  | ingesting
  | buildingManifest
  | validating
  | profilingTabular
  | buildingEvidence
  | runningDecisionCore
  | completed
  | failed
  | cancelled
deriving DecidableEq

/-- An event as the platform records it. Its progress is counted in hundredths. -/
structure JobEvent where
  jobId : NonEmptyStr
  stage : JobStage
  status : ComputeRunStatus
  progress : Nat
  artifactRefs : List ArtifactRef
  errorCode : Option RunFailureReason

section Emit

variable (jobId : NonEmptyStr)

def emitStarted (stage : JobStage) (progress : Nat) : JobEvent :=
  ⟨jobId, stage, if stage = .queued then .queued else .running, progress, [], none⟩

def emitStage (stage : JobStage) (progress : Nat) (artifactRefs : List ArtifactRef) : JobEvent :=
  ⟨jobId, stage, .running, progress, artifactRefs, none⟩

def emitCompleted (artifactRefs : List ArtifactRef) : JobEvent :=
  ⟨jobId, .completed, .completed, 100, artifactRefs, none⟩

def emitFailed (progress : Nat) (errorCode : RunFailureReason) : JobEvent :=
  ⟨jobId, .failed, .failed, progress, [], some errorCode⟩

def emitCancelled (progress : Nat) : JobEvent := ⟨jobId, .cancelled, .cancelled, progress, [], none⟩

end Emit

section Terminal

/-- None of the events is terminal. -/
def Quiet (events : List JobEvent) : Prop := ∀ e ∈ events, ¬ e.status.IsTerminal

/-- The last event has a status of the kind, and none before it is terminal. -/
def EndsWith (kind : ComputeRunStatus → Prop) (events : List JobEvent) : Prop :=
  ∃ before last, events = before ++ [last] ∧ Quiet before ∧ kind last.status

/-- At most one event is terminal, and it is the last one. -/
structure OneTerminal (events : List JobEvent) : Prop where
  atMostOne : (events.filter fun e => decide e.status.IsTerminal).length ≤ 1
  last : Quiet events.dropLast

variable {events : List JobEvent} {e : JobEvent}

theorem quiet_concat (h : Quiet events) (he : ¬ e.status.IsTerminal) : Quiet (events ++ [e]) := by
  intro found hfound
  obtain hold | hnew := List.mem_append.mp hfound
  · exact h found hold
  · rwa [List.mem_singleton.mp hnew]

theorem filter_quiet (h : Quiet events) :
    (events.filter fun e => decide e.status.IsTerminal) = [] := by
  apply List.filter_eq_nil_iff.mpr
  intro e he
  rw [decide_eq_true_iff]
  exact h e he

theorem oneTerminal_of_quiet (h : Quiet events) : OneTerminal events := by
  refine ⟨?_, fun e he => h e ((List.dropLast_sublist events).subset he)⟩
  rw [filter_quiet h]
  exact Nat.zero_le 1

theorem oneTerminal_of_endsWith {kind : ComputeRunStatus → Prop} (h : EndsWith kind events) :
    OneTerminal events := by
  obtain ⟨before, last, rfl, hquiet, -⟩ := h
  refine ⟨?_, ?_⟩
  · rw [List.filter_append, filter_quiet hquiet, List.nil_append]
    exact List.length_filter_le _ [last]
  · rwa [List.dropLast_concat]

/-- Events that end with a terminal one have no other status of its kind. -/
theorem status_of_endsWith {kind : ComputeRunStatus → Prop} (h : EndsWith kind events)
    (he : e ∈ events) (hterminal : e.status.IsTerminal) : kind e.status := by
  obtain ⟨before, last, rfl, hquiet, hkind⟩ := h
  obtain hbefore | hlast := List.mem_append.mp he
  · exact absurd hterminal (hquiet e hbefore)
  · rwa [List.mem_singleton.mp hlast]

end Terminal

end DataForge.Orchestration.StatusBridge
