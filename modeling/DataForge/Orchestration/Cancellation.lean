import DataForge.Domain.Artifact
import DataForge.Foundation.Dictionary

namespace DataForge.Orchestration.Cancellation

open DataForge.Foundation.Strings
open DataForge.Foundation.Dictionary
open DataForge.Domain.Common
open DataForge.Domain.Artifact

inductive RunFailureReason where
  | transientStorageError
  | dagsterWorkerRestart
  | platformCallbackTimeout
  | externalAiTimeout
  | invalidInput
  | contractValidationFailed
  | policyGateBlocked
  | approvalHashMismatch
  | internalError
deriving DecidableEq, Repr

def RunFailureReason.value : RunFailureReason → String
  | .transientStorageError => "TRANSIENT_STORAGE_ERROR"
  | .dagsterWorkerRestart => "DAGSTER_WORKER_RESTART"
  | .platformCallbackTimeout => "PLATFORM_CALLBACK_TIMEOUT"
  | .externalAiTimeout => "EXTERNAL_AI_TIMEOUT"
  | .invalidInput => "INVALID_INPUT"
  | .contractValidationFailed => "CONTRACT_VALIDATION_FAILED"
  | .policyGateBlocked => "POLICY_GATE_BLOCKED"
  | .approvalHashMismatch => "APPROVAL_HASH_MISMATCH"
  | .internalError => "INTERNAL_ERROR"

/-- The stable reason that a stage error's message is taken for. -/
def classifyFailure (p : Platform) (message : Text) : RunFailureReason :=
  let lowered := p.lower message
  let mentions (word : String) : Bool := decide (word.toList <:+: lowered)
  if mentions "timeout" && mentions "platform" then .platformCallbackTimeout
  else if mentions "timeout" && mentions "external" then .externalAiTimeout
  else if mentions "transient" || mentions "storage" && mentions "error" then .transientStorageError
  else if mentions "worker" && mentions "restart" then .dagsterWorkerRestart
  else if mentions "approval" && mentions "hash" then .approvalHashMismatch
  else if mentions "policy" && (mentions "blocked" || mentions "gate") then .policyGateBlocked
  else if mentions "contract" && (mentions "invalid" || mentions "fail") then
    .contractValidationFailed
  else if mentions "invalid" || mentions "validation" then .invalidInput
  else .internalError

structure CancellationToken where
  reasonCode : Text
  cancelled : Bool
deriving DecidableEq

def CancellationToken.fresh : CancellationToken := ⟨"platform_user_cancelled".toList, false⟩

def CancellationToken.cancel (token : CancellationToken) (reasonCode : Text) :
    CancellationToken where
  reasonCode := if reasonCode = [] then token.reasonCode else reasonCode
  cancelled := true

/-- A job's token, if it has one, and whether the job was discarded. -/
abbrev Entry := Option CancellationToken × Bool

namespace Entry

variable (entry : Entry)

def register : Entry := (some (entry.1.getD .fresh), false)

def accepts : Bool := entry.1.isSome || !entry.2

def cancel (reasonCode : Text) : Entry :=
  if entry.accepts then (some ((entry.1.getD .fresh).cancel reasonCode), entry.2) else entry

def discarded : Entry := (none, true)

def isCancelled : Bool := entry.1.elim false CancellationToken.cancelled

variable {entry}

theorem isCancelled_register : isCancelled (register entry) = isCancelled entry := by
  obtain ⟨token, discarded⟩ := entry
  cases token <;> rfl

theorem isCancelled_cancel (reasonCode : Text) :
    isCancelled (cancel entry reasonCode) = (accepts entry || isCancelled entry) := by
  rw [cancel]
  cases h : accepts entry <;> rfl

theorem snd_cancel (reasonCode : Text) : (cancel entry reasonCode).2 = entry.2 := by
  rw [cancel]
  split <;> rfl

theorem fst_cancel (hnone : entry.1 = none) (hdiscarded : entry.2 = true) (reasonCode : Text) :
    (cancel entry reasonCode).1 = none := by
  simp [cancel, accepts, hnone, hdiscarded]

end Entry

structure CancellationRegistry where
  tokens : Dict Text CancellationToken
  discarded : Text → Bool

def CancellationRegistry.empty : CancellationRegistry := ⟨[], fun _ => false⟩

namespace CancellationRegistry

variable (registry : CancellationRegistry) (jobId : Text)

/-- The token under the job's id, a fresh one unless one waits there. -/
def token : CancellationToken := (get? jobId registry.tokens).getD .fresh

def register : CancellationRegistry where
  tokens := set jobId (registry.token jobId) registry.tokens
  discarded j := if j = jobId then false else registry.discarded j

/-- Whether the request is accepted: a job that was discarded has no token left. -/
def accepts : Bool := (get? jobId registry.tokens).isSome || !registry.discarded jobId

def cancel (reasonCode : Text) : CancellationRegistry :=
  if registry.accepts jobId then
    { registry with
      tokens := set jobId ((registry.token jobId).cancel reasonCode) registry.tokens }
  else registry

def discard : CancellationRegistry where
  tokens := erase jobId registry.tokens
  discarded j := if j = jobId then true else registry.discarded j

/-- What the registry holds under one job id. -/
def entry : Entry := (get? jobId registry.tokens, registry.discarded jobId)

variable {registry jobId}

theorem entry_register (j : Text) : (registry.register jobId).entry j =
    if jobId = j then (registry.entry j).register else registry.entry j := by
  by_cases h : jobId = j
  · subst j
    simp [register, entry, token, Entry.register]
  · simp [register, entry, get?_set_ne h, h, Ne.symm h]

theorem entry_cancel (reasonCode j : Text) : (registry.cancel jobId reasonCode).entry j =
    if jobId = j then (registry.entry j).cancel reasonCode else registry.entry j := by
  by_cases h : jobId = j
  · subst j
    have haccepts : registry.accepts jobId = (registry.entry jobId).accepts := rfl
    rw [cancel, if_pos rfl, Entry.cancel, ← haccepts]
    split
    · simp [entry, token]
    · rfl
  · rw [cancel, if_neg h]
    split
    · simp [entry, get?_set_ne h]
    · rfl

theorem entry_discard (j : Text) : (registry.discard jobId).entry j =
    if jobId = j then .discarded else registry.entry j := by
  by_cases h : jobId = j
  · subst j
    simp [entry, discard, Entry.discarded]
  · simp [entry, discard, get?_erase_ne h, h, Ne.symm h]

variable {registry' : CancellationRegistry}

theorem token_eq (h : registry.entry jobId = registry'.entry jobId) :
    registry.token jobId = registry'.token jobId := by
  have htoken : get? jobId registry.tokens = get? jobId registry'.tokens := congrArg Prod.fst h
  rw [token, token, htoken]

theorem accepts_eq (h : registry.entry jobId = registry'.entry jobId) :
    registry.accepts jobId = registry'.accepts jobId := by
  have htoken : get? jobId registry.tokens = get? jobId registry'.tokens := congrArg Prod.fst h
  have hdiscarded : registry.discarded jobId = registry'.discarded jobId := congrArg Prod.snd h
  rw [accepts, accepts, htoken, hdiscarded]

end CancellationRegistry

end DataForge.Orchestration.Cancellation
