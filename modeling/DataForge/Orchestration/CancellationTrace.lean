import Mathlib.Data.List.Induction
import DataForge.Orchestration.TokenObjects

namespace DataForge.Orchestration.CancellationTrace

open DataForge.Foundation.Strings
open DataForge.Foundation.Dictionary
open DataForge.Foundation.Outcome
open DataForge.Foundation.Runs
open DataForge.Orchestration.Cancellation
open DataForge.Orchestration.TokenObjects

inductive RegistryCall where
  | register (jobId : Text)
  | cancel (jobId reasonCode : Text)
  | discard (jobId : Text)
deriving DecidableEq

inductive Answer where
  | token (ref : Nat)
  | accepted (accepted : Bool)
  | done

def RegistryCall.jobId : RegistryCall → Text
  | .register jobId | .cancel jobId _ | .discard jobId => jobId

def RegistryCall.onEntry (entry : Entry) : RegistryCall → Entry
  | .register _ => entry.register
  | .cancel _ reasonCode => entry.cancel reasonCode
  | .discard _ => .discarded

def perform : RegistryCall → Effect Empty TokenRegistry Answer
  | .register jobId => fun s => (.ok (.token (s.register jobId).1), (s.register jobId).2)
  | .cancel jobId reasonCode => fun s =>
    (.ok (.accepted (s.cancel jobId reasonCode).1), (s.cancel jobId reasonCode).2)
  | .discard jobId => fun s => (.ok .done, s.discard jobId)

/-- The registry after some calls on an empty one. -/
abbrev reached (calls : List RegistryCall) : TokenRegistry := after perform calls .empty

theorem wellFormed_perform {s : TokenRegistry} (h : s.WellFormed) (call : RegistryCall) :
    ((perform call).run s).2.WellFormed := by
  cases call with
  | register jobId => exact h.register
  | cancel jobId reasonCode => exact h.cancel reasonCode
  | discard jobId => exact h.discard

theorem wellFormed_reached (calls : List RegistryCall) : (reached calls).WellFormed :=
  after_invariant perform TokenRegistry.wellFormed_empty fun call _ _ ht =>
    wellFormed_perform ht call

theorem entry_perform {s : TokenRegistry} (h : s.WellFormed) (call : RegistryCall) (j : Text) :
    ((perform call).run s).2.entry j =
      if call.jobId = j then call.onEntry (s.entry j) else s.entry j := by
  cases call with
  | register jobId => exact TokenRegistry.entry_register h j
  | cancel jobId reasonCode => exact TokenRegistry.entry_cancel h reasonCode j
  | discard jobId => exact TokenRegistry.entry_discard j

theorem reached_concat (calls : List RegistryCall) (call : RegistryCall) :
    reached (calls ++ [call]) = ((perform call).run (reached calls)).2 := by
  rw [reached, after_append, after_cons, after_nil]

theorem entry_concat (calls : List RegistryCall) (call : RegistryCall) (j : Text) :
    (reached (calls ++ [call])).entry j =
      if call.jobId = j then call.onEntry ((reached calls).entry j)
      else (reached calls).entry j := by
  rw [reached_concat, entry_perform (wellFormed_reached calls)]

section Refinement

/-- The same call on the registry of values. -/
def RegistryCall.onValues (values : CancellationRegistry) : RegistryCall → CancellationRegistry
  | .register jobId => values.register jobId
  | .cancel jobId reasonCode => values.cancel jobId reasonCode
  | .discard jobId => values.discard jobId

/-- Each call keeps the registry of objects and the registry of values in step. -/
theorem represents_perform {s : TokenRegistry} {values : CancellationRegistry} (h : s.WellFormed)
    (hrepresents : s.Represents values) (call : RegistryCall) :
    ((perform call).run s).2.Represents (call.onValues values) := by
  intro j
  rw [entry_perform h, hrepresents j]
  cases call with
  | register jobId => exact (CancellationRegistry.entry_register j).symm
  | cancel jobId reasonCode => exact (CancellationRegistry.entry_cancel reasonCode j).symm
  | discard jobId => exact (CancellationRegistry.entry_discard j).symm

theorem represents_reached (calls : List RegistryCall) :
    (reached calls).Represents (calls.foldl RegistryCall.onValues .empty) := by
  induction calls using List.reverseRecOn with
  | nil => exact fun _ => rfl
  | append_singleton calls call ih =>
    rw [reached_concat, List.foldl_append]
    exact represents_perform (wellFormed_reached calls) ih call

end Refinement

section Law

variable (j : Text)

/-- The last registration or discarding of the job. -/
def lastLifecycle (calls : List RegistryCall) : Option RegistryCall :=
  (calls.filter fun call => call = .register j ∨ call = .discard j).getLast?

/-- An accepted cancellation of the job that no discarding followed. -/
def Triggered (calls : List RegistryCall) : Prop :=
  ∃ pre reasonCode post, calls = pre ++ .cancel j reasonCode :: post ∧
    ((reached pre).cancel j reasonCode).1 = true ∧ RegistryCall.discard j ∉ post

variable {j}

theorem lastLifecycle_concat (calls : List RegistryCall) (call : RegistryCall) :
    lastLifecycle j (calls ++ [call]) =
      if call = .register j ∨ call = .discard j then some call else lastLifecycle j calls := by
  rw [lastLifecycle, List.filter_append]
  by_cases h : call = .register j ∨ call = .discard j
  · simp [h]
  · simp [h, lastLifecycle]

theorem triggered_concat (calls : List RegistryCall) (call : RegistryCall) :
    Triggered j (calls ++ [call]) ↔
      (∃ reasonCode, call = .cancel j reasonCode ∧ ((reached calls).cancel j reasonCode).1 = true) ∨
        call ≠ .discard j ∧ Triggered j calls := by
  constructor
  · rintro ⟨pre, reasonCode, post, heq, haccepted, hpost⟩
    obtain rfl | ⟨post, last, rfl⟩ := List.eq_nil_or_concat' post
    · obtain ⟨rfl, hcall⟩ := List.append_inj' heq rfl
      exact Or.inl ⟨reasonCode, List.singleton_inj.mp hcall, haccepted⟩
    · rw [← List.cons_append, ← List.append_assoc] at heq
      obtain ⟨rfl, hcall⟩ := List.append_inj' heq rfl
      obtain rfl := List.singleton_inj.mp hcall
      rw [List.mem_append, not_or, List.mem_singleton] at hpost
      exact Or.inr ⟨Ne.symm hpost.2, pre, reasonCode, post, rfl, haccepted, hpost.1⟩
  · rintro (⟨reasonCode, rfl, haccepted⟩ | ⟨hne, pre, reasonCode, post, rfl, haccepted, hpost⟩)
    · exact ⟨calls, reasonCode, [], rfl, haccepted, List.not_mem_nil⟩
    · exact ⟨pre, reasonCode, post ++ [call], by simp, haccepted, by simp [hpost, Ne.symm hne]⟩

/-- A job is marked as discarded exactly from its last discarding on, and has no token then. -/
theorem discarded_iff (calls : List RegistryCall) :
    (((reached calls).entry j).2 = true ↔ lastLifecycle j calls = some (.discard j)) ∧
      (((reached calls).entry j).2 = true → ((reached calls).entry j).1 = none) := by
  induction calls using List.reverseRecOn with
  | nil => exact ⟨by simp [lastLifecycle, TokenRegistry.entry, TokenRegistry.empty], fun _ => rfl⟩
  | append_singleton calls call ih =>
    rw [entry_concat, lastLifecycle_concat]
    by_cases hj : call.jobId = j
    · rw [if_pos hj]
      cases call with
      | register jobId =>
        obtain rfl : jobId = j := hj
        simp [RegistryCall.onEntry, Entry.register]
      | cancel jobId reasonCode =>
        obtain rfl : jobId = j := hj
        rw [if_neg (by simp), RegistryCall.onEntry, Entry.snd_cancel]
        exact ⟨ih.1, fun hd => Entry.fst_cancel (ih.2 hd) hd reasonCode⟩
      | discard jobId =>
        obtain rfl : jobId = j := hj
        simp [RegistryCall.onEntry, Entry.discarded]
    · have hneither : ¬(call = .register j ∨ call = .discard j) := by
        rintro (rfl | rfl) <;> exact hj rfl
      rw [if_neg hj, if_neg hneither]
      exact ih

theorem accepts_reached (calls : List RegistryCall) :
    ((reached calls).entry j).accepts = !((reached calls).entry j).2 := by
  have h := (discarded_iff (j := j) calls).2
  cases hd : ((reached calls).entry j).2 with
  | true => simp [Entry.accepts, hd, h hd]
  | false => simp [Entry.accepts, hd]

theorem isCancelled_iff (calls : List RegistryCall) :
    (reached calls).isCancelled j = true ↔ Triggered j calls := by
  induction calls using List.reverseRecOn with
  | nil =>
    simp [TokenRegistry.isCancelled, TokenRegistry.empty, Triggered]
  | append_singleton calls call ih =>
    rw [triggered_concat, ← ih, TokenRegistry.isCancelled_eq, TokenRegistry.isCancelled_eq,
      entry_concat]
    by_cases hj : call.jobId = j
    · rw [if_pos hj]
      cases call with
      | register jobId =>
        obtain rfl : jobId = j := hj
        rw [RegistryCall.onEntry, Entry.isCancelled_register]
        simp
      | cancel jobId reasonCode =>
        obtain rfl : jobId = j := hj
        rw [RegistryCall.onEntry, Entry.isCancelled_cancel]
        simp [TokenRegistry.cancel_fst]
      | discard jobId =>
        obtain rfl : jobId = j := hj
        simp [RegistryCall.onEntry, Entry.discarded, Entry.isCancelled]
    · have hne : call ≠ .discard j := fun h => hj (h ▸ rfl)
      have hcancel (reasonCode : Text) : call ≠ .cancel j reasonCode := fun h => hj (h ▸ rfl)
      simp [hj, hne, hcancel]

theorem length_reached (pre post : List RegistryCall) :
    (reached pre).objects.length ≤ (reached (pre ++ post)).objects.length := by
  induction post using List.reverseRecOn with
  | nil => rw [List.append_nil]
  | append_singleton post call ih =>
    rw [← List.append_assoc, reached_concat]
    cases call with
    | register jobId => exact ih.trans TokenRegistry.length_register
    | cancel jobId reasonCode => exact ih.trans (TokenRegistry.length_cancel reasonCode)
    | discard jobId => exact ih

/-- A token that was handed out earlier is not the one that a new object gets. -/
theorem handed_out_lt (pre : List RegistryCall) (i : Text) (post : List RegistryCall) :
    ((reached pre).register i).1 < (reached (pre ++ .register i :: post)).objects.length := by
  have hlt : ((reached pre).register i).1 < ((reached pre).register i).2.objects.length :=
    TokenRegistry.register_lt (wellFormed_reached pre)
  have hle := length_reached (pre ++ [.register i]) post
  rw [reached_concat, List.append_assoc, List.singleton_append] at hle
  exact lt_of_lt_of_le hlt hle

variable (j) in
/-- The law of the registry, after any calls on an empty one: when a job is cancelled,
when a cancellation is refused, which token a registration hands out, and that the
calls for one job do not show for another. -/
theorem cancellation_trace (calls : List RegistryCall) :
    ((reached calls).isCancelled j = true ↔ Triggered j calls) ∧
    (∀ reasonCode, ((reached calls).cancel j reasonCode).1 = false ↔
      lastLifecycle j calls = some (.discard j)) ∧
    (((reached calls).register j).2.object ((reached calls).register j).1).cancelled =
      (reached calls).isCancelled j ∧
    (lastLifecycle j calls = some (.discard j) →
      ((reached calls).register j).2.object ((reached calls).register j).1 = .fresh ∧
      ∀ pre i post, calls = pre ++ .register i :: post →
        ((reached pre).register i).1 ≠ ((reached calls).register j).1) ∧
    ∀ call : RegistryCall, call.jobId ≠ j →
      (reached (calls ++ [call])).observed j = (reached calls).observed j := by
  refine ⟨isCancelled_iff calls, fun reasonCode => ?_, ?_, fun hlast => ⟨?_, ?_⟩, fun call hj => ?_⟩
  · rw [TokenRegistry.cancel_fst, accepts_reached, ← (discarded_iff calls).1]
    simp
  · rw [TokenRegistry.object_register, TokenRegistry.isCancelled_eq]
    rw [Entry.isCancelled]
    cases ((reached calls).entry j).1 <;> rfl
  · have hnone := (discarded_iff calls).2 ((discarded_iff calls).1.mpr hlast)
    rw [TokenRegistry.object_register, hnone, Option.getD_none]
  · rintro pre i post rfl
    have hnone := (discarded_iff _).2 ((discarded_iff _).1.mpr hlast)
    rw [TokenRegistry.register_of_none hnone]
    exact (handed_out_lt pre i post).ne
  · rw [TokenRegistry.observed_eq, TokenRegistry.observed_eq, entry_concat, if_neg hj]

end Law

end DataForge.Orchestration.CancellationTrace
