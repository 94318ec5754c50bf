import DataForge.Foundation.Outcome
import Mathlib.Logic.Basic

namespace DataForge.Foundation.Runs

open DataForge.Foundation.Outcome

variable {ι ε σ α : Type} (step : ι → Effect ε σ α)

/-- The calls of a run with their results, and the state after the last of them. -/
def runAll : List ι → σ → List (ι × Except ε α) × σ
  | [], s => ([], s)
  | call :: calls, s =>
    let (r, t) := (step call).run s
    let (rs, u) := runAll calls t
    ((call, r) :: rs, u)

def trace (calls : List ι) (s : σ) : List (ι × Except ε α) := (runAll step calls s).1

def after (calls : List ι) (s : σ) : σ := (runAll step calls s).2

@[simp] theorem after_nil (s : σ) : after step [] s = s := rfl

@[simp] theorem after_cons (call : ι) (calls : List ι) (s : σ) :
    after step (call :: calls) s = after step calls ((step call).run s).2 := rfl

theorem trace_cons (call : ι) (calls : List ι) (s : σ) :
    trace step (call :: calls) s =
      (call, ((step call).run s).1) :: trace step calls ((step call).run s).2 := rfl

theorem after_append (pre post : List ι) (s : σ) :
    after step (pre ++ post) s = after step post (after step pre s) := by
  induction pre generalizing s with
  | nil => rfl
  | cons call pre ih => simp [ih]

theorem trace_append (pre post : List ι) (s : σ) :
    trace step (pre ++ post) s = trace step pre s ++ trace step post (after step pre s) := by
  induction pre generalizing s with
  | nil => rfl
  | cons call pre ih =>
    rw [List.cons_append, trace_cons, trace_cons, ih, after_cons, List.cons_append]

/-- Every result of a run is the result of its call in the state the earlier
calls left. -/
theorem mem_trace {calls : List ι} {s : σ} {call : ι} {r : Except ε α}
    (h : (call, r) ∈ trace step calls s) :
    ∃ pre post, calls = pre ++ call :: post ∧ ((step call).run (after step pre s)).1 = r := by
  induction calls generalizing s with
  | nil => simp [trace, runAll] at h
  | cons first calls ih =>
    rw [trace_cons] at h
    rcases List.mem_cons.mp h with h | h
    · obtain ⟨rfl, rfl⟩ := Prod.mk.injEq _ _ _ _ ▸ h
      exact ⟨[], calls, rfl, rfl⟩
    · obtain ⟨pre, post, rfl, hr⟩ := ih h
      exact ⟨first :: pre, post, rfl, hr⟩

/-- What every call preserves, a run preserves. -/
theorem after_invariant {P : σ → Prop} {calls : List ι} {s : σ} (hs : P s)
    (hstep : ∀ call ∈ calls, ∀ t, P t → P ((step call).run t).2) : P (after step calls s) := by
  induction calls generalizing s with
  | nil => exact hs
  | cons call calls ih =>
    exact ih (hstep call (by simp) s hs) fun c hc => hstep c (by simp [hc])

/-- The same along a run: a call has to preserve it only in the state that the run has
reached by then. -/
theorem after_invariant_along {P : σ → Prop} {calls : List ι} {s : σ} (hs : P s)
    (hstep : ∀ pre call post, calls = pre ++ call :: post → P (after step pre s) →
      P ((step call).run (after step pre s)).2) : P (after step calls s) := by
  induction calls generalizing s with
  | nil => exact hs
  | cons call calls ih =>
    refine ih (hstep [] call calls rfl hs) fun pre next post heq hpre => ?_
    exact hstep (call :: pre) next post (by rw [heq, List.cons_append]) hpre

end DataForge.Foundation.Runs

namespace DataForge.Foundation.Loops

variable {σ : Type} {continues : σ → Prop} {body : σ → σ}

/-- A loop that is entered in one state is left in another. -/
inductive Loop (continues : σ → Prop) (body : σ → σ) : σ → σ → Prop
  | stop {s : σ} : ¬ continues s → Loop continues body s s
  | turn {s t : σ} : continues s → Loop continues body (body s) t → Loop continues body s t

theorem Loop.left {s t : σ} (h : Loop continues body s t) : ¬ continues t := by
  induction h with
  | stop hstop => exact hstop
  | turn _ _ ih => exact ih

/-- A loop is left in one state only. -/
theorem Loop.unique {s t u : σ} (ht : Loop continues body s t) (hu : Loop continues body s u) :
    t = u := by
  induction ht with
  | stop hstop =>
    cases hu with
    | stop _ => rfl
    | turn hturn _ => exact absurd hturn hstop
  | turn hturn _ ih =>
    cases hu with
    | stop hstop => exact absurd hturn hstop
    | turn _ hrest => exact ih hrest

theorem Loop.invariant {I : σ → Prop} {s t : σ} (h : Loop continues body s t) (hs : I s)
    (hstep : ∀ u, continues u → I u → I (body u)) : I t := by
  induction h with
  | stop _ => exact hs
  | turn hturn _ ih => exact ih (hstep _ hturn hs)

variable [DecidablePred continues]

/-- A loop that is given up after some turns. -/
def turns (continues : σ → Prop) [DecidablePred continues] (body : σ → σ) : Nat → σ → σ
  | 0, s => s
  | n + 1, s => if continues s then turns continues body n (body s) else s

/-- Where every turn lowers a measure, that many turns are enough. -/
theorem loop_turns (measure : σ → Nat) (hstep : ∀ s, continues s → measure (body s) < measure s)
    {n : Nat} {s : σ} (hn : measure s ≤ n) : Loop continues body s (turns continues body n s) := by
  induction n generalizing s with
  | zero =>
    refine .stop fun hturn => ?_
    have hlt := hstep s hturn
    omega
  | succ n ih =>
    rw [turns]
    by_cases hturn : continues s
    · rw [if_pos hturn]
      have hlt := hstep s hturn
      exact .turn hturn (ih (by omega))
    · rw [if_neg hturn]
      exact .stop hturn

end DataForge.Foundation.Loops
