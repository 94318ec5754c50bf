import DataForge.Foundation.Runs

namespace DataForge.Foundation.Noninterference

open DataForge.Foundation.Outcome
open DataForge.Foundation.Runs

variable {ε σ α β : Type} {Agree : σ → σ → Prop}

/-- From two states that an observer cannot tell apart, the computation gives one
result and leaves two such states. -/
def Respects (Agree : σ → σ → Prop) (m : Effect ε σ α) : Prop :=
  ∀ s t, Agree s t → (m.run s).1 = (m.run t).1 ∧ Agree (m.run s).2 (m.run t).2

/-- The observer cannot tell that the computation ran. -/
def Invisible (Agree : σ → σ → Prop) (m : Effect ε σ α) : Prop :=
  ∀ s t, Agree s t → Agree (m.run s).2 t

namespace Respects

theorem pure (a : α) : Respects Agree (Pure.pure a : Effect ε σ α) := fun _ _ h => ⟨rfl, h⟩

theorem lift (x : Except ε α) : Respects Agree (Effect.lift x) := fun _ _ h => ⟨rfl, h⟩

theorem raise (e : ε) : Respects Agree (Effect.raise e : Effect ε σ α) := fun _ _ h => ⟨rfl, h⟩

theorem ensure (p : Prop) [Decidable p] (e : ε) : Respects Agree (Effect.ensure p e) := lift _

theorem modify {f : σ → σ} (hf : ∀ s t, Agree s t → Agree (f s) (f t)) :
    Respects Agree (Effect.modify f : Effect ε σ Unit) := fun s t h => ⟨rfl, hf s t h⟩

theorem bind {m : Effect ε σ α} {f : α → Effect ε σ β} (hm : Respects Agree m)
    (hf : ∀ a, Respects Agree (f a)) : Respects Agree (m >>= f) := by
  intro s t h
  obtain ⟨hr, hst⟩ := hm s t h
  cases hs : m.run s with
  | mk r s' =>
    cases ht : m.run t with
    | mk r' t' =>
      simp only [hs, ht] at hr hst
      subst hr
      cases r with
      | ok a => simpa only [Effect.run_bind_ok hs, Effect.run_bind_ok ht] using hf a s' t' hst
      | error e =>
        simpa only [Effect.run_bind_error hs, Effect.run_bind_error ht, true_and] using hst

theorem tryCatch {m : Effect ε σ α} {f : ε → Effect ε σ α} (hm : Respects Agree m)
    (hf : ∀ e, Respects Agree (f e)) : Respects Agree (Effect.tryCatch m f) := by
  intro s t h
  obtain ⟨hr, hst⟩ := hm s t h
  cases hs : m.run s with
  | mk r s' =>
    cases ht : m.run t with
    | mk r' t' =>
      simp only [hs, ht] at hr hst
      subst hr
      cases r with
      | ok a =>
        simpa only [Effect.run_tryCatch_ok hs, Effect.run_tryCatch_ok ht, true_and] using hst
      | error e =>
        simpa only [Effect.run_tryCatch_error hs, Effect.run_tryCatch_error ht] using hf e s' t' hst

theorem finallyDo {m : Effect ε σ α} {f : σ → σ} (hm : Respects Agree m)
    (hf : ∀ s t, Agree s t → Agree (f s) (f t)) : Respects Agree (Effect.finallyDo m f) :=
  fun s t h => ⟨(hm s t h).1, hf _ _ (hm s t h).2⟩

end Respects

namespace Invisible

theorem pure (a : α) : Invisible Agree (Pure.pure a : Effect ε σ α) := fun _ _ h => h

theorem lift (x : Except ε α) : Invisible Agree (Effect.lift x) := fun _ _ h => h

theorem raise (e : ε) : Invisible Agree (Effect.raise e : Effect ε σ α) := fun _ _ h => h

theorem ensure (p : Prop) [Decidable p] (e : ε) : Invisible Agree (Effect.ensure p e) := lift _

theorem modify {f : σ → σ} (hf : ∀ s t, Agree s t → Agree (f s) t) :
    Invisible Agree (Effect.modify f : Effect ε σ Unit) := hf

/-- The second computation starts from a result that the first one can give. -/
theorem bind {m : Effect ε σ α} {f : α → Effect ε σ β} (hm : Invisible Agree m)
    (hf : ∀ a s, (m.run s).1 = .ok a → Invisible Agree (f a)) : Invisible Agree (m >>= f) := by
  intro s t h
  have hst := hm s t h
  cases hs : m.run s with
  | mk r s' =>
    rw [hs] at hst
    cases r with
    | ok a => simpa only [Effect.run_bind_ok hs] using hf a s (by rw [hs]) s' t hst
    | error e => simpa only [Effect.run_bind_error hs] using hst

theorem tryCatch {m : Effect ε σ α} {f : ε → Effect ε σ α} (hm : Invisible Agree m)
    (hf : ∀ e, Invisible Agree (f e)) : Invisible Agree (Effect.tryCatch m f) := by
  intro s t h
  have hst := hm s t h
  cases hs : m.run s with
  | mk r s' =>
    rw [hs] at hst
    cases r with
    | ok a => simpa only [Effect.run_tryCatch_ok hs] using hst
    | error e => simpa only [Effect.run_tryCatch_error hs] using hf e s' t hst

end Invisible

/-- Calls that an observer does not see can be removed from a run. -/
theorem after_purge {ι : Type} {step : ι → Effect ε σ α} {own : ι → Bool} {calls : List ι}
    (howner : ∀ call ∈ calls, own call = true → Respects Agree (step call))
    (hother : ∀ call ∈ calls, own call = false → Invisible Agree (step call)) {s t : σ}
    (h : Agree s t) : Agree (after step calls s) (after step (calls.filter own) t) := by
  induction calls generalizing s t with
  | nil => exact h
  | cons call calls ih =>
    have ih := @ih (fun c hc => howner c (by simp [hc])) fun c hc => hother c (by simp [hc])
    cases hown : own call with
    | true =>
      rw [List.filter_cons_of_pos hown]
      exact ih (howner call (by simp) hown s t h).2
    | false =>
      rw [List.filter_cons_of_neg (by simp [hown])]
      exact ih (hother call (by simp) hown s t h)

end DataForge.Foundation.Noninterference
