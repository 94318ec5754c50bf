import DataForge.Foundation.Outcome

namespace DataForge.Foundation.Triples

open DataForge.Foundation.Outcome

variable {ε σ α β : Type} {P P' : σ → Prop} {Q Q' : α → σ → Prop} {R : β → σ → Prop} {E : σ → Prop}

/-- From every state in `P` the computation ends in `Q` with its value, or raises in `E`. -/
def Triple (P : σ → Prop) (m : Effect ε σ α) (Q : α → σ → Prop) (E : σ → Prop) : Prop :=
  ∀ s, P s → (∀ a t, m.run s = (.ok a, t) → Q a t) ∧ ∀ e t, m.run s = (.error e, t) → E t

theorem triple_pure {a : α} (h : ∀ s, P s → Q a s) : Triple P (pure a : Effect ε σ α) Q E := by
  intro s hs
  constructor
  · rintro b t hrun
    obtain ⟨hb, rfl⟩ := Prod.mk.inj hrun
    obtain rfl := Except.ok.inj hb
    exact h s hs
  · rintro e t hrun
    cases (Prod.mk.inj hrun).1

theorem triple_raise {e : ε} (h : ∀ s, P s → E s) : Triple P (Effect.raise e) Q E := by
  intro s hs
  constructor
  · rintro a t hrun
    cases (Prod.mk.inj hrun).1
  · rintro e' t hrun
    obtain ⟨-, rfl⟩ := Prod.mk.inj hrun
    exact h s hs

/-- A lifted computation leaves the state, and its value is known afterwards. -/
theorem triple_lift {x : Except ε α} (h : ∀ s, P s → E s) :
    Triple P (Effect.lift x) (fun a s => x = .ok a ∧ P s) E := by
  intro s hs
  constructor
  · rintro a t hrun
    obtain ⟨hx, rfl⟩ := Prod.mk.inj hrun
    exact ⟨hx, hs⟩
  · rintro e t hrun
    obtain ⟨-, rfl⟩ := Prod.mk.inj hrun
    exact h s hs

theorem triple_modify {f : σ → σ} {Q : Unit → σ → Prop} (h : ∀ s, P s → Q () (f s)) :
    Triple P (Effect.modify f : Effect ε σ Unit) Q E := by
  intro s hs
  constructor
  · rintro _ t hrun
    obtain ⟨-, rfl⟩ := Prod.mk.inj hrun
    exact h s hs
  · rintro e t hrun
    cases (Prod.mk.inj hrun).1

theorem triple_bind {m : Effect ε σ α} {f : α → Effect ε σ β} (hm : Triple P m Q E)
    (hf : ∀ a, Triple (Q a) (f a) R E) : Triple P (m >>= f) R E := by
  intro s hs
  constructor
  · intro b t hrun
    obtain ⟨a, u, hfirst, hrest⟩ := Effect.run_bind_eq_ok.mp hrun
    exact (hf a u ((hm s hs).1 a u hfirst)).1 b t hrest
  · intro e t hrun
    obtain ⟨e', hfirst, -⟩ | ⟨a, u, hfirst, hrest⟩ := Effect.run_bind_cases hrun
    · exact (hm s hs).2 e' t hfirst
    · exact (hf a u ((hm s hs).1 a u hfirst)).2 e t hrest

/-- After the state is read, it is known. -/
theorem triple_get_bind {f : σ → Effect ε σ β} (h : ∀ s, P s → Triple (· = s) (f s) R E) :
    Triple P (Effect.get >>= f) R E := by
  intro s hs
  have hrun : (Effect.get >>= f).run s = (f s).run s := Effect.run_bind_ok (Effect.run_get s) f
  rw [hrun]
  exact h s hs s rfl

/-- What is known besides the state may be assumed. -/
theorem triple_assuming {fact : Prop} {m : Effect ε σ α} (h : fact → Triple P m Q E) :
    Triple (fun s => P s ∧ fact) m Q E := fun s hs => h hs.2 s hs.1

theorem Triple.pre {m : Effect ε σ α} (h : Triple P m Q E) (hpre : ∀ s, P' s → P s) :
    Triple P' m Q E := fun s hs => h s (hpre s hs)

theorem Triple.post {E' : σ → Prop} {m : Effect ε σ α} (h : Triple P m Q E)
    (hpost : ∀ a s, Q a s → Q' a s) (herror : ∀ s, E s → E' s) : Triple P m Q' E' := fun s hs =>
  ⟨fun a t hrun => hpost a t ((h s hs).1 a t hrun), fun e t hrun => herror t ((h s hs).2 e t hrun)⟩

/-- A computation that ends in an invariant both ways keeps it. -/
theorem Triple.keeps {I : σ → Prop} {m : Effect ε σ α} (h : Triple I m (fun _ => I) I) {s : σ}
    (hs : I s) : I (m.run s).2 := by
  cases hrun : m.run s with
  | mk x t =>
    cases x with
    | ok a => exact (h s hs).1 a t hrun
    | error e => exact (h s hs).2 e t hrun

section Invariants

variable {I : σ → Prop}

/-- The computation keeps an invariant, whether it returns or raises. -/
def Preserves (I : σ → Prop) (m : Effect ε σ α) : Prop := Triple I m (fun _ => I) I

theorem preserves_pure {a : α} : Preserves I (pure a : Effect ε σ α) := triple_pure fun _ hs => hs

theorem preserves_raise {e : ε} : Preserves I (Effect.raise e : Effect ε σ α) :=
  triple_raise fun _ hs => hs

theorem preserves_lift {x : Except ε α} : Preserves I (Effect.lift x : Effect ε σ α) :=
  (triple_lift fun _ hs => hs).post (fun _ _ hs => hs.2) fun _ hs => hs

theorem preserves_modify {f : σ → σ} (h : ∀ s, I s → I (f s)) :
    Preserves I (Effect.modify f : Effect ε σ Unit) := triple_modify h

theorem preserves_bind {m : Effect ε σ α} {f : α → Effect ε σ β} (hm : Preserves I m)
    (hf : ∀ a, Preserves I (f a)) : Preserves I (m >>= f) := triple_bind hm hf

theorem preserves_get_bind {f : σ → Effect ε σ β} (h : ∀ s, I s → Preserves I (f s)) :
    Preserves I (Effect.get >>= f) := by
  refine triple_get_bind fun s hs => (h s hs).pre ?_
  rintro t rfl
  exact hs

theorem preserves_tryCatch {m : Effect ε σ α} {handler : ε → Effect ε σ α} (hm : Preserves I m)
    (hhandler : ∀ e, Preserves I (handler e)) : Preserves I (Effect.tryCatch m handler) := by
  intro s hs
  cases hrun : m.run s with
  | mk x t =>
    cases x with
    | ok a =>
      rw [Effect.run_tryCatch_ok hrun]
      constructor
      · rintro b u heq
        obtain ⟨-, rfl⟩ := Prod.mk.inj heq
        exact (hm s hs).1 a t hrun
      · rintro e u heq
        cases (Prod.mk.inj heq).1
    | error e =>
      rw [Effect.run_tryCatch_error hrun]
      exact hhandler e t ((hm s hs).2 e t hrun)

/-- A computation on a part of the state keeps what it keeps of that part. -/
theorem preserves_part {τ : Type} {J : τ → Prop} {m : Effect ε τ α} {part : σ → τ}
    {lifted : Effect ε σ α} (put : σ → τ → σ)
    (hrun : ∀ s, lifted.run s = ((m.run (part s)).1, put s (m.run (part s)).2))
    (hm : Preserves J m) (hpart : ∀ s, I s → J (part s)) (hput : ∀ s t, I s → J t → I (put s t)) :
    Preserves I lifted := by
  intro s hs
  have hkept : J (m.run (part s)).2 := hm.keeps (hpart s hs)
  constructor
  · rintro a t heq
    rw [hrun] at heq
    obtain ⟨-, rfl⟩ := Prod.mk.inj heq
    exact hput s _ hs hkept
  · rintro e t heq
    rw [hrun] at heq
    obtain ⟨-, rfl⟩ := Prod.mk.inj heq
    exact hput s _ hs hkept

end Invariants

end DataForge.Foundation.Triples
