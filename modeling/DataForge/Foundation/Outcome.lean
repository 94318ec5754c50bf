import Mathlib.Data.List.Forall2

namespace DataForge.Foundation.Outcome

section Except

variable {ε α β : Type}

theorem bind_eq_ok {x : Except ε α} {f : α → Except ε β} {b : β} :
    (x >>= f) = .ok b ↔ ∃ a, x = .ok a ∧ f a = .ok b := by
  cases x with
  | error e => simp [bind, Except.bind]
  | ok a => simp [bind, Except.bind]

/-- A check before the rest of a computation. -/
theorem check_bind_eq_ok {x : Except ε Unit} {f : Unit → Except ε β} {b : β} :
    (x >>= f) = .ok b ↔ x = .ok () ∧ f () = .ok b := by
  rw [bind_eq_ok]
  exact ⟨fun ⟨_, hx, hf⟩ => ⟨hx, hf⟩, fun ⟨hx, hf⟩ => ⟨(), hx, hf⟩⟩

@[simp] theorem ok_bind (a : α) (f : α → Except ε β) : ((Except.ok a : Except ε α) >>= f) = f a :=
  rfl

@[simp] theorem error_bind (e : ε) (f : α → Except ε β) :
    ((Except.error e : Except ε α) >>= f) = .error e := rfl

@[simp] theorem pure_eq (a : α) : (pure a : Except ε α) = .ok a := rfl

@[simp] theorem throw_eq (e : ε) : (throw e : Except ε α) = .error e := rfl

def guardOk (p : Prop) [Decidable p] (e : ε) : Except ε Unit := if p then .ok () else .error e

@[simp] theorem guardOk_eq_ok {p : Prop} [Decidable p] {e : ε} {u : Unit} :
    guardOk p e = .ok u ↔ p := by
  by_cases h : p <;> simp [guardOk, h]

/-- A traversal by a function that only checks returns the list of its values. -/
theorem map_eq_ok {f : α → β} {x : Except ε α} {y : β} :
    x.map f = .ok y ↔ ∃ a, x = .ok a ∧ f a = y := by
  cases x with
  | error e => simp [Except.map]
  | ok a => simp [Except.map]

theorem mapM_eq_ok_iff {f : α → Except ε β} {P : α → Prop} {g : α → β}
    (hf : ∀ x y, f x = .ok y ↔ P x ∧ y = g x) {xs : List α} {ys : List β} :
    xs.mapM f = .ok ys ↔ (∀ x ∈ xs, P x) ∧ ys = xs.map g := by
  induction xs generalizing ys with
  | nil => simp [eq_comm]
  | cons x xs ih =>
    rw [List.mapM_cons, bind_eq_ok, List.forall_mem_cons, List.map_cons]
    simp only [bind_eq_ok, pure_eq, Except.ok.injEq, ih, hf]
    constructor
    · rintro ⟨y, ⟨hx, rfl⟩, rest, ⟨hxs, rfl⟩, rfl⟩
      exact ⟨⟨hx, hxs⟩, rfl⟩
    · rintro ⟨⟨hx, hxs⟩, rfl⟩
      exact ⟨_, ⟨hx, rfl⟩, _, ⟨hxs, rfl⟩, rfl⟩

/-- What each call of a traversal says about its value, said of the whole list. -/
theorem map_of_mapM_mem {γ : Type} {f : α → Except ε β} {p : β → γ} {q : α → γ} {xs : List α}
    (hf : ∀ x ∈ xs, ∀ y, f x = .ok y → p y = q x) {ys : List β} (h : xs.mapM f = .ok ys) :
    ys.map p = xs.map q := by
  induction xs generalizing ys with
  | nil =>
    obtain rfl : [] = ys := Except.ok.inj h
    rfl
  | cons x xs ih =>
    rw [List.mapM_cons] at h
    obtain ⟨y, hy, h⟩ := bind_eq_ok.mp h
    obtain ⟨rest, hrest, h⟩ := bind_eq_ok.mp h
    obtain rfl : y :: rest = ys := Except.ok.inj h
    obtain ⟨hx, hxs⟩ := List.forall_mem_cons.mp hf
    rw [List.map_cons, List.map_cons, hx y hy, ih hxs hrest]

theorem map_of_mapM {γ : Type} {f : α → Except ε β} {p : β → γ} {q : α → γ}
    (hf : ∀ x y, f x = .ok y → p y = q x) {xs : List α} {ys : List β} (h : xs.mapM f = .ok ys) :
    ys.map p = xs.map q :=
  map_of_mapM_mem (fun x _ => hf x) h

/-- A relation between the elements and their values, where each call decides it. -/
theorem filterMap_of_mapM {γ : Type} {f : α → Except ε β} {p : β → Option γ} {q : α → Option γ}
    (hf : ∀ x y, f x = .ok y → p y = q x) {xs : List α} {ys : List β} (h : xs.mapM f = .ok ys) :
    ys.filterMap p = xs.filterMap q := by
  have hmap := congrArg (List.filterMap id) (map_of_mapM hf h)
  rwa [List.filterMap_map, List.filterMap_map] at hmap

theorem forall₂_of_mapM {R : α → β → Prop} {P : α → Prop} {f : α → Except ε β}
    (hf : ∀ x y, f x = .ok y → (R x y ↔ P x)) {xs : List α} {ys : List β}
    (h : xs.mapM f = .ok ys) : List.Forall₂ R xs ys ↔ ∀ x ∈ xs, P x := by
  induction xs generalizing ys with
  | nil =>
    obtain rfl : [] = ys := Except.ok.inj h
    simp
  | cons x xs ih =>
    rw [List.mapM_cons] at h
    obtain ⟨y, hy, h⟩ := bind_eq_ok.mp h
    obtain ⟨rest, hrest, h⟩ := bind_eq_ok.mp h
    obtain rfl : y :: rest = ys := Except.ok.inj h
    rw [List.forall₂_cons, ih hrest, hf x y hy, List.forall_mem_cons]

theorem length_mapM {f : α → Except ε β} {xs : List α} {ys : List β} (h : xs.mapM f = .ok ys) :
    ys.length = xs.length := by
  induction xs generalizing ys with
  | nil =>
    obtain rfl : [] = ys := Except.ok.inj h
    rfl
  | cons x xs ih =>
    rw [List.mapM_cons] at h
    obtain ⟨y, -, h⟩ := bind_eq_ok.mp h
    obtain ⟨rest, hrest, h⟩ := bind_eq_ok.mp h
    obtain rfl : y :: rest = ys := Except.ok.inj h
    rw [List.length_cons, List.length_cons, ih hrest]

theorem forM_eq_ok {f : α → Except ε Unit} {xs : List α} :
    xs.forM f = .ok () ↔ ∀ x ∈ xs, f x = .ok () := by
  induction xs with
  | nil => exact ⟨fun _ x hx => absurd hx List.not_mem_nil, fun _ => rfl⟩
  | cons x xs ih =>
    have hcons : (x :: xs).forM f = (f x >>= fun _ => xs.forM f) := rfl
    rw [hcons, check_bind_eq_ok, ih, List.forall_mem_cons]

end Except

/-- A computation that may raise; what it wrote before raising stays written. -/
def Effect (ε σ α : Type) := σ → Except ε α × σ

namespace Effect

variable {ε σ τ α β : Type}

def run (m : Effect ε σ α) (s : σ) : Except ε α × σ := m s

def bind (m : Effect ε σ α) (f : α → Effect ε σ β) : Effect ε σ β := fun s =>
  match m.run s with
  | (.ok a, t) => (f a).run t
  | (.error e, t) => (.error e, t)

instance : Monad (Effect ε σ) where
  pure a := fun s => (.ok a, s)
  bind := bind

def raise (e : ε) : Effect ε σ α := fun s => (.error e, s)

def lift (x : Except ε α) : Effect ε σ α := fun s => (x, s)

def get : Effect ε σ σ := fun s => (.ok s, s)

def modify (f : σ → σ) : Effect ε σ Unit := fun s => (.ok (), f s)

def ensure (p : Prop) [Decidable p] (e : ε) : Effect ε σ Unit := lift (guardOk p e)

/-- `try … except`: the handler starts from the state the failure left. -/
def tryCatch (m : Effect ε σ α) (h : ε → Effect ε σ α) : Effect ε σ α := fun s =>
  match m.run s with
  | (.ok a, t) => (.ok a, t)
  | (.error e, t) => (h e).run t

/-- `try … finally`, with a last step that cannot fail. -/
def finallyDo (m : Effect ε σ α) (f : σ → σ) : Effect ε σ α := fun s => ((m.run s).1, f (m.run s).2)

@[simp] theorem run_finallyDo (m : Effect ε σ α) (f : σ → σ) (s : σ) :
    (finallyDo m f).run s = ((m.run s).1, f (m.run s).2) := rfl

@[simp] theorem run_pure (a : α) (s : σ) : (pure a : Effect ε σ α).run s = (.ok a, s) := rfl

@[simp] theorem run_raise (e : ε) (s : σ) : (raise e : Effect ε σ α).run s = (.error e, s) := rfl

@[simp] theorem run_lift (x : Except ε α) (s : σ) : (lift x : Effect ε σ α).run s = (x, s) := rfl

@[simp] theorem run_get (s : σ) : (get : Effect ε σ σ).run s = (.ok s, s) := rfl

@[simp] theorem run_modify (f : σ → σ) (s : σ) :
    (modify f : Effect ε σ Unit).run s = (.ok (), f s) :=
  rfl

theorem run_bind_ok {m : Effect ε σ α} {a : α} {s t : σ} (h : m.run s = (.ok a, t))
    (f : α → Effect ε σ β) : (m >>= f).run s = (f a).run t := by
  change bind m f s = _
  rw [bind, h]

theorem run_bind_error {m : Effect ε σ α} {e : ε} {s t : σ} (h : m.run s = (.error e, t))
    (f : α → Effect ε σ β) : (m >>= f).run s = (.error e, t) := by
  change bind m f s = _
  rw [bind, h]

@[simp] theorem lift_ok_bind (a : α) (f : α → Effect ε σ β) : (lift (.ok a) >>= f) = f a := rfl

theorem run_bind_lift (x : Except ε α) (f : α → Effect ε σ β) (s : σ) :
    (lift x >>= f).run s = match x with
      | .ok a => (f a).run s
      | .error e => (.error e, s) := by
  cases x <;> rfl

theorem run_tryCatch_ok {m : Effect ε σ α} {a : α} {s t : σ} (h : m.run s = (.ok a, t))
    (f : ε → Effect ε σ α) : (tryCatch m f).run s = (.ok a, t) := by
  change tryCatch m f s = _
  rw [tryCatch, h]

theorem run_tryCatch_error {m : Effect ε σ α} {e : ε} {s t : σ} (h : m.run s = (.error e, t))
    (f : ε → Effect ε σ α) : (tryCatch m f).run s = (f e).run t := by
  change tryCatch m f s = _
  rw [tryCatch, h]

/-- What a run of two computations in sequence went through. -/
theorem run_bind_cases {m : Effect ε σ α} {f : α → Effect ε σ β} {r : Except ε β} {s t : σ}
    (h : (m >>= f).run s = (r, t)) :
    (∃ e, m.run s = (.error e, t) ∧ r = .error e) ∨
      ∃ a u, m.run s = (.ok a, u) ∧ (f a).run u = (r, t) := by
  cases hm : m.run s with
  | mk x u =>
    cases x with
    | error e =>
      rw [run_bind_error hm] at h
      obtain ⟨rfl, rfl⟩ := Prod.mk.injEq _ _ _ _ ▸ h
      exact Or.inl ⟨e, rfl, rfl⟩
    | ok a =>
      rw [run_bind_ok hm] at h
      exact Or.inr ⟨a, u, rfl, h⟩

theorem run_bind_eq_ok {m : Effect ε σ α} {f : α → Effect ε σ β} {b : β} {s t : σ} :
    (m >>= f).run s = (.ok b, t) ↔ ∃ a u, m.run s = (.ok a, u) ∧ (f a).run u = (.ok b, t) := by
  constructor
  · intro h
    obtain ⟨e, -, he⟩ | h := run_bind_cases h
    · exact absurd he (by simp)
    · exact h
  · rintro ⟨a, u, hm, hf⟩
    rw [run_bind_ok hm, hf]

theorem run_lift_bind_eq_ok {x : Except ε α} {f : α → Effect ε σ β} {b : β} {s t : σ} :
    (lift x >>= f).run s = (.ok b, t) ↔ ∃ a, x = .ok a ∧ (f a).run s = (.ok b, t) := by
  cases x with
  | error e => simp [run_bind_lift]
  | ok a => simp

end Effect

end DataForge.Foundation.Outcome
