import DataForge.Foundation.Outcome

namespace DataForge.Foundation.Failures

open DataForge.Foundation.Outcome

variable {ε σ α β : Type} {P : ε → Prop}

/-- Every error that a computation can raise is of one kind. -/
def RaisesOnly (P : ε → Prop) (x : Except ε α) : Prop := ∀ e, x = .error e → P e

namespace RaisesOnly

theorem ok (a : α) : RaisesOnly P (.ok a : Except ε α) := fun _ h => by cases h

theorem error {e : ε} (h : P e) : RaisesOnly P (.error e : Except ε α) := by
  intro e' he
  obtain rfl := Except.error.inj he
  exact h

theorem bind {x : Except ε α} {f : α → Except ε β} (hx : RaisesOnly P x)
    (hf : ∀ a, x = .ok a → RaisesOnly P (f a)) : RaisesOnly P (x >>= f) := by
  cases x with
  | error e => exact error (hx e rfl)
  | ok a => exact hf a rfl

theorem map {x : Except ε α} (hx : RaisesOnly P x) (f : α → β) : RaisesOnly P (x.map f) := by
  cases x with
  | error e => exact error (hx e rfl)
  | ok a => exact ok (f a)

theorem guard (p : Prop) [Decidable p] {e : ε} (h : P e) : RaisesOnly P (guardOk p e) := by
  rw [guardOk]
  split
  · exact ok ()
  · exact error h

theorem mapM {f : α → Except ε β} {xs : List α} (h : ∀ x ∈ xs, RaisesOnly P (f x)) :
    RaisesOnly P (xs.mapM f) := by
  induction xs with
  | nil => exact ok []
  | cons x xs ih =>
    rw [List.mapM_cons]
    refine bind (h x List.mem_cons_self) fun y _ => ?_
    exact bind (ih fun z hz => h z (List.mem_cons_of_mem x hz)) fun ys _ => ok (y :: ys)

theorem foldlM {f : σ → α → Except ε σ} {xs : List α}
    (h : ∀ s, ∀ x ∈ xs, RaisesOnly P (f s x)) (s : σ) : RaisesOnly P (xs.foldlM f s) := by
  induction xs generalizing s with
  | nil => exact ok s
  | cons x xs ih =>
    rw [List.foldlM_cons]
    refine bind (h s x List.mem_cons_self) fun t _ => ?_
    exact ih (fun s y hy => h s y (List.mem_cons_of_mem x hy)) t

end RaisesOnly

/-- Success, by evaluation. -/
theorem exists_ok {x : Except ε α} (h : x.toOption.isSome = true) : ∃ v, x = .ok v := by
  cases x with
  | ok v => exact ⟨v, rfl⟩
  | error e => cases h

/-- A traversal fails as soon as one of its calls does. -/
theorem exists_mapM_error {f : α → Except ε β} {xs : List α} {x : α} (hx : x ∈ xs)
    (h : ∃ e, f x = .error e) : ∃ e, xs.mapM f = .error e := by
  induction xs with
  | nil => cases hx
  | cons y xs ih =>
    rw [List.mapM_cons]
    rcases List.mem_cons.mp hx with rfl | hx
    · obtain ⟨e, he⟩ := h
      exact ⟨e, by rw [he, error_bind]⟩
    · cases hy : f y with
      | error e => exact ⟨e, by rw [error_bind]⟩
      | ok b =>
        obtain ⟨e, he⟩ := ih hx
        exact ⟨e, by rw [ok_bind, he, error_bind]⟩

/-- A traversal succeeds when every call does. -/
theorem exists_mapM_ok {f : α → Except ε β} {xs : List α} (h : ∀ x ∈ xs, ∃ y, f x = .ok y) :
    ∃ ys, xs.mapM f = .ok ys := by
  induction xs with
  | nil => exact ⟨[], rfl⟩
  | cons x xs ih =>
    obtain ⟨y, hy⟩ := h x List.mem_cons_self
    obtain ⟨ys, hys⟩ := ih fun z hz => h z (List.mem_cons_of_mem x hz)
    exact ⟨y :: ys, by rw [List.mapM_cons, hy, ok_bind, hys]; rfl⟩

theorem mapM_of_forall_ok {f : α → Except ε β} {g : α → β} {xs : List α}
    (h : ∀ x ∈ xs, f x = .ok (g x)) : xs.mapM f = .ok (xs.map g) := by
  induction xs with
  | nil => rfl
  | cons x xs ih =>
    rw [List.mapM_cons, h x List.mem_cons_self, ok_bind,
      ih fun z hz => h z (List.mem_cons_of_mem x hz)]
    rfl

/-- A loop whose steps fail by their element alone is a fold where none fails. -/
theorem foldlM_eq_ok_iff {f : σ → α → Except ε σ} {Ok : α → Prop} {g : σ → α → σ}
    (hf : ∀ s x t, f s x = .ok t ↔ Ok x ∧ t = g s x) {xs : List α} {s t : σ} :
    xs.foldlM f s = .ok t ↔ (∀ x ∈ xs, Ok x) ∧ t = xs.foldl g s := by
  induction xs generalizing s with
  | nil =>
    rw [List.foldlM_nil, List.foldl_nil]
    exact ⟨fun h => ⟨fun x hx => absurd hx List.not_mem_nil, (Except.ok.inj h).symm⟩,
      fun h => h.2 ▸ rfl⟩
  | cons x xs ih =>
    rw [List.foldlM_cons, bind_eq_ok, List.forall_mem_cons, List.foldl_cons]
    constructor
    · rintro ⟨next, hnext, h⟩
      obtain ⟨hx, rfl⟩ := (hf s x next).mp hnext
      obtain ⟨hxs, rfl⟩ := ih.mp h
      exact ⟨⟨hx, hxs⟩, rfl⟩
    · rintro ⟨⟨hx, hxs⟩, rfl⟩
      exact ⟨g s x, (hf s x _).mpr ⟨hx, rfl⟩, ih.mpr ⟨hxs, rfl⟩⟩

/-- The results of a traversal are those of its calls. -/
theorem mapM_eq_ok_iff_forall₂ {f : α → Except ε β} {xs : List α} {ys : List β} :
    xs.mapM f = .ok ys ↔ List.Forall₂ (fun x y => f x = .ok y) xs ys := by
  induction xs generalizing ys with
  | nil =>
    rw [List.mapM_nil, List.forall₂_nil_left_iff]
    exact ⟨fun h => (Except.ok.inj h).symm, fun h => h ▸ rfl⟩
  | cons x xs ih =>
    rw [List.mapM_cons, bind_eq_ok, List.forall₂_cons_left_iff]
    constructor
    · rintro ⟨y, hy, h⟩
      obtain ⟨zs, hzs, h⟩ := bind_eq_ok.mp h
      exact ⟨y, zs, hy, ih.mp hzs, (Except.ok.inj h).symm⟩
    · rintro ⟨y, zs, hy, hzs, rfl⟩
      exact ⟨y, hy, bind_eq_ok.mpr ⟨zs, ih.mpr hzs, rfl⟩⟩

/-- A traversal fails with the first of its calls that does. -/
theorem exists_of_mapM_error {f : α → Except ε β} {xs : List α} {e : ε} (h : xs.mapM f = .error e) :
    ∃ pre x post, xs = pre ++ x :: post ∧ (∀ y ∈ pre, ∃ z, f y = .ok z) ∧ f x = .error e := by
  induction xs with
  | nil => cases h
  | cons x xs ih =>
    rw [List.mapM_cons] at h
    cases hx : f x with
    | error e' =>
      rw [hx] at h
      obtain rfl : e' = e := Except.error.inj h
      exact ⟨[], x, xs, rfl, fun y hy => absurd hy List.not_mem_nil, hx⟩
    | ok z =>
      cases hxs : xs.mapM f with
      | error e' =>
        rw [hx, hxs] at h
        obtain rfl : e' = e := Except.error.inj h
        obtain ⟨pre, y, post, rfl, hpre, hy⟩ := ih hxs
        exact ⟨x :: pre, y, post, rfl, List.forall_mem_cons.mpr ⟨⟨z, hx⟩, hpre⟩, hy⟩
      | ok zs =>
        rw [hx, hxs] at h
        cases h

/-- A traversal succeeds where each of its calls does. -/
theorem exists_mapM_iff {f : α → Except ε β} {xs : List α} :
    (∃ ys, xs.mapM f = .ok ys) ↔ ∀ x ∈ xs, ∃ y, f x = .ok y := by
  refine ⟨?_, exists_mapM_ok⟩
  rintro ⟨ys, h⟩
  induction xs generalizing ys with
  | nil => exact fun x hx => absurd hx List.not_mem_nil
  | cons x xs ih =>
    rw [List.mapM_cons] at h
    obtain ⟨y, hy, h⟩ := bind_eq_ok.mp h
    obtain ⟨zs, hzs, -⟩ := bind_eq_ok.mp h
    exact List.forall_mem_cons.mpr ⟨⟨y, hy⟩, ih zs hzs⟩

theorem exists_of_mem_mapM {f : α → Except ε β} {xs : List α} {ys : List β} (h : xs.mapM f = .ok ys)
    {y : β} (hy : y ∈ ys) : ∃ x ∈ xs, f x = .ok y := by
  have hall := mapM_eq_ok_iff_forall₂.mp h
  clear h
  induction hall with
  | nil => cases hy
  | cons hxy _ ih =>
    rcases List.mem_cons.mp hy with rfl | hy
    · exact ⟨_, List.mem_cons_self, hxy⟩
    · obtain ⟨x, hx, hfx⟩ := ih hy
      exact ⟨x, List.mem_cons_of_mem _ hx, hfx⟩

end DataForge.Foundation.Failures
