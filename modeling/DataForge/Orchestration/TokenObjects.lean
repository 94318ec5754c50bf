import DataForge.Foundation.Runs
import DataForge.Orchestration.Cancellation

namespace DataForge.Orchestration.TokenObjects

open DataForge.Foundation.Strings
open DataForge.Foundation.Dictionary
open DataForge.Orchestration.Cancellation

/-- The registry with its tokens as objects: the launcher of a job keeps a reference to
the token that a later cancel request triggers. -/
structure TokenRegistry where
  objects : List CancellationToken
  tokens : Dict Text Nat
  discarded : Text → Bool

namespace TokenRegistry

def empty : TokenRegistry := ⟨[], [], fun _ => false⟩

variable (jobId : Text) (registry : TokenRegistry)

def object (ref : Nat) : CancellationToken := registry.objects.getD ref .fresh

def newToken : TokenRegistry :=
  { registry with
    objects := registry.objects ++ [.fresh]
    tokens := set jobId registry.objects.length registry.tokens }

def undiscard : TokenRegistry :=
  { registry with discarded := fun j => if j = jobId then false else registry.discarded j }

def register : Nat × TokenRegistry :=
  match get? jobId registry.tokens with
  | some ref => (ref, registry.undiscard jobId)
  | none => (registry.objects.length, (registry.undiscard jobId).newToken jobId)

def trigger (ref : Nat) (reasonCode : Text) : TokenRegistry :=
  { registry with
    objects := registry.objects.modify ref fun token => token.cancel reasonCode }

def cancel (reasonCode : Text) : Bool × TokenRegistry :=
  match get? jobId registry.tokens with
  | some ref => (true, registry.trigger ref reasonCode)
  | none =>
    if registry.discarded jobId then (false, registry)
    else (true, (registry.newToken jobId).trigger registry.objects.length reasonCode)

def isCancelled : Bool :=
  match get? jobId registry.tokens with
  | some ref => (registry.object ref).cancelled
  | none => false

def discard : TokenRegistry :=
  { registry with
    tokens := erase jobId registry.tokens
    discarded := fun j => if j = jobId then true else registry.discarded j }

/-- References lead to objects, and no two jobs share one. -/
structure WellFormed : Prop where
  bounded : ∀ j ref, get? j registry.tokens = some ref → ref < registry.objects.length
  unshared : ∀ i j ref, get? i registry.tokens = some ref → get? j registry.tokens =
    some ref → i = j

/-- What a job's entry is once references are followed. -/
def entry (j : Text) : Entry :=
  ((get? j registry.tokens).map registry.object, registry.discarded j)

/-- The registry of values that the registry of objects stands for. -/
def Represents (values : CancellationRegistry) : Prop := ∀ j, registry.entry j = values.entry j

variable {jobId registry}

theorem object_append {ref : Nat} (h : ref < registry.objects.length)
    (tokens : List CancellationToken) (d : Dict Text Nat) (f : Text → Bool) :
    object ⟨registry.objects ++ tokens, d, f⟩ ref = registry.object ref := by
  simp only [object, List.getD_eq_getElem?_getD, List.getElem?_append_left h]

theorem object_trigger {ref : Nat} (h : ref < registry.objects.length) (reasonCode : Text)
    (ref' : Nat) : (registry.trigger ref reasonCode).object ref' =
      if ref = ref' then (registry.object ref').cancel reasonCode else registry.object ref' := by
  by_cases hrefs : ref = ref'
  · subst ref'
    simp [object, trigger, List.getD_eq_getElem?_getD, h]
  · simp [object, trigger, List.getD_eq_getElem?_getD, hrefs]

theorem object_newToken_self :
    (registry.newToken jobId).object registry.objects.length = .fresh := by
  simp [object, newToken, List.getD_eq_getElem?_getD]

theorem WellFormed.newToken (h : registry.WellFormed) : (registry.newToken jobId).WellFormed := by
  constructor
  · intro j ref href
    rw [TokenRegistry.newToken, get?_set] at href
    simp only [TokenRegistry.newToken, List.length_append, List.length_singleton]
    split at href
    · cases href
      omega
    · have := h.bounded j ref href
      omega
  · intro i j ref hi hj
    rw [TokenRegistry.newToken, get?_set] at hi hj
    split at hi <;> split at hj
    · simp_all
    · cases hi
      exact absurd (h.bounded j _ hj) (by omega)
    · cases hj
      exact absurd (h.bounded i _ hi) (by omega)
    · exact h.unshared i j ref hi hj

theorem WellFormed.trigger (h : registry.WellFormed) (ref : Nat) (reasonCode : Text) :
    (registry.trigger ref reasonCode).WellFormed :=
  ⟨fun j ref' href => by simpa [TokenRegistry.trigger] using h.bounded j ref' href, h.unshared⟩

theorem entry_newToken (h : registry.WellFormed) (j : Text) :
    (registry.newToken jobId).entry j =
      if jobId = j then (some .fresh, registry.discarded j) else registry.entry j := by
  have hsnd : (registry.newToken jobId).discarded = registry.discarded := rfl
  by_cases hj : jobId = j
  · subst j
    have hget : get? jobId (registry.newToken jobId).tokens = some registry.objects.length :=
      get?_set_self _ _ _
    rw [entry, hget, Option.map_some, object_newToken_self, if_pos rfl, hsnd]
  · have hget : get? j (registry.newToken jobId).tokens = get? j registry.tokens :=
      get?_set_ne hj _ _
    rw [entry, hget, if_neg hj, hsnd, entry]
    cases hr : get? j registry.tokens with
    | none => rfl
    | some ref =>
      have hobject := object_append (h.bounded j ref hr) [.fresh]
        (set jobId registry.objects.length registry.tokens) registry.discarded
      rw [Option.map_some, Option.map_some, TokenRegistry.newToken, hobject]

theorem entry_trigger (h : registry.WellFormed) {ref : Nat}
    (href : get? jobId registry.tokens = some ref) (reasonCode j : Text) :
    (registry.trigger ref reasonCode).entry j =
      if jobId = j then (some ((registry.object ref).cancel reasonCode), registry.discarded j)
      else registry.entry j := by
  have hobject := object_trigger (h.bounded jobId ref href) reasonCode
  have hget : (registry.trigger ref reasonCode).entry j =
      ((get? j registry.tokens).map (registry.trigger ref reasonCode).object,
        registry.discarded j) := rfl
  rw [hget]
  by_cases hj : jobId = j
  · subst j
    rw [href, Option.map_some, hobject, if_pos rfl, if_pos rfl]
  · rw [if_neg hj, entry]
    cases hr : get? j registry.tokens with
    | none => rfl
    | some ref' =>
      have hne : ref ≠ ref' := fun he => hj (h.unshared jobId j ref href (he ▸ hr))
      rw [Option.map_some, Option.map_some, hobject, if_neg hne]

theorem entry_undiscard (j : Text) : (registry.undiscard jobId).entry j =
    if jobId = j then ((registry.entry j).1, false) else registry.entry j := by
  by_cases hj : jobId = j
  · subst j
    simp only [entry, undiscard, if_pos]
    rfl
  · simp only [entry, undiscard, if_neg hj, if_neg (Ne.symm hj)]
    rfl

theorem WellFormed.undiscard (h : registry.WellFormed) : (registry.undiscard jobId).WellFormed :=
  ⟨h.bounded, h.unshared⟩

theorem wellFormed_empty : empty.WellFormed :=
  ⟨fun _ _ h => (by cases h), fun _ _ _ h => (by cases h)⟩

section Operations

variable (h : registry.WellFormed)

include h

theorem WellFormed.register : (registry.register jobId).2.WellFormed := by
  rw [TokenRegistry.register]
  split
  · exact h.undiscard
  · exact h.undiscard.newToken

theorem WellFormed.cancel (reasonCode : Text) :
    (registry.cancel jobId reasonCode).2.WellFormed := by
  rw [TokenRegistry.cancel]
  split
  · exact h.trigger _ _
  · split
    · exact h
    · exact h.newToken.trigger _ _

theorem WellFormed.discard : (registry.discard jobId).WellFormed := by
  have hget {j : Text} {ref : Nat} (href : get? j (registry.discard jobId).tokens = some ref) :
      get? j registry.tokens = some ref := by
    by_cases hj : jobId = j
    · subst j
      simp [TokenRegistry.discard] at href
    · rwa [TokenRegistry.discard, get?_erase_ne hj] at href
  exact ⟨fun j ref href => h.bounded j ref (hget href),
    fun i j ref hi hj => h.unshared i j ref (hget hi) (hget hj)⟩

theorem entry_register (j : Text) : (registry.register jobId).2.entry j =
    if jobId = j then (registry.entry j).register else registry.entry j := by
  rw [register]
  split
  · next ref href =>
    rw [entry_undiscard]
    by_cases hj : jobId = j
    · subst j
      simp [Entry.register, entry, href]
    · rw [if_neg hj, if_neg hj]
  · next href =>
    rw [entry_newToken h.undiscard, entry_undiscard]
    by_cases hj : jobId = j
    · subst j
      simp [Entry.register, entry, href, undiscard]
    · rw [if_neg hj, if_neg hj, if_neg hj]

theorem entry_cancel (reasonCode j : Text) : (registry.cancel jobId reasonCode).2.entry j =
    if jobId = j then (registry.entry j).cancel reasonCode else registry.entry j := by
  rw [cancel]
  split
  · next ref href =>
    rw [entry_trigger h href]
    by_cases hj : jobId = j
    · subst j
      simp [Entry.cancel, Entry.accepts, entry, href]
    · rw [if_neg hj, if_neg hj]
  · next href =>
    split
    · next hdiscarded =>
      by_cases hj : jobId = j
      · subst j
        simp [Entry.cancel, Entry.accepts, entry, href, hdiscarded]
      · rw [if_neg hj]
    · next hdiscarded =>
      have hnew : get? jobId (registry.newToken jobId).tokens = some registry.objects.length :=
        get?_set_self _ _ _
      rw [entry_trigger h.newToken hnew, entry_newToken h, object_newToken_self]
      by_cases hj : jobId = j
      · subst j
        simp [Entry.cancel, Entry.accepts, entry, href, hdiscarded, newToken]
      · rw [if_neg hj, if_neg hj, if_neg hj]

omit h in
theorem entry_discard (j : Text) : (registry.discard jobId).entry j =
    if jobId = j then .discarded else registry.entry j := by
  by_cases hj : jobId = j
  · subst j
    simp [entry, discard, Entry.discarded]
  · simp only [entry, discard, get?_erase_ne hj, if_neg hj, if_neg (Ne.symm hj)]
    rfl

omit h in
theorem cancel_fst (reasonCode : Text) :
    (registry.cancel jobId reasonCode).1 = (registry.entry jobId).accepts := by
  rw [cancel, entry, Entry.accepts]
  split
  · next href => simp [href]
  · next href => split <;> simp_all

omit h in
/-- The token that a registration hands out is the job's token afterwards. -/
theorem object_register : (registry.register jobId).2.object (registry.register jobId).1 =
    ((registry.entry jobId).1.getD .fresh) := by
  rw [register, entry]
  split
  · next ref href =>
    rw [href]
    rfl
  · next href =>
    rw [href]
    exact object_newToken_self

omit h in
theorem isCancelled_eq : registry.isCancelled jobId = (registry.entry jobId).isCancelled := by
  rw [isCancelled, entry, Entry.isCancelled]
  split <;> simp_all

end Operations

section Fresh

theorem length_register : registry.objects.length ≤ (registry.register jobId).2.objects.length := by
  rw [register]
  split <;> simp [newToken, undiscard]

theorem length_cancel (reasonCode : Text) :
    registry.objects.length ≤ (registry.cancel jobId reasonCode).2.objects.length := by
  rw [cancel]
  split
  · simp [trigger]
  · split <;> simp [trigger, newToken]

theorem register_lt (h : registry.WellFormed) :
    (registry.register jobId).1 < (registry.register jobId).2.objects.length := by
  rw [register]
  split
  · next ref href => exact h.bounded jobId ref href
  · simp [newToken, undiscard]

theorem register_of_none (h : (registry.entry jobId).1 = none) :
    (registry.register jobId).1 = registry.objects.length := by
  have hget : get? jobId registry.tokens = none := by simpa [entry] using h
  rw [register, hget]

end Fresh

section Kept

variable {ref : Nat}

theorem lt_of_cancelled (h : (registry.object ref).cancelled = true) :
    ref < registry.objects.length := by
  by_contra hle
  rw [object, List.getD_eq_getElem?_getD, List.getElem?_eq_none (Nat.le_of_not_lt hle)] at h
  cases h

theorem cancelled_newToken (h : (registry.object ref).cancelled = true) :
    ((registry.newToken jobId).object ref).cancelled = true := by
  rwa [newToken, object_append (lt_of_cancelled h)]

theorem cancelled_trigger (h : (registry.object ref).cancelled = true) (other : Nat)
    (reasonCode : Text) : ((registry.trigger other reasonCode).object ref).cancelled = true := by
  by_cases hother : other < registry.objects.length
  · rw [object_trigger hother]
    split
    · rfl
    · exact h
  · have hsame : registry.trigger other reasonCode = registry := by
      rw [trigger, List.modify_eq_self (Nat.le_of_not_lt hother)]
    rwa [hsame]

theorem cancelled_register (h : (registry.object ref).cancelled = true) :
    ((registry.register jobId).2.object ref).cancelled = true := by
  rw [register]
  split
  · exact h
  · exact @cancelled_newToken _ (registry.undiscard jobId) _ h

/-- A token that is cancelled stays so, whatever else the registry is asked. -/
theorem cancelled_cancel (h : (registry.object ref).cancelled = true) (reasonCode : Text) :
    ((registry.cancel jobId reasonCode).2.object ref).cancelled = true := by
  rw [cancel]
  split
  · exact cancelled_trigger h _ _
  · split
    · exact h
    · exact cancelled_trigger (cancelled_newToken h) _ _

end Kept

/-- What a caller can learn of a job: whether it is cancelled, whether a cancellation
is accepted, and the state of the token that a registration hands out. -/
def observed (registry : TokenRegistry) (jobId : Text) : Bool × Bool × CancellationToken :=
  (registry.isCancelled jobId, (registry.cancel jobId []).1,
    (registry.register jobId).2.object (registry.register jobId).1)

theorem observed_eq : registry.observed jobId = ((registry.entry jobId).isCancelled,
    (registry.entry jobId).accepts, (registry.entry jobId).1.getD .fresh) := by
  rw [observed, isCancelled_eq, cancel_fst, object_register]

end TokenRegistry

end DataForge.Orchestration.TokenObjects
