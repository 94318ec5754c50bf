import DataForge.Domain.Artifact
import DataForge.Foundation.Json
import DataForge.Foundation.Substitution
import DataForge.Plugins.TextOcr.Patterns

namespace DataForge.Adapters.PlatformMetadata

open DataForge.Foundation.Strings
open DataForge.Foundation.Dictionary
open DataForge.Foundation.Json
open DataForge.Foundation.Backtracking
open DataForge.Foundation.Backtracking.Regex
open DataForge.Foundation.Substitution
open DataForge.Domain.Common
open DataForge.Domain.Artifact
open DataForge.Domain.Compute
open DataForge.Plugins.TextOcr.Patterns

section Redaction

variable (isAlnum : Char → Bool)

def localChar (c : Char) : Bool :=
  isUpper c || isLower c || isAsciiDigit c || decide (c ∈ "._%+-".toList)

def domainChar (c : Char) : Bool :=
  isUpper c || isLower c || isAsciiDigit c || decide (c ∈ ".-".toList)

def emailPattern : Regex :=
  all [boundary isAlnum, plus (char localChar), oneOf "@", plus (char domainChar), oneOf ".",
    atLeast 2 (char fun c => isUpper c || isLower c), boundary isAlnum]

def sensitiveWords : List Text :=
  ["email".toList, "phone".toList, "token".toList, "secret".toList, "password".toList,
    "ssn".toList, "pii".toList]

/-- `_SENSITIVE_KEY_PATTERN` finds one of its words where case is ignored. -/
def SensitiveKey (key : Text) : Prop := ∃ word ∈ sensitiveWords, word <:+: key.map foldCase

instance (key : Text) : Decidable (SensitiveKey key) :=
  inferInstanceAs (Decidable (∃ word ∈ sensitiveWords, _))

def redacted : Text := "[REDACTED]".toList

mutual

def redactMetadata : Value → Value
  | .null => .null
  | .bool b => .bool b
  | .num token => .num token
  | .str s => .str (sub (emailPattern isAlnum) redacted s)
  | .arr vs => .arr (redactItems vs)
  | .obj ms => .obj (redactMembers ms)
termination_by structural v => v

def redactItems : List Value → List Value
  | [] => []
  | v :: vs => redactMetadata v :: redactItems vs
termination_by structural vs => vs

def redactMembers : List (Text × Value) → List (Text × Value)
  | [] => []
  | m :: ms => redactMember m :: redactMembers ms
termination_by structural ms => ms

def redactMember : Text × Value → Text × Value
  | (k, v) => (k, if SensitiveKey k then .str redacted else redactMetadata v)
termination_by structural m => m

end

end Redaction

section Emails

variable (isAlnum : Char → Bool)

def holdsBoundary (before after : Option Char) : Bool :=
  before.any (isWord isAlnum) != after.any (isWord isAlnum)

def tldChar (c : Char) : Bool := isUpper c || isLower c

/-- The texts between the two boundaries of the pattern. -/
def EmailText (y : Text) : Prop :=
  ∃ u v, y = u ++ v ∧ (1 ≤ u.length ∧ ∀ x ∈ u, localChar x = true) ∧
    ∃ at' w, v = at' ++ w ∧ (∃ x, at' = [x] ∧ decide (x ∈ "@".toList) = true) ∧
      ∃ domain rest, w = domain ++ rest ∧
        (1 ≤ domain.length ∧ ∀ x ∈ domain, domainChar x = true) ∧
        ∃ dot tld, rest = dot ++ tld ∧ (∃ x, dot = [x] ∧ decide (x ∈ ".".toList) = true) ∧
          2 ≤ tld.length ∧ ∀ x ∈ tld, tldChar x = true

variable {isAlnum}

theorem language_email : Language (seq (plus (char localChar)) (seq (oneOf "@")
    (seq (plus (char domainChar)) (seq (oneOf ".") (atLeast 2 (char tldChar)))))) EmailText :=
  (language_atLeast_char _ 1).seq ((language_char _).seq ((language_atLeast_char _ 1).seq
    ((language_char _).seq (language_atLeast_char _ 2))))

theorem emailText_ne_nil {y : Text} (h : EmailText y) : y ≠ [] := by
  obtain ⟨u, v, rfl, ⟨hlength, -⟩, -⟩ := h
  exact List.append_ne_nil_of_left_ne_nil (List.ne_nil_of_length_pos hlength) v

theorem at_mem_emailText {y : Text} (h : EmailText y) : '@' ∈ y := by
  obtain ⟨u, v, rfl, -, at', w, rfl, ⟨x, rfl, hx⟩, -⟩ := h
  obtain rfl : x = '@' := by simpa using hx
  simp

/-- The characters of an email address. -/
def EmailChar (c : Char) : Prop := localChar c = true ∨ c = '@'

theorem localChar_of_domainChar {c : Char} (h : domainChar c = true) : localChar c = true := by
  simp only [domainChar, localChar, Bool.or_eq_true, decide_eq_true_eq] at h ⊢
  refine h.imp_right fun hc => ?_
  have hall : ∀ c ∈ ".-".toList, c ∈ "._%+-".toList := forall_mem_of_all (by decide)
  exact hall c hc

theorem localChar_of_tldChar {c : Char} (h : tldChar c = true) : localChar c = true := by
  simp only [tldChar, localChar, Bool.or_eq_true] at h ⊢
  exact .inl (.inl h)

theorem emailChar_of_mem {y : Text} (h : EmailText y) : ∀ c ∈ y, EmailChar c := by
  obtain ⟨u, v, rfl, ⟨-, hu⟩, at', w, rfl, ⟨x, rfl, hx⟩, domain, rest, rfl, ⟨-, hdomain⟩, dot, tld,
    rfl, ⟨z, rfl, hz⟩, -, htld⟩ := h
  obtain rfl : x = '@' := by simpa using hx
  obtain rfl : z = '.' := by simpa using hz
  intro c hc
  simp only [List.mem_append, List.mem_singleton] at hc
  obtain hc | rfl | hc | rfl | hc := hc
  · exact .inl (hu c hc)
  · exact .inr rfl
  · exact .inl (localChar_of_domainChar (hdomain c hc))
  · exact .inl (by decide)
  · exact .inl (localChar_of_tldChar (htld c hc))

theorem delimited_email : Delimited (emailPattern isAlnum) (holdsBoundary isAlnum) EmailText := by
  have h : Delimited _ (holdsBoundary isAlnum) EmailText :=
    language_email.delimited fun _ => emailText_ne_nil
  refine ⟨fun c d => ?_, h.nonempty⟩
  have hinner := ends_seq_congr (plus (char localChar)) ((ends_seq_assoc (oneOf "@")
    (seq (plus (char domainChar)) (seq (oneOf ".") (atLeast 2 (char tldChar))))
    (look (holdsBoundary isAlnum))).trans (ends_seq_congr _ ((ends_seq_assoc _ _ _).trans
      (ends_seq_congr _ (ends_seq_assoc _ _ _)))))
  have hends := ends_seq_congr (look (holdsBoundary isAlnum))
    ((ends_seq_assoc (plus (char localChar)) _ _).trans hinner)
  have hsame : (emailPattern isAlnum).ends c = _ := (congrFun hends c).symm
  rw [hsame]
  exact h.ends c d

theorem inert_redacted : Inert EmailChar EmailText redacted where
  letters _ := emailChar_of_mem
  first c hc := by
    obtain rfl : '[' = c := Option.some.inj hc
    rintro (h | h) <;> exact absurd h (by decide)
  last := ⟨']', rfl, by rintro (h | h) <;> exact absurd h (by decide)⟩
  inside y hy hpart := by
    have hat := hpart.subset (at_mem_emailText hy)
    exact absurd hat (by decide)

/-- A redacted text holds no address. -/
theorem finditer_sub_email (s : Text) :
    (emailPattern isAlnum).finditer (sub (emailPattern isAlnum) redacted s) = [] :=
  finditer_sub delimited_email inert_redacted s

/-- Without an at sign there is no address. -/
theorem finditer_of_not_mem {s : Text} (h : '@' ∉ s) : (emailPattern isAlnum).finditer s = [] := by
  refine finditer_eq_nil fun x d hd => List.eq_nil_iff_forall_not_mem.mpr fun e he => ?_
  obtain ⟨-, -, y, hreads, hy⟩ := (delimited_email.ends d e).mp he
  have hpart : y <:+: s := by
    refine ⟨x, e.right, ?_⟩
    rw [List.append_assoc, ← hreads.1]
    exact hd.1.symm
  exact h (hpart.subset (at_mem_emailText hy))

end Emails

section Values

variable {isAlnum : Char → Bool}

/-- No text holds an address, and what is under a sensitive key is not told. -/
inductive Safe (isAlnum : Char → Bool) : Value → Prop
  | null : Safe isAlnum .null
  | bool (b : Bool) : Safe isAlnum (.bool b)
  | num (token : NumberToken) : Safe isAlnum (.num token)
  | str {s : Text} (h : (emailPattern isAlnum).finditer s = []) : Safe isAlnum (.str s)
  | arr {vs : List Value} (h : ∀ v ∈ vs, Safe isAlnum v) : Safe isAlnum (.arr vs)
  | obj {ms : List (Text × Value)} (hkeys : ∀ m ∈ ms, SensitiveKey m.1 → m.2 = .str redacted)
      (h : ∀ m ∈ ms, Safe isAlnum m.2) : Safe isAlnum (.obj ms)

theorem redactItems_eq_map (vs : List Value) :
    redactItems isAlnum vs = vs.map (redactMetadata isAlnum) := by
  induction vs with
  | nil => rfl
  | cons v vs ih => rw [redactItems, ih, List.map_cons]

theorem redactMembers_eq_map (ms : List (Text × Value)) :
    redactMembers isAlnum ms = ms.map (redactMember isAlnum) := by
  induction ms with
  | nil => rfl
  | cons m ms ih => rw [redactMembers, ih, List.map_cons]

mutual

theorem safe_redactMetadata (v : Value) : Safe isAlnum (redactMetadata isAlnum v) := by
  cases v with
  | null => exact .null
  | bool b => exact .bool b
  | num token => exact .num token
  | str s => exact .str (finditer_sub_email s)
  | arr vs =>
    rw [redactMetadata]
    exact .arr (safe_redactItems vs)
  | obj ms =>
    rw [redactMetadata]
    exact .obj (fun m hm => (safe_redactMembers ms m hm).1) fun m hm =>
      (safe_redactMembers ms m hm).2
termination_by structural v

theorem safe_redactItems (vs : List Value) : ∀ v ∈ redactItems isAlnum vs, Safe isAlnum v := by
  cases vs with
  | nil => exact fun v hv => absurd hv List.not_mem_nil
  | cons v vs =>
    exact List.forall_mem_cons.mpr ⟨safe_redactMetadata v, safe_redactItems vs⟩
termination_by structural vs

theorem safe_redactMembers (ms : List (Text × Value)) : ∀ m ∈ redactMembers isAlnum ms,
    (SensitiveKey m.1 → m.2 = .str redacted) ∧ Safe isAlnum m.2 := by
  cases ms with
  | nil => exact fun m hm => absurd hm List.not_mem_nil
  | cons m ms => exact List.forall_mem_cons.mpr ⟨safe_redactMember m, safe_redactMembers ms⟩
termination_by structural ms

theorem safe_redactMember (m : Text × Value) :
    (SensitiveKey (redactMember isAlnum m).1 → (redactMember isAlnum m).2 = .str redacted) ∧
      Safe isAlnum (redactMember isAlnum m).2 := by
  cases m with
  | mk k v =>
    rw [redactMember]
    by_cases hk : SensitiveKey k
    · rw [if_pos hk]
      exact ⟨fun _ => rfl, .str (finditer_of_not_mem (by decide))⟩
    · rw [if_neg hk]
      exact ⟨fun h => absurd h hk, safe_redactMetadata v⟩
termination_by structural m

end

theorem redactMetadata_of_safe {v : Value} (h : Safe isAlnum v) : redactMetadata isAlnum v = v := by
  induction h with
  | null => rfl
  | bool b => rfl
  | num token => rfl
  | str h => rw [redactMetadata, sub_eq_self h]
  | @arr vs _ ih =>
    rw [redactMetadata, redactItems_eq_map]
    exact congrArg Value.arr (List.map_congr_left ih |>.trans (List.map_id vs))
  | @obj ms hkeys _ ih =>
    have hmembers : ∀ m ∈ ms, redactMember isAlnum m = id m := by
      intro m hm
      obtain ⟨k, v⟩ := m
      rw [redactMember]
      by_cases hk : SensitiveKey k
      · have hv : v = .str redacted := hkeys (k, v) hm hk
        rw [if_pos hk, hv, id]
      · rw [if_neg hk, ih (k, v) hm, id]
    rw [redactMetadata, redactMembers_eq_map]
    exact congrArg Value.obj (List.map_congr_left hmembers |>.trans (List.map_id ms))

/-- The values that redaction leaves alone are the safe ones. -/
theorem safe_iff_redactMetadata_eq {v : Value} : Safe isAlnum v ↔ redactMetadata isAlnum v = v := by
  refine ⟨redactMetadata_of_safe, fun h => ?_⟩
  rw [← h]
  exact safe_redactMetadata v

theorem redactMetadata_of_not_mem {s : Text} (h : '@' ∉ s) :
    redactMetadata isAlnum (.str s) = .str s :=
  redactMetadata_of_safe (.str (finditer_of_not_mem h))

theorem redactMember_fst (m : Text × Value) : (redactMember isAlnum m).1 = m.1 := by
  cases m with
  | mk k v => rfl

theorem redactMembers_keys (ms : List (Text × Value)) :
    (redactMembers isAlnum ms).map Prod.fst = ms.map Prod.fst := by
  rw [redactMembers_eq_map, List.map_map]
  exact List.map_congr_left fun m _ => redactMember_fst m

theorem get?_redactMembers {k : Text} (hk : ¬ SensitiveKey k) (ms : Dict Text Value) :
    get? k (redactMembers isAlnum ms) = (get? k ms).map (redactMetadata isAlnum) := by
  induction ms with
  | nil => rfl
  | cons m ms ih =>
    obtain ⟨l, v⟩ := m
    rw [redactMembers, redactMember, get?, get?, ih]
    by_cases h : l = k
    · subst h
      rw [if_pos rfl, if_pos rfl, if_neg hk, Option.map_some]
    · rw [if_neg h, if_neg h]

end Values

section Client

inductive AuditEventType where
  | jobStatusChanged
  | artifactRegistered
  | callbackDelivered
  | manifestValidated
  | predictionsValidated
  | datasetVersionProposed
  | lineageReportBuilt
  | exportPackageBuilt
deriving DecidableEq

structure PlatformJobEvent where
  platformJobId : NonEmptyStr
  organizationId : NonEmptyStr
  projectId : NonEmptyStr
  status : ComputeRunStatus
  stage : NonEmptyStr
  occurredAt : Datetime
  details : List (Text × Value)

structure PlatformAuditEvent where
  auditEventId : NonEmptyStr
  eventType : AuditEventType
  organizationId : NonEmptyStr
  projectId : NonEmptyStr
  actorService : NonEmptyStr := literal "dataforgeai-ml-service"
  occurredAt : Datetime
  metadata : List (Text × Value)

variable (isAlnum : Char → Bool)

def PlatformJobEvent.redacted (event : PlatformJobEvent) : PlatformJobEvent :=
  { event with details := redactMembers isAlnum event.details }

def PlatformAuditEvent.redacted (event : PlatformAuditEvent) : PlatformAuditEvent :=
  { event with metadata := redactMembers isAlnum event.metadata }

structure FakePlatformState where
  jobEvents : List PlatformJobEvent := []
  auditEvents : List PlatformAuditEvent := []
  artifactRefs : List ArtifactRef := []

/-- A request to one of the callback routes, or what it answers. -/
inductive Callback where
  | jobEvent (event : PlatformJobEvent)
  | auditEvent (event : PlatformAuditEvent)
  | artifactRef (artifactRef : ArtifactRef)

def recordJobEvent (event : PlatformJobEvent) (s : FakePlatformState) :
    Callback × FakePlatformState :=
  let stored := event.redacted isAlnum
  (.jobEvent stored, { s with jobEvents := s.jobEvents ++ [stored] })

def recordAuditEvent (event : PlatformAuditEvent) (s : FakePlatformState) :
    Callback × FakePlatformState :=
  let stored := event.redacted isAlnum
  (.auditEvent stored, { s with auditEvents := s.auditEvents ++ [stored] })

def recordArtifactRef (artifactRef : ArtifactRef) (s : FakePlatformState) :
    Callback × FakePlatformState :=
  (.artifactRef artifactRef, { s with artifactRefs := s.artifactRefs ++ [artifactRef] })

def record : Callback → FakePlatformState → Callback × FakePlatformState
  | .jobEvent event => recordJobEvent isAlnum event
  | .auditEvent event => recordAuditEvent isAlnum event
  | .artifactRef ref => recordArtifactRef ref

/-- The answers to a run of callbacks, and the state after it. -/
def recordAll : List Callback → FakePlatformState → List Callback × FakePlatformState
  | [], s => ([], s)
  | call :: calls, s =>
    let (answer, t) := record isAlnum call s
    let (answers, u) := recordAll calls t
    (answer :: answers, u)

def Callback.jobEvent? : Callback → Option PlatformJobEvent
  | .jobEvent event => some event
  | _ => none

def Callback.auditEvent? : Callback → Option PlatformAuditEvent
  | .auditEvent event => some event
  | _ => none

def Callback.artifactRef? : Callback → Option ArtifactRef
  | .artifactRef ref => some ref
  | _ => none

def Callback.redacted : Callback → Callback
  | .jobEvent event => .jobEvent (event.redacted isAlnum)
  | .auditEvent event => .auditEvent (event.redacted isAlnum)
  | .artifactRef ref => .artifactRef ref

/-- All that the platform holds is safe. -/
structure SafeState (s : FakePlatformState) : Prop where
  details : ∀ event ∈ s.jobEvents, Safe isAlnum (.obj event.details)
  metadata : ∀ event ∈ s.auditEvents, Safe isAlnum (.obj event.metadata)

theorem redactMembers_redactMembers (ms : List (Text × Value)) :
    redactMembers isAlnum (redactMembers isAlnum ms) = redactMembers isAlnum ms := by
  have h := redactMetadata_of_safe (@safe_redactMetadata isAlnum (.obj ms))
  rw [redactMetadata, redactMetadata] at h
  exact Value.obj.inj h

theorem Callback.redacted_redacted (call : Callback) :
    (call.redacted isAlnum).redacted isAlnum = call.redacted isAlnum := by
  cases call with
  | jobEvent event =>
    rw [redacted, redacted, PlatformJobEvent.redacted, PlatformJobEvent.redacted,
      redactMembers_redactMembers]
  | auditEvent event =>
    rw [redacted, redacted, PlatformAuditEvent.redacted, PlatformAuditEvent.redacted,
      redactMembers_redactMembers]
  | artifactRef ref => rfl

/-- The state with some callbacks added as they are. -/
def FakePlatformState.append (s : FakePlatformState) (stored : List Callback) :
    FakePlatformState where
  jobEvents := s.jobEvents ++ stored.filterMap Callback.jobEvent?
  auditEvents := s.auditEvents ++ stored.filterMap Callback.auditEvent?
  artifactRefs := s.artifactRefs ++ stored.filterMap Callback.artifactRef?

theorem record_eq (call : Callback) (s : FakePlatformState) :
    record isAlnum call s = (call.redacted isAlnum, s.append [call.redacted isAlnum]) := by
  cases call <;> simp [record, recordJobEvent, recordAuditEvent, recordArtifactRef,
    Callback.redacted, FakePlatformState.append, Callback.jobEvent?, Callback.auditEvent?,
    Callback.artifactRef?]

theorem recordAll_eq (calls : List Callback) (s : FakePlatformState) :
    recordAll isAlnum calls s =
      (calls.map (Callback.redacted isAlnum), s.append (calls.map (Callback.redacted isAlnum))) := by
  induction calls generalizing s with
  | nil => simp [recordAll, FakePlatformState.append]
  | cons call calls ih =>
    rw [recordAll, record_eq]
    simp only [ih, List.map_cons, FakePlatformState.append, List.append_assoc,
      ← List.filterMap_append, List.singleton_append]

/-- What one callback stores is safe. -/
theorem safeState_record (call : Callback) {s : FakePlatformState} (h : SafeState isAlnum s) :
    SafeState isAlnum (record isAlnum call s).2 := by
  have hsafe : ∀ ms, Safe isAlnum (.obj (redactMembers isAlnum ms)) := fun ms =>
    safe_redactMetadata (.obj ms)
  cases call with
  | jobEvent event =>
    refine ⟨fun found hfound => ?_, h.metadata⟩
    obtain hold | hnew := List.mem_append.mp hfound
    · exact h.details found hold
    · rw [List.mem_singleton.mp hnew]
      exact hsafe event.details
  | auditEvent event =>
    refine ⟨h.details, fun found hfound => ?_⟩
    obtain hold | hnew := List.mem_append.mp hfound
    · exact h.metadata found hold
    · rw [List.mem_singleton.mp hnew]
      exact hsafe event.metadata
  | artifactRef ref => exact ⟨h.details, h.metadata⟩

theorem safeState_recordAll (calls : List Callback) {s : FakePlatformState}
    (h : SafeState isAlnum s) : SafeState isAlnum (recordAll isAlnum calls s).2 := by
  induction calls generalizing s with
  | nil => exact h
  | cons call calls ih => exact ih (safeState_record isAlnum call h)

/-- Redaction leaves no address and tells nothing under a sensitive key, it keeps the keys of
every object in their order, and it changes no value that is safe already. -/
theorem redactMetadata_safe (v : Value) :
    Safe isAlnum (redactMetadata isAlnum v) ∧
      redactMetadata isAlnum (redactMetadata isAlnum v) = redactMetadata isAlnum v ∧
      (redactMetadata isAlnum v = v ↔ Safe isAlnum v) ∧
      ∀ ms, v = .obj ms → ∃ kept, redactMetadata isAlnum v = .obj kept ∧
        kept.map Prod.fst = ms.map Prod.fst := by
  have hsafe := @safe_redactMetadata isAlnum v
  refine ⟨hsafe, redactMetadata_of_safe hsafe, safe_iff_redactMetadata_eq.symm, ?_⟩
  rintro ms rfl
  exact ⟨redactMembers isAlnum ms, rfl, redactMembers_keys ms⟩

end Client

end DataForge.Adapters.PlatformMetadata
