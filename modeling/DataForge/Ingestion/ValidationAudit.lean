import DataForge.Adapters.PlatformMetadata
import DataForge.Ingestion.JsonlContract

namespace DataForge.Ingestion.ValidationAudit

open DataForge.Foundation.Strings
open DataForge.Foundation.Dictionary
open DataForge.Foundation.Sha256
open DataForge.Foundation.Outcome
open DataForge.Foundation.Runs
open DataForge.Foundation.Json
open DataForge.Foundation.JsonErrors
open DataForge.Domain.Common
open DataForge.Domain.Artifact
open DataForge.Adapters.ObjectStorage
open DataForge.Adapters.ArtifactRegistry
open DataForge.Adapters.RegistryStep
open DataForge.Adapters.RegistryRuns
open DataForge.Adapters.HonestStore
open DataForge.Adapters.PlatformMetadata
open DataForge.Ingestion.JsonlContract

/-- The arguments of a validating builder, with what it reads from its surroundings. -/
structure ValidationCall where
  raw : RegisteredArtifact
  datasetVersionId : Text
  parentVersionId : Text
  createdByJobId : Text
  configHash : Text
  organizationId : Text := []
  projectId : Text := []
  auditSink : Bool := false
  clock : Clock
  uuid : Text
  now : Datetime

/-- What the builders of validated manifests and of prediction manifests differ in. -/
structure Publication (ρ : Type) where
  contract : Contract ρ
  kind : Text
  schemaVersion : Text
  eventType : AuditEventType
  saveMetadata : RegisteredArtifact → List ρ → Result (Dict Text Text)
  rowMetadata : List ρ → Result (List (Text × Value))

section Builder

variable {ρ : Type} (pub : Publication ρ)

def countValue (n : Nat) : Value := .num ⟨Nat.toDigits 10 n, isNumber_toDigits n⟩

def Publication.saveRequest (call : ValidationCall) (data : Bytes) (count : Nat)
    (metadata : Dict Text Text) : SaveRequest where
  artifactKind := pub.kind
  data := data
  artifactFormat := "jsonl".toList
  mediaType := "application/jsonl".toList
  schemaVersion := pub.schemaVersion
  datasetVersionId := call.datasetVersionId
  createdByJobId := call.createdByJobId
  configHash := call.configHash
  metadata := ("row_count".toList, Nat.toDigits 10 count) :: metadata

def Publication.request (call : ValidationCall) (data : Bytes) (rows : List ρ) :
    Result SaveRequest :=
  (pub.saveMetadata call.raw rows).map (pub.saveRequest call data rows.length)

def Publication.auditMetadata (call : ValidationCall) (artifact : RegisteredArtifact)
    (count : Nat) (told : List (Text × Value)) : List (Text × Value) :=
  [("compute_run_job_id".toList, .str call.createdByJobId),
    ("dataset_version_id".toList, .str call.datasetVersionId),
    ("parent_version_id".toList, .str call.parentVersionId),
    ("config_hash".toList, .str call.configHash),
    ("input_artifact_kind".toList, .str call.raw.artifactKind.1),
    ("input_artifact_uri".toList, .str call.raw.uri.1),
    ("input_hash".toList, .str call.raw.hash.1),
    ("output_artifact_kind".toList, .str artifact.artifactKind.1),
    ("output_artifact_uri".toList, .str artifact.uri.1),
    ("output_hash".toList, .str artifact.hash.1),
    ("schema_version".toList, .str pub.schemaVersion),
    ("row_count".toList, countValue count)] ++ told

theorem auditPrefix_ne_nil : "audit_".toList ≠ [] := by decide

def Publication.auditEvent (call : ValidationCall) (artifact : RegisteredArtifact)
    (count : Nat) (told : List (Text × Value)) : PlatformAuditEvent where
  auditEventId := ⟨"audit_".toList ++ call.uuid,
    List.append_ne_nil_of_left_ne_nil auditPrefix_ne_nil call.uuid⟩
  eventType := pub.eventType
  organizationId := (nonEmpty call.organizationId).getD (literal "org_compute_plane")
  projectId := (nonEmpty call.projectId).getD (literal "project_compute_plane")
  occurredAt := call.now
  metadata := pub.auditMetadata call artifact count told

/-- What the compute plane and the platform hold. -/
structure Plane where
  objects : S3Objects
  platform : FakePlatformState

def onObjects {ε α : Type} (m : Effect ε S3Objects α) : Effect ε Plane α := fun s =>
  ((m.run s.objects).1, ⟨(m.run s.objects).2, s.platform⟩)

variable (isAlnum : Char → Bool)

/-- `if audit_sink is not None`. -/
def recordEvent (auditSink : Bool) (event : PlatformAuditEvent) :
    Effect Failure Plane PlatformAuditEvent := fun s =>
  if auditSink then
    (.ok (event.redacted isAlnum), ⟨s.objects, (recordAuditEvent isAlnum event s.platform).2⟩)
  else (.ok event, s)

structure Built (ρ : Type) where
  artifact : RegisteredArtifact
  rows : List ρ
  auditEvent : PlatformAuditEvent

variable (p : Platform) (json : JsonModule Raised) (wording : Wording)

/-- `build_validated_manifest` and `build_validated_predictions`. -/
def build (a : MinioObjectStorageAdapter) (call : ValidationCall) :
    Effect Failure Plane (Built ρ) := do
  let saved ← onObjects
    (buildValidated p a json wording pub.contract call.clock (pub.request call) call.raw)
  let told ← Effect.lift ((pub.rowMetadata saved.2).mapError Failure.raised)
  let event ← recordEvent isAlnum call.auditSink
    (pub.auditEvent call saved.1 saved.2.length told)
  pure ⟨saved.1, saved.2, event⟩

end Builder

section Spec

variable {ρ : Type} {pub : Publication ρ} {isAlnum : Char → Bool} {p : Platform}
  {json : JsonModule Raised} {wording : Wording} {a : MinioObjectStorageAdapter}
  {call : ValidationCall}

theorem run_onObjects {ε α : Type} (m : Effect ε S3Objects α) (s : Plane) :
    (onObjects m).run s = ((m.run s.objects).1, ⟨(m.run s.objects).2, s.platform⟩) := rfl

/-- An artifact is registered under the digest of the data. -/
theorem hash_saveArtifact {clock : Clock} {r : SaveRequest} {s t : S3Objects}
    {record : RegisteredArtifact} (h : (saveArtifact p a clock r).run s = (.ok record, t)) :
    record.hash.1 = sha256 r.data := by
  obtain ⟨e, -, hrun⟩ | ⟨addr, key, obj, -, -, hrun⟩ | ⟨addr, key, -, -, hrun⟩ :=
    run_saveArtifact_cases p a clock r s
  · rw [hrun] at h
    cases (Prod.mk.inj h).1
  · rw [hrun] at h
    obtain ⟨info, -, hrecord⟩ := bind_eq_ok.mp (Prod.mk.inj h).1
    obtain ⟨hmatch, hrecord⟩ := check_bind_eq_ok.mp hrecord
    obtain ⟨ref, href, hrecord⟩ := bind_eq_ok.mp hrecord
    obtain ⟨-, -, -, hhash, -⟩ := ArtifactFields.validate_eq_ok href
    rw [(recordFromRef_eq_ok hrecord).2.2, hhash]
    exact (guardOk_eq_ok.mp hmatch).1
  · rw [hrun] at h
    obtain ⟨ref, href, hrecord⟩ := bind_eq_ok.mp (Prod.mk.inj h).1
    obtain ⟨created, -, href⟩ := bind_eq_ok.mp href
    obtain ⟨-, -, -, hhash, -⟩ := ArtifactFields.validate_eq_ok href
    rw [(recordFromRef_eq_ok hrecord).2.2, hhash]
    rfl

/-- The store after a build is the store after its validation, and the platform has at most
one more event, of which the answer tells. -/
theorem run_build_cases (s : Plane) :
    (∃ e answer t, (build pub isAlnum p json wording a call).run s = (.error e, ⟨t, s.platform⟩) ∧
      (buildValidated p a json wording pub.contract call.clock (pub.request call) call.raw).run
        s.objects = (answer, t)) ∨
    ∃ artifact rows told t, (buildValidated p a json wording pub.contract call.clock
        (pub.request call) call.raw).run s.objects = (.ok (artifact, rows), t) ∧
      ((call.auditSink = false ∧ (build pub isAlnum p json wording a call).run s =
          (.ok ⟨artifact, rows, pub.auditEvent call artifact rows.length told⟩,
            ⟨t, s.platform⟩)) ∨
        call.auditSink = true ∧ (build pub isAlnum p json wording a call).run s =
          (.ok ⟨artifact, rows, (pub.auditEvent call artifact rows.length told).redacted isAlnum⟩,
            ⟨t, (recordAuditEvent isAlnum (pub.auditEvent call artifact rows.length told)
              s.platform).2⟩)) := by
  cases hrun : (buildValidated p a json wording pub.contract call.clock (pub.request call)
      call.raw).run s.objects with
  | mk answer t =>
    have hobjects := run_onObjects (buildValidated p a json wording pub.contract call.clock
      (pub.request call) call.raw) s
    rw [hrun] at hobjects
    cases answer with
    | error e => exact .inl ⟨e, _, t, Effect.run_bind_error hobjects _, rfl⟩
    | ok saved =>
      obtain ⟨artifact, rows⟩ := saved
      rw [build, Effect.run_bind_ok hobjects, Effect.run_bind_lift]
      cases htold : pub.rowMetadata rows with
      | error e => exact .inl ⟨.raised e, _, t, rfl, rfl⟩
      | ok told =>
        refine .inr ⟨artifact, rows, told, t, rfl, ?_⟩
        cases hsink : call.auditSink with
        | false => exact .inl ⟨rfl, rfl⟩
        | true => exact .inr ⟨rfl, rfl⟩

/-- A validation that succeeds saves the bytes of the raw artifact, which it has compared with
its record. -/
theorem buildValidated_eq_ok {request : Bytes → List ρ → Result SaveRequest} {clock : Clock}
    {c : Contract ρ} {raw artifact : RegisteredArtifact} {rows : List ρ} {s t : S3Objects}
    (h : (buildValidated p a json wording c clock request raw).run s = (.ok (artifact, rows), t)) :
    ∃ key obj, a.keyForUri raw.uri.1 = .ok key ∧ get? (a.bucketName, key) s = some obj ∧
      raw.hash.1 = sha256 obj.body ∧ validateJsonl json wording c obj.body = .ok rows ∧
      ∃ asked, request obj.body rows = .ok asked ∧
        (saveArtifact p a clock asked).run s = (.ok artifact, t) := by
  obtain ⟨e, hrun⟩ | ⟨key, obj, found, asked, hkey, hobj, hhash, hrows, hasked, hrun⟩ :=
    @run_buildValidated_cases ρ p a json wording c clock request raw s
  · rw [hrun] at h
    cases (Prod.mk.inj h).1
  · rw [hrun] at h
    cases hsave : (saveArtifact p a clock asked).run s with
    | mk answer u =>
      rw [hsave] at h
      cases answer with
      | error e => cases (Prod.mk.inj h).1
      | ok record =>
        obtain ⟨hanswer, rfl⟩ := Prod.mk.inj h
        obtain ⟨rfl, rfl⟩ := Prod.mk.inj (Except.ok.inj hanswer)
        exact ⟨key, obj, hkey, hobj, hhash, hrows, asked, hasked, hsave⟩

end Spec

section Digests

variable {ρ : Type} {pub : Publication ρ} {isAlnum : Char → Bool} {call : ValidationCall}
  {artifact : RegisteredArtifact} {count : Nat} {told : List (Text × Value)}

theorem not_mem_digest (d : Sha256Digest) : '@' ∉ d.1 := by
  obtain ⟨hex, hd, -, hhex⟩ := d.2
  rw [hd]
  intro hmem
  obtain hmem | hmem := List.mem_append.mp hmem
  · exact absurd hmem (by decide)
  · exact absurd (hhex _ hmem) (by decide)

/-- An event tells two digests. -/
def Tells (event : PlatformAuditEvent) (input output : Text) : Prop :=
  get? "input_hash".toList event.metadata = some (.str input) ∧
    get? "output_hash".toList event.metadata = some (.str output)

theorem tells_auditEvent :
    Tells (pub.auditEvent call artifact count told) call.raw.hash.1 artifact.hash.1 := ⟨rfl, rfl⟩

/-- Redaction leaves the digests of an event. -/
theorem tells_redacted {event : PlatformAuditEvent} {input output : Sha256Digest}
    (h : Tells event input.1 output.1) : Tells (event.redacted isAlnum) input.1 output.1 := by
  constructor
  · rw [PlatformAuditEvent.redacted, get?_redactMembers (by decide), h.1, Option.map_some,
      redactMetadata_of_not_mem (not_mem_digest input)]
  · rw [PlatformAuditEvent.redacted, get?_redactMembers (by decide), h.2, Option.map_some,
      redactMetadata_of_not_mem (not_mem_digest output)]

end Digests

section Soundness

variable {ρ : Type} {pub : Publication ρ} {isAlnum : Char → Bool} {p : Platform}
  {json : JsonModule Raised} {wording : Wording} {a : MinioObjectStorageAdapter}
  {call : ValidationCall} {kind : Text} {valid : Bytes → Prop} {eventType : AuditEventType}

/-- An object with this digest is stored under the kind. -/
def StoredUnder (p : Platform) (kind digest : Text) (s : S3Objects) : Prop :=
  ∃ k obj, get? k s = some obj ∧ sha256 obj.body = digest ∧
    get? "artifact-kind".toList (stringMetadata p obj.metadata) = some kind

/-- What holds between the store and the events of the platform: what is stored under the kind
is valid, and each event of the type tells one digest twice, that of a stored object. -/
structure Sound (p : Platform) (kind : Text) (valid : Bytes → Prop) (eventType : AuditEventType)
    (s : Plane) : Prop where
  honest : Honest p (fun _ => True) s.objects
  bodies : ValidBodies p kind valid s.objects
  events : ∀ event ∈ s.platform.auditEvents, event.eventType = eventType →
    ∃ digest, Tells event digest digest ∧ StoredUnder p kind digest s.objects

theorem stored_saveArtifact {clock : Clock} {r : SaveRequest} {s t : S3Objects}
    {record : RegisteredArtifact} (hlower : LowerKeys p r.metadata)
    (hhonest : Honest p (fun _ => True) s)
    (h : (saveArtifact p a clock r).run s = (.ok record, t)) :
    StoredUnder p (strip r.artifactKind) (sha256 r.data) t := by
  obtain ⟨e, -, hrun⟩ | ⟨addr, key, obj, hplace, hobj, hrun⟩ | ⟨addr, key, hplace, -, hrun⟩ :=
    run_saveArtifact_cases p a clock r s
  · rw [hrun] at h
    cases (Prod.mk.inj h).1
  · rw [hrun] at h
    obtain ⟨hrecord, rfl⟩ := Prod.mk.inj h
    obtain ⟨info, hinfo, hrecord⟩ := bind_eq_ok.mp hrecord
    obtain ⟨hmatch, -⟩ := check_bind_eq_ok.mp hrecord
    obtain ⟨hdigest, hexpected⟩ := guardOk_eq_ok.mp hmatch
    obtain ⟨hsame, -, hhash, -⟩ := head_info hinfo
    have hbody := hhash _ (sha256_ne_nil obj.body) (hhonest _ _ hobj).2
    have hkind := hexpected ("artifact-kind".toList, addr.kind.1) (by simp [expectedMetadata])
    have hstrip := (SaveRequest.address_eq_ok (place_eq_ok a hplace).1).1
    exact ⟨_, obj, hobj, hbody.symm.trans hdigest, by rw [← hsame, hkind, hstrip]⟩
  · rw [hrun] at h
    obtain ⟨-, rfl⟩ := Prod.mk.inj h
    obtain ⟨hsame, hexpected⟩ := putMetadata_spec addr hlower
    have hkind := hexpected ("artifact-kind".toList, addr.kind.1) (by simp [expectedMetadata])
    have hstrip := (SaveRequest.address_eq_ok (place_eq_ok a hplace).1).1
    exact ⟨_, _, get?_set_self _ _ _, rfl, by rw [writtenObject, hsame, hkind, hstrip]⟩

theorem storedUnder_save {digest : Text} {s : S3Objects} {call : SaveCall}
    (h : StoredUnder p kind digest s) : StoredUnder p kind digest ((save p a call).run s).2 := by
  obtain ⟨k, obj, hobj, hrest⟩ := h
  exact ⟨k, obj, save_keeps hobj, hrest⟩

/-- A save that is valid for its kind keeps the store and the events sound. -/
theorem sound_save {s : Plane} {call : SaveCall} (hlower : LowerKeys p call.request.metadata)
    (hvalid : strip call.request.artifactKind = kind → valid call.request.data)
    (h : Sound p kind valid eventType s) :
    Sound p kind valid eventType ⟨((save p a call).run s.objects).2, s.platform⟩ where
  honest := save_honest trivial hlower h.honest
  bodies := save_validBodies hlower hvalid h.bodies
  events event hevent htype := by
    obtain ⟨digest, htells, hstored⟩ := h.events event hevent htype
    exact ⟨digest, htells, storedUnder_save hstored⟩

/-- What is asked of a builder: it saves under lower case keys, what its contract accepts is
valid for the kind if that is its own, and events of the type are about the kind. -/
structure Fits (pub : Publication ρ) (p : Platform) (json : JsonModule Raised) (wording : Wording)
    (kind : Text) (valid : Bytes → Prop) (eventType : AuditEventType) : Prop where
  lower : ∀ raw rows metadata, pub.saveMetadata raw rows = .ok metadata → LowerKeys p metadata
  accepted : strip pub.kind = kind → ∀ data, Valid json wording pub.contract data → valid data
  about : pub.eventType = eventType → strip pub.kind = kind

/-- What a builder asks the registry to save. -/
theorem request_eq_ok (hpub : Fits pub p json wording kind valid eventType) {data : Bytes}
    {rows : List ρ} {asked : SaveRequest} (h : pub.request call data rows = .ok asked) :
    LowerKeys p asked.metadata ∧ asked.artifactKind = pub.kind ∧ asked.data = data := by
  obtain ⟨metadata, hmetadata, rfl⟩ := map_eq_ok.mp h
  have hcount : p.lower "row_count".toList = "row_count".toList :=
    (p.lower_ascii _ (forall_mem_of_all (by decide))).trans (by decide)
  exact ⟨List.forall_mem_cons.mpr ⟨hcount, hpub.lower call.raw rows metadata hmetadata⟩, rfl, rfl⟩

/-- A build keeps the store and the events sound. -/
theorem sound_build {s : Plane} (hpub : Fits pub p json wording kind valid eventType)
    (h : Sound p kind valid eventType s) :
    Sound p kind valid eventType ((build pub isAlnum p json wording a call).run s).2 := by
  have hstate : ∀ answer objects, (buildValidated p a json wording pub.contract call.clock
      (pub.request call) call.raw).run s.objects = (answer, objects) →
        Sound p kind valid eventType ⟨objects, s.platform⟩ := by
    intro answer objects hrun
    obtain ⟨e, hcase⟩ | ⟨key, obj, rows, asked, -, -, -, hrows, hasked, hcase⟩ :=
      @run_buildValidated_cases ρ p a json wording pub.contract call.clock (pub.request call)
        call.raw s.objects
    · obtain ⟨-, rfl⟩ := Prod.mk.inj (hrun.symm.trans hcase)
      exact h
    · obtain ⟨-, rfl⟩ := Prod.mk.inj (hrun.symm.trans hcase)
      obtain ⟨hlower, hkind, hdata⟩ := request_eq_ok hpub hasked
      refine @sound_save p a kind valid eventType s ⟨asked, call.clock⟩ hlower ?_ h
      dsimp only
      rw [hkind, hdata]
      exact fun hown => hpub.accepted hown obj.body ⟨rows, hrows⟩
  obtain ⟨e, answer, t, hrun, hcase⟩ | ⟨artifact, rows, told, t, hcase, ⟨-, hrun⟩ | ⟨-, hrun⟩⟩ :=
    @run_build_cases ρ pub isAlnum p json wording a call s
  · rw [hrun]
    exact hstate _ _ hcase
  · rw [hrun]
    exact hstate _ _ hcase
  · rw [hrun]
    have hkept := hstate _ _ hcase
    refine ⟨hkept.honest, hkept.bodies, fun event hevent htype => ?_⟩
    obtain hold | hnew := List.mem_append.mp hevent
    · exact hkept.events event hold htype
    · obtain rfl := List.mem_singleton.mp hnew
      obtain ⟨key, obj, -, -, hraw, -, asked, hasked, hsave⟩ := buildValidated_eq_ok hcase
      obtain ⟨hlower, hkind, hdata⟩ := request_eq_ok hpub hasked
      have hhash := hash_saveArtifact hsave
      rw [hdata] at hhash
      have hsame : call.raw.hash = artifact.hash := Subtype.ext (hraw.trans hhash.symm)
      have htells := @tells_redacted isAlnum _ _ _
        (@tells_auditEvent ρ pub call artifact rows.length told)
      have hstored := stored_saveArtifact hlower h.honest hsave
      rw [hsame] at htells
      refine ⟨artifact.hash.1, htells, ?_⟩
      rw [hkind, hdata, hpub.about htype] at hstored
      rw [hhash]
      exact hstored

end Soundness

section Runs

variable {β : Type} {ρ : β → Type} (pub : (b : β) → Publication (ρ b)) (isAlnum : Char → Bool)
  (p : Platform) (json : JsonModule Raised) (wording : Wording)

/-- A step of the compute plane: some artifact is saved, or one of the builders is called. -/
inductive PlaneCall (β : Type) where
  | save (a : MinioObjectStorageAdapter) (call : SaveCall)
  | build (a : MinioObjectStorageAdapter) (b : β) (call : ValidationCall)

def step : PlaneCall β → Effect Failure Plane RegisteredArtifact
  | .save a call => onObjects (liftRaised (save p a call))
  | .build a b call => do
    let built ← build (pub b) isAlnum p json wording a call
    pure built.artifact

variable {pub isAlnum p json wording} {kind : Text} {valid : Bytes → Prop}
  {eventType : AuditEventType}

theorem run_step_build (a : MinioObjectStorageAdapter) (b : β) (call : ValidationCall)
    (s : Plane) : ((step pub isAlnum p json wording (.build a b call)).run s).2 =
      ((build (pub b) isAlnum p json wording a call).run s).2 := by
  rw [step]
  cases hrun : (build (pub b) isAlnum p json wording a call).run s with
  | mk answer t =>
    cases answer with
    | error e => rw [Effect.run_bind_error hrun]
    | ok built => rw [Effect.run_bind_ok hrun, Effect.run_pure]

/-- Over any run of saves and builds in any scopes the store and the events stay sound. -/
theorem sound_after {calls : List (PlaneCall β)}
    (hsaves : ∀ a call, PlaneCall.save a call ∈ calls → LowerKeys p call.request.metadata ∧
      (strip call.request.artifactKind = kind → valid call.request.data))
    (hbuilds : ∀ b, Fits (pub b) p json wording kind valid eventType) {s : Plane}
    (hs : Sound p kind valid eventType s) :
    Sound p kind valid eventType (after (step pub isAlnum p json wording) calls s) := by
  refine after_invariant _ hs fun call hcall t ht => ?_
  cases call with
  | save a call =>
    obtain ⟨hlower, hvalid⟩ := hsaves a call hcall
    exact sound_save hlower hvalid ht
  | build a b call =>
    rw [run_step_build]
    exact sound_build (hbuilds b) ht

end Runs

end DataForge.Ingestion.ValidationAudit
