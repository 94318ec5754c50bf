import DataForge.Adapters.ObjectStorage

namespace DataForge.Adapters.ArtifactRegistry

open DataForge.Foundation.Strings
open DataForge.Foundation.Sha256
open DataForge.Foundation.PosixPath
open DataForge.Foundation.Outcome
open DataForge.Foundation.Dictionary
open DataForge.Domain.Common
open DataForge.Domain.Artifact
open DataForge.Adapters.ObjectStorage

structure RegisteredArtifact where
  artifactRef : ArtifactRef
  artifactKind : NonEmptyStr
  uri : S3Uri
  hash : Sha256Digest
  format : NonEmptyStr
  schemaVersion : NonEmptyStr
  createdByJobId : NonEmptyStr
deriving DecidableEq

/-- The class `[A-Za-z0-9_.-]`. -/
def componentChar (c : Char) : Bool :=
  ('A' ≤ c && c ≤ 'Z') || ('a' ≤ c && c ≤ 'z') || ('0' ≤ c && c ≤ '9') || c = '_' || c =
    '.' || c = '-'

/-- A path component made of such characters and kept by normalisation. -/
def IsComponent (s : Text) : Prop := Plain s ∧ ∀ c ∈ s, componentChar c = true

abbrev Component := { s : Text // IsComponent s }

def safeComponent (name : String) (value : Text) : Result Component :=
  let stripped := strip value
  if h : stripped = [] ∨ stripped = dot ∨ stripped = dotdot ∨ '/' ∈ stripped ∨ '\\' ∈ stripped then
    .error (objectStorageError .invalidJobPayload
      (name ++ " must be a non-empty path component"))
  else if hc : ∀ c ∈ stripped, componentChar c = true then
    .ok ⟨stripped, ⟨fun he => h (.inl he), fun he => h (.inr (.inl he)),
      fun he => h (.inr (.inr (.inl he))), fun he => h (.inr (.inr (.inr (.inl he))))⟩, hc⟩
  else .error (objectStorageError .invalidJobPayload (name ++ " contains unsupported characters"))

theorem safeComponent_eq_ok {name : String} {value : Text} {comp : Component}
    (h : safeComponent name value = .ok comp) : comp.1 = strip value := by
  simp only [safeComponent] at h
  split at h
  · cases h
  · split at h
    · obtain rfl := Except.ok.inj h
      rfl
    · cases h

theorem codesIn_safeComponent (name : String) (value : Text) :
    CodesIn PathCode (safeComponent name value) := by
  unfold safeComponent
  dsimp only
  split
  · exact .coded (.inl rfl) _ _
  · split
    · exact .ok _
    · exact .coded (.inl rfl) _ _

structure SaveRequest where
  artifactKind : Text
  data : Bytes
  artifactFormat : Text
  mediaType : Text
  schemaVersion : Text
  datasetVersionId : Text
  createdByJobId : Text
  configHash : Text
  metadata : Dict Text Text

/-- The five checked components of a request. -/
structure Address where
  kind : Component
  format : Component
  schema : Component
  version : Component
  job : Component

def SaveRequest.address (r : SaveRequest) : Result Address := do
  let kind ← safeComponent "artifact_kind" r.artifactKind
  let format ← safeComponent "artifact_format" r.artifactFormat
  let schema ← safeComponent "schema_version" r.schemaVersion
  let version ← safeComponent "dataset_version_id" r.datasetVersionId
  let job ← safeComponent "created_by_job_id" r.createdByJobId
  pure ⟨kind, format, schema, version, job⟩

theorem SaveRequest.codesIn_address (r : SaveRequest) : CodesIn PathCode r.address :=
  .bind (codesIn_safeComponent _ _) fun _ _ => .bind (codesIn_safeComponent _ _) fun _ _ =>
    .bind (codesIn_safeComponent _ _) fun _ _ => .bind (codesIn_safeComponent _ _) fun _ _ =>
      .bind (codesIn_safeComponent _ _) fun _ _ => .ok _

theorem SaveRequest.address_eq_ok {r : SaveRequest} {addr : Address} (h : r.address = .ok addr) :
    addr.kind.1 = strip r.artifactKind ∧ addr.format.1 = strip r.artifactFormat ∧
      addr.schema.1 = strip r.schemaVersion ∧ addr.version.1 = strip r.datasetVersionId ∧
      addr.job.1 = strip r.createdByJobId := by
  simp only [SaveRequest.address, bind_eq_ok, pure_eq, Except.ok.injEq] at h
  obtain ⟨_, hkind, _, hformat, _, hschema, _, hversion, _, hjob, rfl⟩ := h
  exact ⟨safeComponent_eq_ok hkind, safeComponent_eq_ok hformat, safeComponent_eq_ok hschema,
    safeComponent_eq_ok hversion, safeComponent_eq_ok hjob⟩

def objectComponents (addr : Address) (digest : Text) : List Text :=
  ["versions".toList, addr.version.1, "jobs".toList, addr.job.1, "artifacts".toList, addr.kind.1,
    addr.schema.1, removePrefix "sha256:".toList digest ++ '.' :: addr.format.1]

def objectName (addr : Address) (digest : Text) : Text :=
  joinWith '/' (objectComponents addr digest)

def recordFromRef (ref : ArtifactRef) (addr : Address) : Result RegisteredArtifact := do
  let kind ← field "RegisteredArtifact" "artifact_kind" addr.kind.1
  let format ← field "RegisteredArtifact" "format" addr.format.1
  let job ← field "RegisteredArtifact" "created_by_job_id" addr.job.1
  pure ⟨ref, kind, ref.uri, ref.hash, format, ref.schemaVersion, job⟩

theorem recordFromRef_eq_ok {ref : ArtifactRef} {addr : Address} {record : RegisteredArtifact}
    (h : recordFromRef ref addr = .ok record) :
    record.artifactRef = ref ∧ record.uri = ref.uri ∧ record.hash = ref.hash := by
  simp only [recordFromRef, bind_eq_ok, pure_eq, Except.ok.injEq] at h
  obtain ⟨_, -, _, -, _, -, rfl⟩ := h
  exact ⟨rfl, rfl, rfl⟩

theorem uncoded_recordFromRef (ref : ArtifactRef) (addr : Address) :
    Uncoded (recordFromRef ref addr) :=
  .bind (uncoded_field _ _ _) fun _ _ => .bind (uncoded_field _ _ _)
    fun _ _ => .bind (uncoded_field _ _ _) fun _ _ => .ok _

/-- The entries the registry compares with the request, in the source's order. -/
def expectedMetadata (addr : Address) (digest : Text) : Dict Text Text :=
  [("sha256".toList, digest), ("artifact-kind".toList, addr.kind.1),
    ("artifact-format".toList, addr.format.1), ("schema-version".toList, addr.schema.1),
    ("created-by-job-id".toList, addr.job.1), ("dataset-version-id".toList, addr.version.1)]

def Matches (info : StoredObjectInfo) (addr : Address) (digest : Text) : Prop :=
  info.hash.1 = digest ∧
    ∀ item ∈ expectedMetadata addr digest, get? item.1 info.metadata = some item.2

instance (info : StoredObjectInfo) (addr : Address) (digest : Text) :
    Decidable (Matches info addr digest) := inferInstanceAs (Decidable (_ ∧ _))

/-- The record of an object that is there, once it is compared with the request. -/
def matchingRecord (info : StoredObjectInfo) (addr : Address) (digest configHash : Text) :
    Result RegisteredArtifact := do
  guardOk (Matches info addr digest) (objectStorageError .contractValidationFailed
    "Existing artifact metadata does not match registry request")
  let ref ← ArtifactFields.validate
    { artifactId := MinioObjectStorageAdapter.artifactId addr.kind.1 info.hash.1
      kind := addr.kind.1
      uri := info.uri.1
      hash := info.hash.1
      mediaType := info.contentType.1
      sizeBytes := info.sizeBytes
      schemaVersion := addr.schema.1
      parentVersionId := addr.version.1
      jobId := addr.job.1
      configHash := configHash
      createdAt := info.updatedAt }
  recordFromRef ref addr

section

variable (p : Platform) (a : MinioObjectStorageAdapter)

/-- `head`, with an absent object answered by `none`. -/
def headOrNone (clock : Clock) (uri : Text) : Effect Raised S3Objects (Option StoredObjectInfo) :=
  Effect.tryCatch (do let info ← a.head p clock uri; pure (some info)) fun e =>
    match e with
    | .coded "ObjectStorageError" .artifactNotFound _ => pure none
    | e => Effect.raise e

def existingArtifact (clock : Clock) (uri : Text) (addr : Address) (digest configHash : Text) :
    Effect Raised S3Objects (Option RegisteredArtifact) := do
  match ← headOrNone p a clock uri with
  | none => pure none
  | some info => Effect.lift ((matchingRecord info addr digest configHash).map some)

/-- What `save_artifact` passes to `put`. -/
def putRequest (r : SaveRequest) (addr : Address) : MinioObjectStorageAdapter.PutRequest where
  objectName := objectName addr (sha256 r.data)
  data := r.data
  kind := addr.kind.1
  mediaType := r.mediaType
  schemaVersion := addr.schema.1
  parentVersionId := addr.version.1
  jobId := addr.job.1
  configHash := r.configHash
  metadata := update (update [] r.metadata)
    [("artifact-format".toList, addr.format.1), ("created-by-job-id".toList, addr.job.1),
      ("dataset-version-id".toList, addr.version.1)]

def saveArtifact (clock : Clock) (r : SaveRequest) :
    Effect Raised S3Objects RegisteredArtifact := do
  let addr ← Effect.lift r.address
  let uri ← Effect.lift (a.uriForObjectName (objectName addr (sha256 r.data)))
  match ← existingArtifact p a clock uri addr (sha256 r.data) r.configHash with
  | some existing => pure existing
  | none =>
    let ref ← a.put p clock (putRequest r addr)
    Effect.lift (recordFromRef ref addr)

end

end DataForge.Adapters.ArtifactRegistry
