import DataForge.Domain.Artifact
import DataForge.Foundation.Dictionary
import DataForge.Foundation.PosixPath

namespace DataForge.Adapters.ObjectStorage

open DataForge.Foundation.Strings
open DataForge.Foundation.Sha256
open DataForge.Foundation.PosixPath
open DataForge.Foundation.Outcome
open DataForge.Foundation.Dictionary
open DataForge.Domain.Common
open DataForge.Domain.Artifact

def objectStorageError (code : ErrorCode) (message : String) : Raised :=
  .coded "ObjectStorageError" code message

structure ObjectStorageScope where
  organizationId : NonEmptyStr
  projectId : NonEmptyStr
  datasetId : NonEmptyStr
deriving DecidableEq

def stripSlashes (value : Text) : Text := stripBy (· == '/') value

def safeRelativePath (value : Text) : Result Text :=
  let stripped := lstripBy (· == '/') (strip value)
  let normalized := normpath stripped
  if stripped = [] ∨ normalized = [] ∨ normalized = dot then
    .error (objectStorageError .invalidJobPayload "Object name must be a non-empty relative path")
  else if "../".toList <+: normalized ∨ normalized = dotdot ∨
      "/../".toList <:+: '/' :: normalized ++ ['/'] then
    .error (objectStorageError .artifactOutOfScope
      "Object name cannot traverse outside scoped prefix")
  else .ok normalized

/-- The codes of a refused path. -/
def PathCode (code : ErrorCode) : Prop := code = .invalidJobPayload ∨ code = .artifactOutOfScope

theorem codesIn_safeRelativePath (value : Text) : CodesIn PathCode (safeRelativePath value) := by
  unfold safeRelativePath
  dsimp only
  split
  · exact .coded (.inl rfl) _ _
  · split
    · exact .coded (.inr rfl) _ _
    · exact .ok _

def safePathPart (value : Text) : Result Text := do
  let path ← safeRelativePath value
  pure (stripSlashes path)

def joinKey (parts : List Text) : Text :=
  joinWith '/' ((parts.map stripSlashes).filter (· ≠ []))

/-- An adapter exists only over a root that `_safe_path_part` returned. -/
structure MinioObjectStorageAdapter where
  bucketName : Text
  prefixRoot : Text
  scope : ObjectStorageScope
  rooted : ∃ value, safePathPart value = .ok prefixRoot

theorem rooted_plain : ∃ value, safePathPart value = .ok ['r'] := ⟨['r'], rfl⟩

def minioObjectStorageAdapter (bucketName root : Text) (scope : ObjectStorageScope) :
    Result MinioObjectStorageAdapter :=
  match h : safePathPart root with
  | .error e => .error e
  | .ok prefixRoot => .ok ⟨bucketName, prefixRoot, scope, root, h⟩

instance decidableEqBytes : DecidableEq Bytes := ByteArray.instDecidableEq

structure S3Object where
  body : Bytes
  contentType : Text
  metadata : Dict Text Text
  lastModified : Option Datetime
deriving DecidableEq

/-- The objects of the client by bucket and key. -/
abbrev S3Objects := Dict (Text × Text) S3Object

structure StoredObjectInfo where
  uri : S3Uri
  hash : Sha256Digest
  sizeBytes : Nat
  contentType : NonEmptyStr
  updatedAt : Datetime
  metadata : Dict Text Text

structure StoredObject where
  data : Bytes
  info : StoredObjectInfo

/-- The clock at one call, and the time the store stamps on what it writes. -/
structure Clock where
  now : Datetime
  lastModified : Option Datetime

variable (p : Platform)

def stringMetadata (value : Dict Text Text) : Dict Text Text :=
  update [] (value.map fun item => (p.lower item.1, item.2))

def metadataDatetime (value : Option Text) : Result (Option Datetime) :=
  match value with
  | none => .ok none
  | some [] => .ok none
  | some v =>
    let normalized := v.flatMap fun c => if c = 'Z' then "+00:00".toList else [c]
    match p.fromisoformat normalized with
    | none => .ok none
    | some parsed =>
      match parsed.offset with
      | none => .ok (some parsed.assumeUtc)
      | some offset => (parsed.astimezoneUtc offset).map some

theorem uncoded_metadataDatetime (value : Option Text) : Uncoded (metadataDatetime p value) := by
  unfold metadataDatetime
  split
  · exact .ok _
  · exact .ok _
  · dsimp only
    split
    · exact .ok _
    · split
      · exact .ok _
      · rw [Datetime.astimezoneUtc]
        split <;> simp [CodesIn, Except.map]

namespace MinioObjectStorageAdapter

variable (a : MinioObjectStorageAdapter)

def allowedPrefix : Text :=
  joinKey [a.prefixRoot, a.scope.organizationId.1, a.scope.projectId.1, a.scope.datasetId.1]

def IsKeyInScope (key : Text) : Prop :=
  a.allowedPrefix ++ ['/'] <+: key ∧ dotdot ∉ key.splitOn '/'

instance (key : Text) : Decidable (a.IsKeyInScope key) := inferInstanceAs (Decidable (_ ∧ _))

def requireKeyInScope (key : Text) : Result Unit :=
  guardOk (a.IsKeyInScope key) (objectStorageError .artifactOutOfScope
    "Object URI is outside organization/project/dataset scope")

def keyForObjectName (objectName : Text) : Result Text := do
  let objectPath ← safeRelativePath objectName
  let key := joinKey [a.allowedPrefix, objectPath]
  a.requireKeyInScope key
  pure key

theorem codesIn_keyForObjectName (objectName : Text) :
    CodesIn PathCode (a.keyForObjectName objectName) :=
  .bind (codesIn_safeRelativePath objectName) fun _ _ =>
    .bind (.guard (.inr rfl) _ _ _) fun _ _ => .ok _

def uriPrefix : Text := "s3://".toList ++ a.bucketName ++ ['/']

def keyForUri (uri : Text) : Result Text := do
  guardOk (a.uriPrefix <+: uri)
    (objectStorageError .artifactOutOfScope "Object URI is outside configured bucket")
  let key := removePrefix a.uriPrefix uri
  a.requireKeyInScope key
  pure key

def uriForKey (key : Text) : Text := a.uriPrefix ++ key

def uriForObjectName (objectName : Text) : Result Text := do
  let key ← a.keyForObjectName objectName
  pure (a.uriForKey key)

structure PutRequest where
  objectName : Text
  data : Bytes
  kind : Text
  mediaType : Text
  schemaVersion : Text
  parentVersionId : Text
  jobId : Text
  configHash : Text
  metadata : Dict Text Text

/-- The metadata that `put` stores: the caller's entries under the adapter's own. -/
def putMetadata (r : PutRequest) : Dict Text Text :=
  stringMetadata p (update (update [] r.metadata)
    [("artifact-kind".toList, r.kind), ("schema-version".toList, r.schemaVersion),
      ("sha256".toList, sha256 r.data)])

def artifactId (kind digest : Text) : Text :=
  kind ++ ':' :: (removePrefix "sha256:".toList digest).take 16

/-- The reference that `put` returns once the object is written. -/
def putRef (clock : Clock) (r : PutRequest) (key : Text) : Result ArtifactRef := do
  let createdAt ← metadataDatetime p (get? "created-at".toList (putMetadata p r))
  ArtifactFields.validate
    { artifactId := artifactId r.kind (sha256 r.data)
      kind := r.kind
      uri := a.uriForKey key
      hash := sha256 r.data
      mediaType := r.mediaType
      sizeBytes := r.data.size
      schemaVersion := r.schemaVersion
      parentVersionId := r.parentVersionId
      jobId := r.jobId
      configHash := r.configHash
      createdAt := createdAt.getD clock.now }

theorem uncoded_putRef (clock : Clock) (r : PutRequest) (key : Text) :
    Uncoded (a.putRef p clock r key) :=
  .bind (uncoded_metadataDatetime p _) fun _ _ => ArtifactFields.uncoded_validate _

def put (clock : Clock) (r : PutRequest) : Effect Raised S3Objects ArtifactRef := do
  let key ← Effect.lift (a.keyForObjectName r.objectName)
  Effect.modify (set (a.bucketName, key) ⟨r.data, r.mediaType, putMetadata p r, clock.lastModified⟩)
  Effect.lift (a.putRef p clock r key)

def infoFromResponse (clock : Clock) (key : Text) (response : S3Object) (data : Option Bytes) :
    Result StoredObjectInfo := do
  let metadata := stringMetadata p response.metadata
  let recorded := (get? "sha256".toList metadata).getD []
  let digest := (data.map sha256).getD recorded
  let digest := if digest = [] then zeroDigest.1 else digest
  let created ← metadataDatetime p (get? "created-at".toList metadata)
  let updatedAt := (created.or response.lastModified).getD clock.now
  let contentType := if response.contentType = [] then "application/octet-stream".toList
    else response.contentType
  let uri ← field "StoredObjectInfo" "uri" (a.uriForKey key)
  let hash ← field "StoredObjectInfo" "hash" digest
  let contentType ← field "StoredObjectInfo" "content_type" contentType
  pure ⟨uri, hash, response.body.size, contentType, updatedAt, metadata⟩

theorem uncoded_infoFromResponse (clock : Clock) (key : Text) (response : S3Object)
    (data : Option Bytes) : Uncoded (a.infoFromResponse p clock key response data) :=
  .bind (uncoded_metadataDatetime p _) fun _ _ => .bind (uncoded_field _ _ _)
    fun _ _ => .bind (uncoded_field _ _ _) fun _ _ => .bind (uncoded_field _ _ _) fun _ _ => .ok _

def object (key : Text) : Effect Raised S3Objects S3Object := do
  let objects ← Effect.get
  match get? (a.bucketName, key) objects with
  | some response => pure response
  | none => Effect.raise (objectStorageError .artifactNotFound
      ("missing object " ++ String.ofList a.bucketName ++ "/" ++ String.ofList key))

def get (clock : Clock) (uri : Text) : Effect Raised S3Objects StoredObject := do
  let key ← Effect.lift (a.keyForUri uri)
  let response ← a.object key
  let info ← Effect.lift (a.infoFromResponse p clock key response (some response.body))
  pure ⟨response.body, info⟩

def head (clock : Clock) (uri : Text) : Effect Raised S3Objects StoredObjectInfo := do
  let key ← Effect.lift (a.keyForUri uri)
  let response ← a.object key
  Effect.lift (a.infoFromResponse p clock key response none)

end MinioObjectStorageAdapter

end DataForge.Adapters.ObjectStorage
