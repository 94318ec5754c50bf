import DataForge.Adapters.ArtifactKeys

namespace DataForge.Adapters.RegistryStep

open DataForge.Foundation.Strings
open DataForge.Foundation.Sha256
open DataForge.Foundation.Outcome
open DataForge.Foundation.Dictionary
open DataForge.Domain.Common
open DataForge.Domain.Artifact
open DataForge.Adapters.ObjectStorage
open DataForge.Adapters.ArtifactRegistry
open DataForge.Adapters.ArtifactKeys

variable (p : Platform) (a : MinioObjectStorageAdapter)

/-- The checked components of a request and the key they give. -/
def place (r : SaveRequest) : Result (Address × Text) := do
  let addr ← r.address
  let key ← a.keyForObjectName (objectName addr (sha256 r.data))
  pure (addr, key)

theorem place_eq_ok {r : SaveRequest} {addr : Address} {key : Text}
    (h : place a r = .ok (addr, key)) :
    r.address = .ok addr ∧ a.keyForObjectName (objectName addr (sha256 r.data)) = .ok key := by
  simp only [place, bind_eq_ok, pure_eq, Except.ok.injEq, Prod.mk.injEq] at h
  obtain ⟨_, haddr, _, hkey, rfl, rfl⟩ := h
  exact ⟨haddr, hkey⟩

theorem codesIn_place (r : SaveRequest) : CodesIn PathCode (place a r) :=
  .bind r.codesIn_address fun _ _ => .bind (a.codesIn_keyForObjectName _) fun _ _ => .ok _

def existingRecord (clock : Clock) (r : SaveRequest) (addr : Address) (key : Text)
    (obj : S3Object) :
    Result RegisteredArtifact := do
  let info ← a.infoFromResponse p clock key obj none
  matchingRecord info addr (sha256 r.data) r.configHash

def writtenObject (clock : Clock) (r : SaveRequest) (addr : Address) : S3Object :=
  ⟨r.data, r.mediaType, MinioObjectStorageAdapter.putMetadata p (putRequest r addr),
    clock.lastModified⟩

def writtenRecord (clock : Clock) (r : SaveRequest) (addr : Address) (key : Text) :
    Result RegisteredArtifact := do
  let ref ← a.putRef p clock (putRequest r addr) key
  recordFromRef ref addr

/-- What one call does: nothing when the request has no place, the comparison with
the object that is there, or the write of a new object. -/
def saveSpec (clock : Clock) (r : SaveRequest) (s : S3Objects) :
    Result RegisteredArtifact × S3Objects :=
  match place a r with
  | .error e => (.error e, s)
  | .ok (addr, key) =>
    match get? (a.bucketName, key) s with
    | some obj => (existingRecord p a clock r addr key obj, s)
    | none => (writtenRecord p a clock r addr key,
        set (a.bucketName, key) (writtenObject p clock r addr) s)

theorem keyForUri_uriForKey {key : Text} (h : a.IsKeyInScope key) :
    a.keyForUri (a.uriForKey key) = .ok key := by
  simp [MinioObjectStorageAdapter.keyForUri, MinioObjectStorageAdapter.uriForKey,
    MinioObjectStorageAdapter.requireKeyInScope, removePrefix_append, guardOk, h]

theorem run_object (key : Text) (s : S3Objects) :
    (a.object key).run s = (match get? (a.bucketName, key) s with
      | some obj => .ok obj
      | none => .error (objectStorageError .artifactNotFound
          ("missing object " ++ String.ofList a.bucketName ++ "/" ++ String.ofList key)), s) := by
  rw [MinioObjectStorageAdapter.object, Effect.run_bind_ok (Effect.run_get s)]
  cases get? (a.bucketName, key) s <;> rfl

variable {p a} in
/-- Reading leaves the store alone. -/
theorem run_get_snd {clock : Clock} {s : S3Objects} (uri : Text) :
    ((a.get p clock uri).run s).2 = s := by
  rw [MinioObjectStorageAdapter.get, Effect.run_bind_lift]
  cases a.keyForUri uri with
  | error e => rfl
  | ok key =>
    dsimp only
    cases hobject : (a.object key).run s with
    | mk result t =>
      rw [run_object] at hobject
      obtain ⟨-, rfl⟩ := Prod.mk.inj hobject
      cases result with
      | error e => rw [Effect.run_bind_error (by rw [run_object, hobject])]
      | ok response =>
        rw [Effect.run_bind_ok (by rw [run_object, hobject]), Effect.run_bind_lift]
        split <;> rfl

variable {p a} in
/-- What `get` reads is the body of the object under the key. -/
theorem get_eq_ok {clock : Clock} {uri : Text} {stored : StoredObject} {s t : S3Objects}
    (h : (a.get p clock uri).run s = (.ok stored, t)) :
    ∃ key obj, a.keyForUri uri = .ok key ∧ get? (a.bucketName, key) s = some obj ∧
      stored.data = obj.body := by
  obtain ⟨key, hkey, h⟩ := Effect.run_lift_bind_eq_ok.mp h
  obtain ⟨obj, u, hobj, h⟩ := Effect.run_bind_eq_ok.mp h
  obtain ⟨info, -, h⟩ := Effect.run_lift_bind_eq_ok.mp h
  obtain ⟨hstored, -⟩ := Prod.mk.inj h
  obtain rfl := Except.ok.inj hstored
  rw [run_object] at hobj
  refine ⟨key, obj, hkey, ?_, rfl⟩
  cases hget : get? (a.bucketName, key) s with
  | none => simp [hget] at hobj
  | some found =>
    rw [hget] at hobj
    rw [Except.ok.inj (Prod.mk.inj hobj).1]

theorem run_head {key : Text} (h : a.IsKeyInScope key) (clock : Clock) (s : S3Objects) :
    (a.head p clock (a.uriForKey key)).run s = (match get? (a.bucketName, key) s with
      | some obj => a.infoFromResponse p clock key obj none
      | none => .error (objectStorageError .artifactNotFound
          ("missing object " ++ String.ofList a.bucketName ++ "/" ++ String.ofList key)), s) := by
  rw [MinioObjectStorageAdapter.head, Effect.run_bind_lift, keyForUri_uriForKey a h]
  have hobj := run_object a key s
  cases hg : get? (a.bucketName, key) s with
  | none =>
    rw [hg] at hobj
    exact Effect.run_bind_error hobj _
  | some obj =>
    rw [hg] at hobj
    exact Effect.run_bind_ok hobj _

theorem run_headOrNone {key : Text} (h : a.IsKeyInScope key) (clock : Clock) (s : S3Objects) :
    (headOrNone p a clock (a.uriForKey key)).run s = (match get? (a.bucketName, key) s with
      | some obj => (a.infoFromResponse p clock key obj none).map some
      | none => .ok none, s) := by
  have hhead := run_head p a h clock s
  rw [headOrNone]
  cases hg : get? (a.bucketName, key) s with
  | none =>
    rw [hg] at hhead
    rw [Effect.run_tryCatch_error (Effect.run_bind_error hhead _)]
    rfl
  | some obj =>
    rw [hg] at hhead
    dsimp only at hhead ⊢
    have huncoded := MinioObjectStorageAdapter.uncoded_infoFromResponse p a clock key obj none
    cases hinfo : a.infoFromResponse p clock key obj none with
    | error e =>
      rw [hinfo] at hhead
      rw [Effect.run_tryCatch_error (Effect.run_bind_error hhead _)]
      cases e with
      | coded error code message => exact (huncoded error code message hinfo).elim
      | reasoned error reasonCode code status message => rfl
      | plain error message => rfl
      | validation model field => rfl
    | ok info =>
      rw [hinfo] at hhead
      rw [Effect.run_tryCatch_ok (Effect.run_bind_ok hhead _)]
      rfl

theorem run_existingArtifact {key : Text} (h : a.IsKeyInScope key) (clock : Clock)
    (r : SaveRequest) (addr : Address) (s : S3Objects) :
    (existingArtifact p a clock (a.uriForKey key) addr (sha256 r.data) r.configHash).run s =
      (match get? (a.bucketName, key) s with
        | some obj => (existingRecord p a clock r addr key obj).map some
        | none => .ok none, s) := by
  have hfound := run_headOrNone p a h clock s
  rw [existingArtifact]
  cases hg : get? (a.bucketName, key) s with
  | none =>
    rw [hg] at hfound
    rw [Effect.run_bind_ok hfound]
    rfl
  | some obj =>
    rw [hg] at hfound
    dsimp only [existingRecord] at hfound ⊢
    cases hinfo : a.infoFromResponse p clock key obj none with
    | error e =>
      rw [hinfo] at hfound
      rw [Effect.run_bind_error hfound]
      rfl
    | ok info =>
      rw [hinfo] at hfound
      rw [Effect.run_bind_ok hfound]
      rfl

theorem run_put {r : SaveRequest} {addr : Address} {key : Text}
    (h : a.keyForObjectName (objectName addr (sha256 r.data)) = .ok key) (clock : Clock)
    (s : S3Objects) :
    (a.put p clock (putRequest r addr)).run s =
      (a.putRef p clock (putRequest r addr) key,
        set (a.bucketName, key) (writtenObject p clock r addr) s) := by
  have hkey : a.keyForObjectName (putRequest r addr).objectName = .ok key := h
  rw [MinioObjectStorageAdapter.put, Effect.run_bind_lift, hkey]
  exact Effect.run_bind_ok (Effect.run_modify _ s) _

theorem run_saveArtifact (clock : Clock) (r : SaveRequest) (s : S3Objects) :
    (saveArtifact p a clock r).run s = saveSpec p a clock r s := by
  rw [saveArtifact, Effect.run_bind_lift, saveSpec, place]
  cases haddr : r.address with
  | error e => rfl
  | ok addr =>
    dsimp only
    rw [ok_bind, Effect.run_bind_lift, MinioObjectStorageAdapter.uriForObjectName]
    cases hkey : a.keyForObjectName (objectName addr (sha256 r.data)) with
    | error e => rfl
    | ok key =>
      have hscope := (keyForObjectName_objectName addr r.data hkey).2
      have hex := run_existingArtifact p a hscope clock r addr s
      dsimp only [ok_bind, pure_eq]
      cases hg : get? (a.bucketName, key) s with
      | some obj =>
        rw [hg] at hex
        dsimp only at hex
        cases hrec : existingRecord p a clock r addr key obj with
        | error e =>
          rw [hrec] at hex
          rw [Effect.run_bind_error hex]
          dsimp only
          rw [hrec]
        | ok record =>
          rw [hrec] at hex
          rw [Effect.run_bind_ok hex]
          dsimp only
          rw [hrec]
          rfl
      | none =>
        rw [hg] at hex
        rw [Effect.run_bind_ok hex]
        dsimp only
        have hput := run_put p a hkey clock s
        rw [writtenRecord]
        cases href : a.putRef p clock (putRequest r addr) key with
        | error e =>
          rw [href] at hput
          rw [Effect.run_bind_error hput]
          rfl
        | ok ref =>
          rw [href] at hput
          rw [Effect.run_bind_ok hput]
          rfl

/-- The three ways in which a call can go. -/
theorem run_saveArtifact_cases (clock : Clock) (r : SaveRequest) (s : S3Objects) :
    (∃ e, place a r = .error e ∧ (saveArtifact p a clock r).run s = (.error e, s)) ∨
    (∃ addr key obj, place a r = .ok (addr, key) ∧ get? (a.bucketName, key) s = some obj ∧
      (saveArtifact p a clock r).run s = (existingRecord p a clock r addr key obj, s)) ∨
    (∃ addr key, place a r = .ok (addr, key) ∧ get? (a.bucketName, key) s = none ∧
      (saveArtifact p a clock r).run s = (writtenRecord p a clock r addr key,
        set (a.bucketName, key) (writtenObject p clock r addr) s)) := by
  rw [run_saveArtifact, saveSpec]
  cases hplace : place a r with
  | error e => exact .inl ⟨e, rfl, rfl⟩
  | ok placed =>
    obtain ⟨addr, key⟩ := placed
    dsimp only
    cases hg : get? (a.bucketName, key) s with
    | some obj => exact .inr (.inl ⟨addr, key, obj, rfl, hg, rfl⟩)
    | none => exact .inr (.inr ⟨addr, key, rfl, hg, rfl⟩)

section Schema

variable {p a} {addr : Address} {record : RegisteredArtifact}

theorem schemaVersion_recordFromRef {ref : ArtifactRef} (h : recordFromRef ref addr = .ok record) :
    record.schemaVersion = ref.schemaVersion := by
  simp only [recordFromRef, bind_eq_ok, pure_eq, Except.ok.injEq] at h
  obtain ⟨_, -, _, -, _, -, rfl⟩ := h
  rfl

theorem schemaVersion_existingRecord {clock : Clock} {r : SaveRequest} {key : Text} {obj : S3Object}
    (h : existingRecord p a clock r addr key obj = .ok record) :
    record.schemaVersion.1 = addr.schema.1 := by
  obtain ⟨info, -, h⟩ := bind_eq_ok.mp h
  obtain ⟨-, h⟩ := check_bind_eq_ok.mp h
  obtain ⟨ref, href, h⟩ := bind_eq_ok.mp h
  rw [schemaVersion_recordFromRef h]
  exact (ArtifactFields.validate_eq_ok href).2.2.2.2.2.2.1

theorem schemaVersion_writtenRecord {clock : Clock} {r : SaveRequest} {key : Text}
    (h : writtenRecord p a clock r addr key = .ok record) :
    record.schemaVersion.1 = addr.schema.1 := by
  obtain ⟨ref, href, h⟩ := bind_eq_ok.mp h
  obtain ⟨createdAt, -, href⟩ := bind_eq_ok.mp href
  rw [schemaVersion_recordFromRef h]
  exact (ArtifactFields.validate_eq_ok href).2.2.2.2.2.2.1

/-- An artifact is registered under the schema version that was asked for. -/
theorem schemaVersion_saveArtifact {clock : Clock} {r : SaveRequest} {s t : S3Objects}
    (h : (saveArtifact p a clock r).run s = (.ok record, t)) :
    record.schemaVersion.1 = strip r.schemaVersion := by
  obtain ⟨e, -, hrun⟩ | ⟨addr, key, obj, hplace, -, hrun⟩ | ⟨addr, key, hplace, -, hrun⟩ :=
    run_saveArtifact_cases p a clock r s
  · rw [hrun] at h
    cases (Prod.mk.inj h).1
  · rw [hrun] at h
    have hschema := (SaveRequest.address_eq_ok (place_eq_ok a hplace).1).2.2.1
    exact (schemaVersion_existingRecord (Prod.mk.inj h).1).trans hschema
  · rw [hrun] at h
    have hschema := (SaveRequest.address_eq_ok (place_eq_ok a hplace).1).2.2.1
    exact (schemaVersion_writtenRecord (Prod.mk.inj h).1).trans hschema

end Schema

end DataForge.Adapters.RegistryStep
