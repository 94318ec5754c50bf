import DataForge.Adapters.RegistryStep

namespace DataForge.Adapters.FailedWrites

open DataForge.Foundation.Strings
open DataForge.Foundation.Sha256
open DataForge.Foundation.Outcome
open DataForge.Foundation.Dictionary
open DataForge.Domain.Common
open DataForge.Domain.Artifact
open DataForge.Adapters.ObjectStorage
open DataForge.Adapters.ObjectStorage.MinioObjectStorageAdapter
open DataForge.Adapters.ArtifactRegistry
open DataForge.Adapters.ArtifactKeys
open DataForge.Adapters.RegistryStep

section Contents

/-- The same bytes under the same content type and metadata. -/
def SameObject (x y : S3Object) : Prop :=
  x.body = y.body ∧ x.contentType = y.contentType ∧ ∀ name, get? name x.metadata =
    get? name y.metadata

theorem SameObject.refl (x : S3Object) : SameObject x x := ⟨rfl, rfl, fun _ => rfl⟩

/-- The same objects at the same places. -/
def SameContents (s t : S3Objects) : Prop :=
  ∀ place, Option.Rel SameObject (get? place s) (get? place t)

theorem SameContents.refl (s : S3Objects) : SameContents s s := by
  intro place
  cases get? place s with
  | none => exact .none
  | some obj => exact .some (.refl obj)

/-- A write leaves the contents as they were only where it writes what is there. -/
theorem sameContents_set {s : S3Objects} {place : Text × Text} {obj : S3Object} :
    SameContents s (set place obj s) ↔ ∃ old, get? place s = some old ∧ SameObject old obj := by
  constructor
  · intro h
    have hplace := h place
    rw [get?_set_self] at hplace
    cases hold : get? place s with
    | none =>
      rw [hold] at hplace
      cases hplace
    | some old =>
      rw [hold] at hplace
      cases hplace with
      | some hsame => exact ⟨old, rfl, hsame⟩
  · rintro ⟨old, hold, hsame⟩ other
    rw [get?_set]
    split
    · next heq =>
      rw [← heq, hold]
      exact .some hsame
    · exact SameContents.refl s other

end Contents

section References

/-- The field checks of a reference and its lineage. -/
structure FieldsValid (f : ArtifactFields) : Prop where
  artifactId : f.artifactId ≠ []
  kind : f.kind ≠ []
  uri : UriPattern f.uri
  hash : DigestPattern f.hash
  mediaType : f.mediaType ≠ []
  schemaVersion : f.schemaVersion ≠ []
  parentVersionId : f.parentVersionId ≠ []
  jobId : f.jobId ≠ []
  configHash : DigestPattern f.configHash

theorem exists_validate {f : ArtifactFields} : (∃ ref, f.validate = .ok ref) ↔ FieldsValid f := by
  constructor
  · rintro ⟨ref, h⟩
    obtain ⟨hid, hkind, huri, hhash, hmedia, -, hschema, hparent, hjob, hconfig, -⟩ :=
      ArtifactFields.validate_eq_ok h
    exact ⟨hid ▸ ref.artifactId.2, hkind ▸ ref.kind.2, huri ▸ ref.uri.2, hhash ▸ ref.hash.2,
      hmedia ▸ ref.mediaType.2, hschema ▸ ref.schemaVersion.2,
      hparent ▸ ref.lineage.parentVersionId.2, hjob ▸ ref.lineage.jobId.2,
      hconfig ▸ ref.lineage.configHash.2⟩
  · rintro ⟨hid, hkind, huri, hhash, hmedia, hschema, hparent, hjob, hconfig⟩
    have hlineage : f.lineage = .ok ⟨⟨_, hparent⟩, ⟨_, hjob⟩, ⟨_, hconfig⟩, f.createdAt⟩ :=
      bind_eq_ok.mpr ⟨_, field_of_holds (p := (· ≠ [])) hparent,
        bind_eq_ok.mpr ⟨_, field_of_holds (p := (· ≠ [])) hjob,
        bind_eq_ok.mpr ⟨_, field_of_holds hconfig, rfl⟩⟩⟩
    exact ⟨_, bind_eq_ok.mpr ⟨_, hlineage, bind_eq_ok.mpr ⟨_, field_of_holds (p := (· ≠ [])) hid,
      bind_eq_ok.mpr
        ⟨_, field_of_holds (p := (· ≠ [])) hkind, bind_eq_ok.mpr ⟨_, field_of_holds huri,
      bind_eq_ok.mpr
        ⟨_, field_of_holds hhash, bind_eq_ok.mpr ⟨_, field_of_holds (p := (· ≠ [])) hmedia,
      bind_eq_ok.mpr ⟨_, field_of_holds (p := (· ≠ [])) hschema, rfl⟩⟩⟩⟩⟩⟩⟩⟩

variable (p : Platform) (a : MinioObjectStorageAdapter)

/-- The arguments make a reference: the ones that only the model checks after the write. -/
structure RefValid (r : PutRequest) (key : Text) : Prop where
  kind : r.kind ≠ []
  uri : UriPattern (a.uriForKey key)
  mediaType : r.mediaType ≠ []
  schemaVersion : r.schemaVersion ≠ []
  parentVersionId : r.parentVersionId ≠ []
  jobId : r.jobId ≠ []
  configHash : DigestPattern r.configHash
  createdAt : ∃ createdAt, metadataDatetime p (get? "created-at".toList (putMetadata p r)) =
    .ok createdAt

variable {p} in
theorem fieldsValid_putFields (clock : Clock) (createdAt : Option Datetime) {r : PutRequest}
    {key : Text} (h : RefValid p a r key) : FieldsValid
      { artifactId := artifactId r.kind (sha256 r.data)
        kind := r.kind
        uri := a.uriForKey key
        hash := sha256 r.data
        mediaType := r.mediaType
        sizeBytes := r.data.size
        schemaVersion := r.schemaVersion
        parentVersionId := r.parentVersionId
        jobId := r.jobId
        configHash := r.configHash
        createdAt := createdAt.getD clock.now } :=
  ⟨by simp [artifactId], h.kind, h.uri, digestPattern_sha256 r.data, h.mediaType, h.schemaVersion,
    h.parentVersionId, h.jobId, h.configHash⟩

theorem exists_putRef (clock : Clock) {r : PutRequest} {key : Text} :
    (∃ ref, a.putRef p clock r key = .ok ref) ↔ RefValid p a r key := by
  constructor
  · rintro ⟨ref, h⟩
    obtain ⟨createdAt, hcreated, h⟩ := bind_eq_ok.mp h
    have hfields := exists_validate.mp ⟨ref, h⟩
    exact ⟨hfields.kind, hfields.uri, hfields.mediaType, hfields.schemaVersion,
      hfields.parentVersionId, hfields.jobId, hfields.configHash, createdAt, hcreated⟩
  · rintro ⟨hkind, huri, hmedia, hschema, hparent, hjob, hconfig, createdAt, hcreated⟩
    obtain ⟨ref, href⟩ := exists_validate.mpr (fieldsValid_putFields a clock createdAt
      ⟨hkind, huri, hmedia, hschema, hparent, hjob, hconfig, createdAt, hcreated⟩)
    exact ⟨ref, bind_eq_ok.mpr ⟨createdAt, hcreated, href⟩⟩

end References

section Writes

variable (p : Platform) (a : MinioObjectStorageAdapter) (clock : Clock) (s : S3Objects)

/-- A computation that raises leaves the contents of the store as they were. -/
def FailsUnchanged {α : Type} (m : Effect Raised S3Objects α) : Prop :=
  ∀ e t, m.run s = (.error e, t) → SameContents s t

def putObject (r : PutRequest) : S3Object :=
  ⟨r.data, r.mediaType, putMetadata p r, clock.lastModified⟩

theorem run_put_of_key {r : PutRequest} {key : Text}
    (h : a.keyForObjectName r.objectName = .ok key) :
    (a.put p clock r).run s =
      (a.putRef p clock r key, set (a.bucketName, key) (putObject p clock r) s) := by
  rw [MinioObjectStorageAdapter.put, Effect.run_bind_lift, h]
  exact Effect.run_bind_ok (Effect.run_modify _ s) _

theorem failsUnchanged_of_run {α : Type} {m : Effect Raised S3Objects α} {x : Result α}
    {t : S3Objects}
    (h : m.run s = (x, t)) : FailsUnchanged s m ↔ (∃ v, x = .ok v) ∨ SameContents s t := by
  constructor
  · intro hm
    cases x with
    | ok v => exact .inl ⟨v, rfl⟩
    | error e => exact .inr (hm e t h)
  · rintro (⟨v, rfl⟩ | hsame) e u hrun
    · rw [h] at hrun
      cases (Prod.mk.inj hrun).1
    · rw [h] at hrun
      obtain ⟨-, rfl⟩ := Prod.mk.inj hrun
      exact hsame

theorem failsUnchanged_put (r : PutRequest) :
    FailsUnchanged s (a.put p clock r) ↔ ∀ key, a.keyForObjectName r.objectName = .ok key →
      RefValid p a r key ∨
        ∃ old, get? (a.bucketName, key) s = some old ∧ SameObject old (putObject p clock r) := by
  cases hkey : a.keyForObjectName r.objectName with
  | error e =>
    have hrun : (a.put p clock r).run s = (.error e, s) := by
      rw [MinioObjectStorageAdapter.put, Effect.run_bind_lift, hkey]
    rw [failsUnchanged_of_run s hrun]
    exact ⟨fun _ key h => (by cases h), fun _ => .inr (.refl s)⟩
  | ok key =>
    rw [failsUnchanged_of_run s (run_put_of_key p a clock s hkey), exists_putRef, sameContents_set]
    exact ⟨fun h other hother => Except.ok.inj hother ▸ h, fun h => h key rfl⟩

theorem exists_writtenRecord {r : SaveRequest} {addr : Address} {key : Text} :
    (∃ record, writtenRecord p a clock r addr key = .ok record) ↔
      RefValid p a (putRequest r addr) key := by
  rw [← exists_putRef p a clock]
  constructor
  · rintro ⟨record, h⟩
    obtain ⟨ref, href, -⟩ := bind_eq_ok.mp h
    exact ⟨ref, href⟩
  · rintro ⟨ref, href⟩
    have hplain (component : Component) : component.1 ≠ [] := component.2.1.1
    exact ⟨_, bind_eq_ok.mpr
      ⟨ref, href, bind_eq_ok.mpr ⟨_, field_of_holds (p := (· ≠ [])) (hplain addr.kind),
      bind_eq_ok.mpr ⟨_, field_of_holds (p := (· ≠ [])) (hplain addr.format),
      bind_eq_ok.mpr ⟨_, field_of_holds (p := (· ≠ [])) (hplain addr.job), rfl⟩⟩⟩⟩⟩

theorem failsUnchanged_saveArtifact (r : SaveRequest) :
    FailsUnchanged s (saveArtifact p a clock r) ↔ ∀ addr key, place a r = .ok (addr, key) →
      get? (a.bucketName, key) s ≠ none ∨ RefValid p a (putRequest r addr) key := by
  obtain ⟨e, hplace, hrun⟩ | ⟨addr, key, obj, hplace, hobj, hrun⟩ | ⟨addr, key, hplace,
      hobj, hrun⟩ :=
    run_saveArtifact_cases p a clock r s
  · rw [failsUnchanged_of_run s hrun, hplace]
    exact ⟨fun _ addr key h => (by cases h), fun _ => .inr (.refl s)⟩
  · rw [failsUnchanged_of_run s hrun, hplace]
    refine ⟨fun _ addr' key' h => ?_, fun _ => .inr (.refl s)⟩
    obtain ⟨rfl, rfl⟩ := Prod.mk.inj (Except.ok.inj h)
    exact .inl (by simp [hobj])
  · rw [failsUnchanged_of_run s hrun, hplace, exists_writtenRecord, sameContents_set]
    constructor
    · intro h addr' key' hsame
      obtain ⟨rfl, rfl⟩ := Prod.mk.inj (Except.ok.inj hsame)
      rcases h with hvalid | ⟨old, hold, -⟩
      · exact .inr hvalid
      · cases hobj.symm.trans hold
    · intro h
      rcases h addr key rfl with hpresent | hvalid
      · exact absurd hobj hpresent
      · exact .inl hvalid

/-- A write that raises leaves the store as it was exactly where the model that is built
after the write has nothing to reject, or where the write had nothing to change. -/
theorem failedWrite_unchanged_iff :
    (∀ r, FailsUnchanged s (a.put p clock r) ↔ ∀ key, a.keyForObjectName r.objectName = .ok key →
      RefValid p a r key ∨
        ∃ old, get? (a.bucketName, key) s = some old ∧ SameObject old (putObject p clock r)) ∧
    ∀ r, FailsUnchanged s (saveArtifact p a clock r) ↔ ∀ addr key, place a r = .ok (addr, key) →
      get? (a.bucketName, key) s ≠ none ∨ RefValid p a (putRequest r addr) key :=
  ⟨failsUnchanged_put p a clock s, failsUnchanged_saveArtifact p a clock s⟩

/-- A request whose uri has a blank in it, all else being in order. -/
def blankRequest : PutRequest where
  objectName := "x y.txt".toList
  data := "x".toUTF8
  kind := "report".toList
  mediaType := "text/plain".toList
  schemaVersion := "report.v1".toList
  parentVersionId := "v1".toList
  jobId := "j1".toList
  configHash := zeroDigest.1
  metadata := []

def blankAdapter : MinioObjectStorageAdapter :=
  ⟨['b'], ['r'], ⟨literal "o", literal "p", literal "d"⟩, rooted_plain⟩

def epochClock : Clock := ⟨⟨0, some 0⟩, none⟩

/-- The put raises, and the object is there. -/
theorem blankRequest_writes :
    ∃ e t, (blankAdapter.put asciiPlatform epochClock blankRequest).run [] = (.error e, t) ∧
      ¬ SameContents [] t := by
  have hkey : blankAdapter.keyForObjectName blankRequest.objectName =
      .ok "r/o/p/d/x y.txt".toList := by
    decide +kernel
  have hinvalid : ¬ RefValid asciiPlatform blankAdapter blankRequest "r/o/p/d/x y.txt".toList := by
    intro h
    exact absurd h.uri (by decide +kernel)
  have hrun := run_put_of_key asciiPlatform blankAdapter epochClock [] hkey
  cases href : blankAdapter.putRef asciiPlatform epochClock blankRequest "r/o/p/d/x y.txt".toList with
  | ok ref => exact absurd ((exists_putRef _ _ _).mp ⟨ref, href⟩) hinvalid
  | error e =>
    rw [href] at hrun
    refine ⟨e, _, hrun, fun hsame => ?_⟩
    obtain ⟨old, hold, -⟩ := sameContents_set.mp hsame
    cases hold

end Writes

end DataForge.Adapters.FailedWrites
