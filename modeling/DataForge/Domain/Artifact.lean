import DataForge.Domain.Common
import DataForge.Foundation.Outcome

namespace DataForge.Domain.Compute

inductive ComputeRunStatus where
  | queued
  | accepted
  | running
  | completed
  | failed
  | cancelled
  | skipped
  | waitingApproval
deriving DecidableEq, Repr

/-- The statuses after which the platform expects no further event of the job. -/
def ComputeRunStatus.IsTerminal : ComputeRunStatus → Prop
  | .completed | .failed | .cancelled => True
  | _ => False

instance (status : ComputeRunStatus) : Decidable status.IsTerminal :=
  match status with
  | .completed | .failed | .cancelled => isTrue trivial
  | .queued | .accepted | .running | .skipped | .waitingApproval => isFalse id

end DataForge.Domain.Compute

namespace DataForge.Domain.Artifact

open DataForge.Foundation.Strings
open DataForge.Foundation.Outcome
open DataForge.Domain.Common

/-- A wall clock reading in microseconds from year 1, and its zone's offset when
the reading has a zone. -/
structure Datetime where
  micros : Int
  offset : Option Int
deriving DecidableEq

/-- Microseconds in the years 1 to 9999. -/
def maxMicros : Int := 315537897600000000

def Datetime.assumeUtc (t : Datetime) : Datetime := { t with offset := some 0 }

def Datetime.astimezoneUtc (t : Datetime) (offset : Int) : Result Datetime :=
  let utc := t.micros - offset
  if 0 ≤ utc ∧ utc < maxMicros then .ok ⟨utc, some 0⟩
  else .error (.plain "OverflowError" "date value out of range")

/-- What the language's tables and the model library decide: lower casing beyond
ASCII, and the reading and writing of dates. -/
structure Platform where
  lower : Text → Text
  fromisoformat : Text → Option Datetime
  isoformat : Datetime → Text
  dumpDatetime : Datetime → Text
  lower_ascii : ∀ s : Text, (∀ c ∈ s, c.toNat < 128) → lower s = s.map Char.toLower

def asciiPlatform : Platform where
  lower s := s.map Char.toLower
  fromisoformat _ := none
  isoformat t := Nat.toDigits 10 t.micros.toNat
  dumpDatetime t := Nat.toDigits 10 t.micros.toNat
  lower_ascii _ _ := rfl

structure ArtifactLineage where
  parentVersionId : NonEmptyStr
  jobId : NonEmptyStr
  configHash : Sha256Digest
  createdAt : Datetime
deriving DecidableEq

structure ArtifactRef where
  artifactId : NonEmptyStr
  kind : NonEmptyStr
  uri : S3Uri
  hash : Sha256Digest
  mediaType : NonEmptyStr
  sizeBytes : Nat
  schemaVersion : NonEmptyStr
  lineage : ArtifactLineage
deriving DecidableEq

/-- The keyword arguments of the two model constructors, not yet validated. -/
structure ArtifactFields where
  artifactId : Text
  kind : Text
  uri : Text
  hash : Text
  mediaType : Text
  sizeBytes : Nat
  schemaVersion : Text
  parentVersionId : Text
  jobId : Text
  configHash : Text
  createdAt : Datetime

def ArtifactFields.lineage (a : ArtifactFields) : Result ArtifactLineage := do
  let parentVersionId ← field "ArtifactLineage" "parent_version_id" a.parentVersionId
  let jobId ← field "ArtifactLineage" "job_id" a.jobId
  let configHash ← field "ArtifactLineage" "config_hash" a.configHash
  pure ⟨parentVersionId, jobId, configHash, a.createdAt⟩

def ArtifactFields.validate (a : ArtifactFields) : Result ArtifactRef := do
  let lineage ← a.lineage
  let artifactId ← field "ArtifactRef" "artifact_id" a.artifactId
  let kind ← field "ArtifactRef" "kind" a.kind
  let uri ← field "ArtifactRef" "uri" a.uri
  let hash ← field "ArtifactRef" "hash" a.hash
  let mediaType ← field "ArtifactRef" "media_type" a.mediaType
  let schemaVersion ← field "ArtifactRef" "schema_version" a.schemaVersion
  pure ⟨artifactId, kind, uri, hash, mediaType, a.sizeBytes, schemaVersion, lineage⟩

/-- Validation stores every argument as it was passed. -/
theorem ArtifactFields.validate_eq_ok {a : ArtifactFields} {ref : ArtifactRef}
    (h : a.validate = .ok ref) :
    ref.artifactId.1 = a.artifactId ∧ ref.kind.1 = a.kind ∧ ref.uri.1 = a.uri ∧
      ref.hash.1 = a.hash ∧ ref.mediaType.1 = a.mediaType ∧ ref.sizeBytes = a.sizeBytes ∧
      ref.schemaVersion.1 = a.schemaVersion ∧ ref.lineage.parentVersionId.1 = a.parentVersionId ∧
      ref.lineage.jobId.1 = a.jobId ∧ ref.lineage.configHash.1 = a.configHash ∧
      ref.lineage.createdAt = a.createdAt := by
  simp only [ArtifactFields.validate, ArtifactFields.lineage, bind_eq_ok, pure_eq,
    Except.ok.injEq] at h
  obtain ⟨_, ⟨pv, hpv, job, hjob, cfg, hcfg, rfl⟩, aid, haid, kind, hkind, uri, huri, hash, hhash,
    media, hmedia, schema, hschema, rfl⟩ := h
  exact ⟨field_eq_ok.mp haid, field_eq_ok.mp hkind, field_eq_ok.mp huri, field_eq_ok.mp hhash,
    field_eq_ok.mp hmedia, rfl, field_eq_ok.mp hschema, field_eq_ok.mp hpv, field_eq_ok.mp hjob,
    field_eq_ok.mp hcfg, rfl⟩

theorem ArtifactFields.uncoded_validate (a : ArtifactFields) : Uncoded a.validate := by
  refine .bind ?_ fun _ _ => .bind (uncoded_field _ _ _) fun _ _ => .bind (uncoded_field _ _ _)
    fun _ _ => .bind (uncoded_field _ _ _) fun _ _ => .bind (uncoded_field _ _ _)
    fun _ _ => .bind (uncoded_field _ _ _) fun _ _ => .bind (uncoded_field _ _ _) fun _ _ => .ok _
  exact .bind (uncoded_field _ _ _) fun _ _ => .bind (uncoded_field _ _ _)
    fun _ _ => .bind (uncoded_field _ _ _) fun _ _ => .ok _

end DataForge.Domain.Artifact
