import DataForge.Ingestion.TabularRows

namespace DataForge.Ingestion.ManifestIds

open DataForge.Foundation.Strings
open DataForge.Foundation.Lines
open DataForge.Foundation.Dictionary
open DataForge.Foundation.Json
open DataForge.Foundation.JsonReader
open DataForge.Foundation.Sha256
open DataForge.Foundation.Outcome
open DataForge.Foundation.PosixPath
open DataForge.Foundation.Tables
open DataForge.Domain.Common
open DataForge.Domain.Evidence
open DataForge.Ingestion.ArchiveReader
open DataForge.Ingestion.ManifestBuilder
open DataForge.Ingestion.TabularRows
open DataForge.Kernel.Policy

/-- What an object id is made of, besides the version: the row's key and its content. -/
abbrev Identity := Text × Sha256Digest

section Sources

variable (loads : Text → Option Value) (files : ArchiveFiles)

def tabularIdentity (row : DictRow) : Result Identity := do
  let record ← row.record
  pure (tabularRowKey row.cells record, computeRecordSha256 record)

def jsonlIdentity (sourceSystem : Text) (numbered : Text × Nat) : Option Identity :=
  match JsonlRecord.read loads numbered.1 with
  | .object payload =>
    some ((sourceObjectId payload).getD (sourceSystem ++ ':' :: Nat.toDigits 10 numbered.2),
      computeRecordSha256 payload)
  | _ => none

def jsonlIdentities (sourceSystem : Text) (data : Bytes) : List Identity :=
  match decodeUtf8 data with
  | none => []
  | some text =>
    (((streamLines text).zipIdx 1).filter fun numbered => decide (¬ Blank numbered.1)).filterMap
      (jsonlIdentity loads sourceSystem)

def tabularIdentities (d : ArchiveFileDescriptor) : List Identity :=
  match files.readCsv d with
  | .error _ => []
  | .ok file => (dictRows file).filterMap fun row => (tabularIdentity row).toOption

/-- The identities of the rows that an entry of the archive gives. -/
def entryIdentities (d : ArchiveFileDescriptor) : List Identity :=
  match d.kind with
  | .transactions => tabularIdentities files d
  | .supportMessages => jsonlIdentities loads "support_messages".toList (files.bytes d)
  | .ocrRecords => jsonlIdentities loads "ocr_records".toList (files.bytes d)
  | .imageManifest => jsonlIdentities loads "image_manifest".toList (files.bytes d)
  | .annotations =>
    [("annotations_sample".toList ++ ':' :: basename d.name, sha256Digest (files.bytes d))]
  | .predictions | .readme | .other => []

def archiveIdentities (contents : ArchiveContents) : List Identity :=
  contents.descriptors.flatMap (entryIdentities loads files)

end Sources

section Derivation

/-- The text that an object id is the digest of. -/
def canonicalIdentity (request : BuildManifestRequest) (identity : Identity) : Text :=
  joinWith '\n' ["v1".toList, request.versionId.1, identity.1, identity.2.1]

def objectIdOf (request : BuildManifestRequest) (identity : Identity) : Text :=
  (deriveObjectId request.versionId.1 identity.1 identity.2).1

/-- The kept part of the digest tells these identities apart. -/
def PrefixInjective (request : BuildManifestRequest) (identities : List Identity) : Prop :=
  ∀ a ∈ identities, ∀ b ∈ identities,
    (hexdigest (encodeUtf8 (canonicalIdentity request a))).take 24 =
        (hexdigest (encodeUtf8 (canonicalIdentity request b))).take 24 →
      canonicalIdentity request a = canonicalIdentity request b

variable {request : BuildManifestRequest}

theorem canonicalIdentity_injective : Function.Injective (canonicalIdentity request) := by
  rintro ⟨key, hash⟩ ⟨key', hash'⟩ h
  have hsplit : ∀ identity : Identity, canonicalIdentity request identity =
      ("v1".toList ++ '\n' :: (request.versionId.1 ++ '\n' :: identity.1)) ++ '\n' ::
        identity.2.1 := by
    intro identity
    rw [canonicalIdentity, joinWith_cons _ _ (by simp), joinWith_cons _ _ (by simp),
      joinWith_cons _ _ (by simp), joinWith_singleton]
    simp
  have hlength : ∀ hash : Sha256Digest, hash.1.length = 71 := by
    rintro ⟨_, rest, rfl, hrest, -⟩
    rw [List.length_append, hrest]
    rfl
  rw [hsplit, hsplit] at h
  obtain ⟨hfront, hback⟩ := List.append_inj' h (by simp [hlength])
  have hkeys := List.append_cancel_left hfront
  simp only [List.cons.injEq, true_and] at hkeys hback
  have hkey := List.append_cancel_left hkeys
  simp only [List.cons.injEq, true_and] at hkey
  exact Prod.ext hkey (Subtype.ext hback)

theorem objectIdOf_inj {identities : List Identity}
    (hinjective : PrefixInjective request identities)
    {a b : Identity} (ha : a ∈ identities) (hb : b ∈ identities)
    (h : objectIdOf request a = objectIdOf request b) : a = b :=
  canonicalIdentity_injective (hinjective a ha b hb (List.append_cancel_left h))

theorem nodup_objectIds_iff {identities : List Identity}
    (hinjective : PrefixInjective request identities) :
    (identities.map (objectIdOf request)).Nodup ↔ identities.Nodup := by
  constructor
  · exact List.Nodup.of_map _
  · intro h
    exact h.map_on fun a ha b hb hsame => objectIdOf_inj hinjective ha hb hsame

end Derivation

section Outcomes

variable {loads : Text → Option Value} {files : ArchiveFiles} {request : BuildManifestRequest}

def rowId (outcome : JsonlOutcome) : Option Text := outcome.row?.map fun row => row.objectId.1

theorem objectId_of_manifestRow {modality : DataModality} {sourceSystem : Text}
    {objectId : NonEmptyStr} {hash : Sha256Digest} {metadata : Dict Text Value} {row : ManifestRow}
    (h : manifestRow request modality sourceSystem objectId hash metadata = .ok row) :
    row.objectId = objectId := by
  obtain ⟨uri, -, h⟩ := bind_eq_ok.mp h
  obtain rfl := Except.ok.inj h
  rfl

theorem tabularRow_identity {row : DictRow} {built : ManifestRow}
    (h : tabularRow request row = .ok built) :
    some built.objectId.1 = (tabularIdentity row).toOption.map (objectIdOf request) := by
  obtain ⟨record, hrecord, h⟩ := bind_eq_ok.mp h
  obtain ⟨bare, hbare, h⟩ := bind_eq_ok.mp h
  obtain rfl := Except.ok.inj h
  have hid := objectId_of_manifestRow hbare
  rw [tabularIdentity, hrecord, hid]
  rfl

theorem jsonlRowKey_eq_ok {record : Dict Text Value} {fallback key : Text}
    (h : jsonlRowKey record fallback = .ok key) : key = (sourceObjectId record).getD fallback := by
  rw [jsonlRowKey] at h
  unfold sourceObjectId
  split at h
  · next hnone =>
    obtain rfl := Except.ok.inj h
    rw [hnone]
    rfl
  · next hsome =>
    obtain rfl := Except.ok.inj h
    rw [hsome]
    rfl
  · next v hne hsome =>
    split at h
    · cases h
    · obtain rfl := Except.ok.inj h
      rw [hsome]
      cases v with
      | str s =>
        cases s with
        | nil => rfl
        | cons c s => exact absurd rfl (hne c s)
      | _ => rfl

theorem jsonlOutcome_identity {modality : DataModality} {sourceSystem : Text}
    {d : ArchiveFileDescriptor} {numbered : Text × Nat} {outcome : JsonlOutcome}
    (h : jsonlOutcome request modality sourceSystem d numbered.2
      (JsonlRecord.read loads numbered.1) =
      .ok outcome) :
    rowId outcome = (jsonlIdentity loads sourceSystem numbered).map (objectIdOf request) := by
  rw [jsonlIdentity]
  cases hread : JsonlRecord.read loads numbered.1 with
  | invalid | notObject =>
    rw [hread] at h
    obtain rfl := Except.ok.inj h
    rfl
  | object payload =>
    rw [hread, jsonlOutcome] at h
    obtain ⟨built, hrow, rfl⟩ := map_eq_ok.mp h
    obtain ⟨key, hkey, hrow⟩ := bind_eq_ok.mp hrow
    have hid := objectId_of_manifestRow hrow
    rw [jsonlRowKey_eq_ok hkey] at hid
    exact congrArg (fun id : NonEmptyStr => some id.1) hid

theorem jsonlEntry_identities {modality : DataModality} {sourceSystem : Text}
    {d : ArchiveFileDescriptor} {outcomes : List JsonlOutcome}
    (h : jsonlEntry loads request (files.payloads request) modality sourceSystem d = .ok outcomes) :
    outcomes.filterMap rowId =
      (jsonlIdentities loads sourceSystem (files.bytes d)).map (objectIdOf request) := by
  rw [jsonlEntry] at h
  change (match decodeUtf8 (files.bytes d) with
    | none => _
    | some text => _) = _ at h
  rw [jsonlIdentities]
  cases hdecode : decodeUtf8 (files.bytes d) with
  | none =>
    rw [hdecode] at h
    cases h
  | some text =>
    rw [hdecode] at h
    rw [List.map_filterMap]
    exact filterMap_of_mapM (fun _ _ houtcome => jsonlOutcome_identity houtcome) h

/-- An entry's rows have the ids of its identities. -/
theorem entryOutcomes_identities {d : ArchiveFileDescriptor} {outcomes : List JsonlOutcome}
    (h : entryOutcomes loads request (files.payloads request) d = .ok outcomes) :
    outcomes.filterMap rowId = (entryIdentities loads files d).map (objectIdOf request) := by
  rw [entryOutcomes] at h
  rw [entryIdentities]
  cases hkind : d.kind with
  | transactions =>
    rw [hkind] at h
    obtain ⟨rows, hrows, rfl⟩ := map_eq_ok.mp h
    obtain ⟨file, hfile, hrows⟩ := bind_eq_ok.mp hrows
    have hids := filterMap_of_mapM (fun _ _ hrow => tabularRow_identity hrow) hrows
    dsimp only
    rw [tabularIdentities, hfile, List.map_filterMap, ← hids, List.filterMap_map]
    rfl
  | supportMessages | ocrRecords | imageManifest =>
    rw [hkind] at h
    exact jsonlEntry_identities h
  | annotations =>
    rw [hkind] at h
    obtain ⟨row, hrow, rfl⟩ := map_eq_ok.mp h
    exact congrArg (fun id : NonEmptyStr => [id.1]) (objectId_of_manifestRow hrow)
  | predictions | readme | other =>
    rw [hkind] at h
    obtain rfl := Except.ok.inj h
    rfl

/-- The ids of a manifest are those of the archive's identities. -/
theorem objectIds_of_manifest {contents : ArchiveContents} {result : BuildManifestResult}
    (h : buildAssetManifest loads request (files.payloads request) contents = .ok result) :
    result.rows.map (fun row => row.objectId.1) =
      (archiveIdentities loads files contents).map (objectIdOf request) := by
  obtain ⟨outcomes, houtcomes, h⟩ := bind_eq_ok.mp h
  obtain rfl := Except.ok.inj h
  have hentries := map_of_mapM (fun _ _ hentry => entryOutcomes_identities hentry) houtcomes
  rw [archiveIdentities, List.map_flatMap, List.flatMap_def, ← hentries, ← List.filterMap_flatten,
    List.map_filterMap]
  rfl

/-- The object ids of a manifest are pairwise distinct exactly when no two rows of the
archive agree on their key and their content. -/
theorem manifest_ids_nodup_iff {contents : ArchiveContents} {result : BuildManifestResult}
    (hbuild : buildAssetManifest loads request (files.payloads request) contents = .ok result)
    (hinjective : PrefixInjective request (archiveIdentities loads files contents)) :
    (result.rows.map fun row => row.objectId.1).Nodup ↔
      (archiveIdentities loads files contents).Nodup := by
  rw [objectIds_of_manifest hbuild, nodup_objectIds_iff hinjective]

end Outcomes

section Example

def transactionsArchive : ArchiveContents :=
  ⟨[⟨"transactions.csv".toList, .transactions, "text/csv", 1, 1,
    ⟨"transactions.csv".toList, 0, 1, 1⟩⟩],
    ⟨1, 1, 1, ["transactions.csv".toList]⟩⟩

/-- Two transactions with these amounts. -/
def transactionsFiles (first second : String) : ArchiveFiles where
  bytes _ := .empty
  readCsv _ := .ok (some
    { header := ["transaction_id", "amount"].map String.toList
      lines := [["t", first], ["t", second]].map fun line => line.map String.toList })

def versionRequest : BuildManifestRequest where
  datasetId := literal "dataset"
  versionId := literal "v1"
  parentVersionId := literal "v0"
  createdByJobId := literal "job"
  configHash := zeroDigest

def transactionsManifest (first second : String) : Result BuildManifestResult :=
  buildAssetManifest loads versionRequest ((transactionsFiles first second).payloads versionRequest)
    transactionsArchive

theorem manifest_ids_nodup_transactions : ∃ result, transactionsManifest "10" "20" = .ok result ∧
    ((result.rows.map fun row => row.objectId.1).Nodup ↔
      (archiveIdentities loads (transactionsFiles "10" "20") transactionsArchive).Nodup) := by
  have hdone : (transactionsManifest "10" "20").toOption.isSome = true := by decide +kernel
  have hprefixes : ((archiveIdentities loads (transactionsFiles "10" "20") transactionsArchive).map
      fun identity =>
        (hexdigest (encodeUtf8 (canonicalIdentity versionRequest identity))).take 24).Nodup := by
    decide +kernel
  cases hrun : transactionsManifest "10" "20" with
  | error e =>
    rw [hrun] at hdone
    cases hdone
  | ok result =>
    refine ⟨result, rfl, manifest_ids_nodup_iff hrun fun a ha b hb hsame => ?_⟩
    rw [List.inj_on_of_nodup_map hprefixes ha hb hsame]

/-- A transaction that stands in the file twice has one id for its two rows. -/
theorem repeated_transaction_id :
    ¬ ∀ (loads : Text → Option Value) (files : ArchiveFiles) (request : BuildManifestRequest)
      (contents : ArchiveContents) (result : BuildManifestResult),
      PrefixInjective request (archiveIdentities loads files contents) →
      buildAssetManifest loads request (files.payloads request) contents = .ok result →
      (result.rows.map fun row => row.objectId.1).Nodup := by
  intro h
  have hdone : (transactionsManifest "10" "10").toOption.isSome = true := by decide +kernel
  have hidentities : ∃ identity,
      archiveIdentities loads (transactionsFiles "10" "10") transactionsArchive =
        [identity, identity] :=
    ⟨_, rfl⟩
  obtain ⟨identity, hidentities⟩ := hidentities
  cases hrun : transactionsManifest "10" "10" with
  | error e =>
    rw [hrun] at hdone
    cases hdone
  | ok result =>
    have hnodup := h loads (transactionsFiles "10" "10") versionRequest transactionsArchive result
      (fun a ha b hb _ => by
        rw [hidentities] at ha hb
        simp only [List.mem_cons, List.not_mem_nil, or_false, or_self] at ha hb
        rw [ha, hb]) hrun
    rw [objectIds_of_manifest hrun, hidentities] at hnodup
    exact (List.nodup_cons.mp hnodup).1 List.mem_cons_self

end Example

end DataForge.Ingestion.ManifestIds
