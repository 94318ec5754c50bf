import DataForge.Adapters.RegistryStep
import DataForge.Foundation.Runs

namespace DataForge.Adapters.RegistryRuns

open DataForge.Foundation.Strings
open DataForge.Foundation.Sha256
open DataForge.Foundation.Outcome
open DataForge.Foundation.Dictionary
open DataForge.Foundation.Runs
open DataForge.Domain.Common
open DataForge.Domain.Artifact
open DataForge.Adapters.ObjectStorage
open DataForge.Adapters.ArtifactRegistry
open DataForge.Adapters.ArtifactKeys
open DataForge.Adapters.RegistryStep

variable (p : Platform) (a : MinioObjectStorageAdapter)

section Metadata

variable {p} {r : SaveRequest} {addr : Address}

def LowerKeys (p : Platform) (d : Dict Text Text) : Prop := ∀ k ∈ d.map Prod.fst, p.lower k = k

instance (p : Platform) (d : Dict Text Text) : Decidable (LowerKeys p d) :=
  inferInstanceAs (Decidable (∀ k ∈ d.map Prod.fst, p.lower k = k))

theorem stringMetadata_of_lower {d : Dict Text Text} (h : LowerKeys p d)
    (hd : (d.map Prod.fst).Nodup) : stringMetadata p d = d := by
  have hmap : d.map (fun item => (p.lower item.1, item.2)) = d := by
    conv_rhs => rw [← List.map_id d]
    refine List.map_congr_left fun item hi => ?_
    rw [h item.1 (List.mem_map_of_mem hi)]
    rfl
  rw [stringMetadata, hmap, update_eq_append (by simpa using hd), List.nil_append]

theorem lowerKeys_update {d items : Dict Text Text} (hd : LowerKeys p d)
    (hitems : LowerKeys p items) : LowerKeys p (update d items) := by
  intro k hk
  obtain hk | hk := mem_keys_update.mp hk
  · exact hd k hk
  · exact hitems k hk

def reservedKeys : List Text :=
  ["artifact-format".toList, "created-by-job-id".toList, "dataset-version-id".toList,
    "artifact-kind".toList, "schema-version".toList, "sha256".toList]

theorem reservedKeys_lower {k : Text} (h : k ∈ reservedKeys) : p.lower k = k := by
  have hascii : ∀ k ∈ reservedKeys, (k.all fun c => decide (c.toNat < 128)) = true ∧
      k.map Char.toLower = k := forall_mem_of_all (by decide)
  have hall : ∀ c ∈ k, c.toNat < 128 := by simpa using (hascii k h).1
  rw [p.lower_ascii k hall, (hascii k h).2]

variable (addr) in
/-- With lower case keys the stored metadata is what the request says, under the
reserved entries, and reading it back changes nothing. -/
theorem putMetadata_spec (h : LowerKeys p r.metadata) :
    stringMetadata p (MinioObjectStorageAdapter.putMetadata p (putRequest r addr)) =
        MinioObjectStorageAdapter.putMetadata p (putRequest r addr) ∧
      ∀ item ∈ expectedMetadata addr (sha256 r.data),
        get? item.1 (MinioObjectStorageAdapter.putMetadata p (putRequest r addr)) =
          some item.2 := by
  let registryItems : Dict Text Text := [("artifact-format".toList, addr.format.1),
    ("created-by-job-id".toList, addr.job.1), ("dataset-version-id".toList, addr.version.1)]
  let storageItems : Dict Text Text := [("artifact-kind".toList, addr.kind.1),
    ("schema-version".toList, addr.schema.1), ("sha256".toList, sha256 r.data)]
  let merged := update (update [] (update (update [] r.metadata) registryItems)) storageItems
  have hnil : LowerKeys p ([] : Dict Text Text) := by simp [LowerKeys]
  have hsplit : registryItems.map Prod.fst ++ storageItems.map Prod.fst = reservedKeys := rfl
  have hreserved : (registryItems.map Prod.fst ++ storageItems.map Prod.fst).Nodup := by
    rw [hsplit]
    decide
  have hregistry : LowerKeys p registryItems := fun k hk =>
    reservedKeys_lower (hsplit ▸ List.mem_append_left _ hk)
  have hstorage : LowerKeys p storageItems := fun k hk =>
    reservedKeys_lower (hsplit ▸ List.mem_append_right _ hk)
  have hlower : LowerKeys p merged :=
    lowerKeys_update (lowerKeys_update hnil (lowerKeys_update (lowerKeys_update hnil h) hregistry))
      hstorage
  have hnodup : ∀ items : Dict Text Text, ((update [] items).map Prod.fst).Nodup :=
    nodup_keys_update (by simp)
  have hmerged : MinioObjectStorageAdapter.putMetadata p (putRequest r addr) = merged :=
    stringMetadata_of_lower hlower (nodup_keys_update (hnodup _) _)
  rw [hmerged]
  refine ⟨stringMetadata_of_lower hlower (nodup_keys_update (hnodup _) _), fun item hi => ?_⟩
  rw [get?_update _ (List.nodup_append.mp hreserved).2.1,
    get?_update _ (nodup_keys_update (hnodup _) _),
    get?_update _ (List.nodup_append.mp hreserved).1]
  simp only [expectedMetadata, List.mem_cons, List.not_mem_nil, or_false] at hi
  obtain rfl | rfl | rfl | rfl | rfl | rfl := hi <;> rfl

end Metadata

section Reading

variable {p a} {clock : Clock} {key : Text} {obj : S3Object} {info : StoredObjectInfo}

theorem head_info (h : a.infoFromResponse p clock key obj none = .ok info) :
    info.metadata = stringMetadata p obj.metadata ∧ info.uri.1 = a.uriForKey key ∧
      (∀ digest, digest ≠ [] → get? "sha256".toList (stringMetadata p obj.metadata) = some digest →
        info.hash.1 = digest) ∧
      ∃ created, metadataDatetime p (get? "created-at".toList (stringMetadata p obj.metadata)) =
        .ok created := by
  simp only [MinioObjectStorageAdapter.infoFromResponse, bind_eq_ok, pure_eq, Except.ok.injEq] at h
  obtain ⟨created, hcreated, uri, huri, hash, hhash, contentType, -, rfl⟩ := h
  refine ⟨rfl, field_eq_ok.mp huri, fun digest hne hd => ?_, created, hcreated⟩
  have hv := field_eq_ok.mp hhash
  rw [hd, Option.map_none, Option.getD_none, Option.getD_some, if_neg hne] at hv
  exact hv

/-- An object that could be described once can be read at any later time. -/
theorem get_object (hscope : a.IsKeyInScope key) {created : Option Datetime}
    (hcreated : metadataDatetime p (get? "created-at".toList (stringMetadata p obj.metadata)) =
      .ok created)
    (huri : UriPattern (a.uriForKey key)) {s : S3Objects}
    (hobj : get? (a.bucketName, key) s = some obj) (clock : Clock) :
    ∃ info, (a.get p clock (a.uriForKey key)).run s = (.ok ⟨obj.body, info⟩, s) := by
  have hmedia : (if obj.contentType = [] then "application/octet-stream".toList
      else obj.contentType) ≠ [] := by
    split
    · decide
    · assumption
  have hinfo : ∃ info, a.infoFromResponse p clock key obj (some obj.body) = .ok info := by
    rw [MinioObjectStorageAdapter.infoFromResponse, hcreated, Option.map_some, Option.getD_some,
      if_neg (sha256_ne_nil obj.body), field_of_holds huri,
      field_of_holds (digestPattern_sha256 obj.body)]
    dsimp only [ok_bind]
    rw [field_of_holds (p := (· ≠ [])) hmedia]
    exact ⟨_, rfl⟩
  obtain ⟨info, hinfo⟩ := hinfo
  have hrun := run_object a key s
  rw [hobj] at hrun
  refine ⟨info, ?_⟩
  rw [MinioObjectStorageAdapter.get, Effect.run_bind_lift, keyForUri_uriForKey a hscope]
  dsimp only
  rw [Effect.run_bind_ok hrun, Effect.run_bind_lift, hinfo]
  rfl

end Reading

structure SaveCall where
  request : SaveRequest
  clock : Clock

def save (call : SaveCall) : Effect Raised S3Objects RegisteredArtifact :=
  saveArtifact p a call.clock call.request

/-- The object is one that a call of the list wrote, under that call's key. -/
def WrittenBy (calls : List SaveCall) (k : Text × Text) (obj : S3Object) : Prop :=
  ∃ call ∈ calls, ∃ addr key, place a call.request = .ok (addr, key) ∧
    k = (a.bucketName, key) ∧ obj = writtenObject p call.clock call.request addr

def Inv (calls : List SaveCall) (s : S3Objects) : Prop :=
  ∀ k obj, get? k s = some obj → WrittenBy p a calls k obj

section Step

variable {p a} {calls : List SaveCall} {call : SaveCall} {s : S3Objects}

/-- A call changes no object that is there. -/
theorem save_keeps {k : Text × Text} {obj : S3Object} (h : get? k s = some obj) :
    get? k ((save p a call).run s).2 = some obj := by
  obtain ⟨e, -, hrun⟩ | ⟨addr, key, _, -, -, hrun⟩ | ⟨addr, key, -, hnone, hrun⟩ :=
    run_saveArtifact_cases p a call.clock call.request s
  · rw [save, hrun]
    exact h
  · rw [save, hrun]
    exact h
  · have hne : (a.bucketName, key) ≠ k := by
      rintro rfl
      simp [h] at hnone
    rw [save, hrun, get?_set_ne hne]
    exact h

theorem save_inv (hcall : call ∈ calls) (h : Inv p a calls s) :
    Inv p a calls ((save p a call).run s).2 := by
  obtain ⟨e, -, hrun⟩ | ⟨addr, key, _, -, -, hrun⟩ | ⟨addr, key, hplace, -, hrun⟩ :=
    run_saveArtifact_cases p a call.clock call.request s
  · rw [save, hrun]
    exact h
  · rw [save, hrun]
    exact h
  · rw [save, hrun]
    intro k obj hk
    rw [get?_set] at hk
    split at hk
    · rename_i hkey
      exact ⟨call, hcall, addr, key, hplace, hkey.symm, (Option.some.inj hk).symm⟩
    · exact h k obj hk

theorem place_injective {r r' : SaveRequest} {addr addr' : Address} {key : Text}
    (h : place a r = .ok (addr, key)) (h' : place a r' = .ok (addr', key)) :
    addr = addr' ∧ sha256 r.data = sha256 r'.data := by
  have hk := (keyForObjectName_objectName addr r.data (place_eq_ok a h).2).1
  have hk' := (keyForObjectName_objectName addr' r'.data (place_eq_ok a h').2).1
  obtain ⟨haddr, hhex⟩ := objectKey_injective addr r.data (hk.symm.trans hk')
  exact ⟨haddr, congrArg ("sha256:".toList ++ ·) hhex⟩

/-- An object that some call wrote under the key of a request matches the request. -/
theorem matches_writtenBy {r : SaveRequest} {addr : Address} {key : Text} {obj : S3Object}
    {clock : Clock} {info : StoredObjectInfo}
    (hlower : ∀ call ∈ calls, LowerKeys p call.request.metadata)
    (hplace : place a r = .ok (addr, key))
    (hobj : WrittenBy p a calls (a.bucketName, key) obj)
    (hinfo : a.infoFromResponse p clock key obj none = .ok info) :
    Matches info addr (sha256 r.data) ∧ sha256 obj.body = sha256 r.data ∧
      ∃ writer ∈ calls, obj.body = writer.request.data := by
  obtain ⟨writer, hwriter, addr', key', hplace', hkey, rfl⟩ := hobj
  obtain rfl : key = key' := (Prod.mk.inj hkey).2
  obtain ⟨rfl, hsha⟩ := place_injective hplace hplace'
  obtain ⟨hsame, hexpected⟩ := putMetadata_spec addr (hlower writer hwriter)
  obtain ⟨hmeta, -, hhash, -⟩ := head_info hinfo
  have hmeta' : info.metadata =
      MinioObjectStorageAdapter.putMetadata p (putRequest writer.request addr) := hmeta.trans hsame
  rw [← hsha] at hexpected
  refine ⟨⟨hhash _ (sha256_ne_nil _) ?_, ?_⟩, hsha.symm, writer, hwriter, rfl⟩
  · rw [writtenObject, hsame]
    exact hexpected ("sha256".toList, sha256 r.data) (by simp [expectedMetadata])
  · rw [hmeta']
    exact hexpected

variable (call) in
/-- A call is refused for its path, or without a code of the service; never because
the object that is there does not match it. -/
theorem codesIn_save (hlower : ∀ call ∈ calls, LowerKeys p call.request.metadata)
    (h : Inv p a calls s) : CodesIn PathCode ((save p a call).run s).1 := by
  obtain ⟨e, hplace, hrun⟩ | ⟨addr, key, obj, hplace, hobj, hrun⟩ | ⟨addr, key, -, -, hrun⟩ :=
    run_saveArtifact_cases p a call.clock call.request s
  · rw [save, hrun]
    exact .of_error (hplace ▸ codesIn_place a call.request)
  · rw [save, hrun]
    refine .bind ((MinioObjectStorageAdapter.uncoded_infoFromResponse p a _ _ _ _).mono (by simp))
      fun info hinfo => ?_
    have hmatch := (matches_writtenBy hlower hplace (h _ _ hobj) hinfo).1
    rw [matchingRecord, guardOk, if_pos hmatch, ok_bind]
    exact .bind ((ArtifactFields.uncoded_validate _).mono (by simp)) fun ref _ =>
      (uncoded_recordFromRef ref addr).mono (by simp)
  · rw [save, hrun]
    exact .bind ((MinioObjectStorageAdapter.uncoded_putRef p a _ _ _).mono (by simp)) fun ref _ =>
      (uncoded_recordFromRef ref addr).mono (by simp)

/-- What a successful call leaves under the key that it answers with. -/
structure Saved (p : Platform) (a : MinioObjectStorageAdapter) (calls : List SaveCall)
    (call : SaveCall) (record : RegisteredArtifact)
    (s : S3Objects) (addr : Address) (key : Text) (obj : S3Object) : Prop where
  placed : place a call.request = .ok (addr, key)
  stored : get? (a.bucketName, key) s = some obj
  uri : record.uri.1 = a.uriForKey key
  refUri : record.artifactRef.uri = record.uri
  hash : record.hash.1 = sha256 call.request.data
  refHash : record.artifactRef.hash = record.hash
  body : sha256 obj.body = sha256 call.request.data
  writer : ∃ writer ∈ calls, obj.body = writer.request.data
  dated : ∃ created,
    metadataDatetime p (get? "created-at".toList (stringMetadata p obj.metadata)) = .ok created

theorem save_saved (hcall : call ∈ calls)
    (hlower : ∀ call ∈ calls, LowerKeys p call.request.metadata) (h : Inv p a calls s)
    {record : RegisteredArtifact} (hok : ((save p a call).run s).1 = .ok record) :
    ∃ addr key obj, Saved p a calls call record ((save p a call).run s).2 addr key obj := by
  obtain ⟨e, -, hrun⟩ | ⟨addr, key, obj, hplace, hobj, hrun⟩ | ⟨addr, key, hplace, -, hrun⟩ :=
    run_saveArtifact_cases p a call.clock call.request s
  · simp [save, hrun] at hok
  · rw [save, hrun] at hok ⊢
    obtain ⟨info, hinfo, hrec⟩ := bind_eq_ok.mp hok
    obtain ⟨hmatch, hbody, hwriter⟩ := matches_writtenBy hlower hplace (h _ _ hobj) hinfo
    obtain ⟨-, huri, -, hdated⟩ := head_info hinfo
    rw [matchingRecord, guardOk, if_pos hmatch, ok_bind] at hrec
    obtain ⟨ref, href, hrec⟩ := bind_eq_ok.mp hrec
    obtain ⟨-, -, hruri, hrhash, -⟩ := ArtifactFields.validate_eq_ok href
    obtain ⟨rfl, huri', hhash'⟩ := recordFromRef_eq_ok hrec
    exact ⟨addr, key, obj, hplace, hobj, by rw [huri', hruri, huri], huri'.symm,
      by rw [hhash', hrhash, hmatch.1], hhash'.symm, hbody, hwriter, hdated⟩
  · rw [save, hrun] at hok ⊢
    obtain ⟨ref, href, hrec⟩ := bind_eq_ok.mp hok
    obtain ⟨created, hcreated, href⟩ := bind_eq_ok.mp href
    obtain ⟨-, -, hruri, hrhash, -⟩ := ArtifactFields.validate_eq_ok href
    obtain ⟨rfl, huri', hhash'⟩ := recordFromRef_eq_ok hrec
    have hsame := (putMetadata_spec addr (hlower call hcall)).1
    exact ⟨addr, key, writtenObject p call.clock call.request addr, hplace, get?_set_self _ _ _,
      by rw [huri', hruri], huri'.symm, by rw [hhash', hrhash]; rfl, hhash'.symm, rfl,
      ⟨call, hcall, rfl⟩, created, by rw [writtenObject, hsame]; exact hcreated⟩

end Step

theorem inv_after {calls pre : List SaveCall} (hpre : ∀ call ∈ pre, call ∈ calls) :
    Inv p a calls (after (save p a) pre []) :=
  after_invariant (save p a) (by simp [Inv]) fun call hc _ h => save_inv (hpre call hc) h

theorem after_keeps {calls : List SaveCall} {s : S3Objects} {k : Text × Text} {obj : S3Object}
    (h : get? k s = some obj) : get? k (after (save p a) calls s) = some obj :=
  after_invariant (P := fun t => get? k t = some obj) (save p a) h fun _ _ _ ht => save_keeps ht

/-- Every result of a run, seen from the end of the run. -/
theorem trace_saved {calls : List SaveCall}
    (hlower : ∀ call ∈ calls, LowerKeys p call.request.metadata) {call : SaveCall}
    {record : RegisteredArtifact} (h : (call, .ok record) ∈ trace (save p a) calls []) :
    ∃ addr key obj, Saved p a calls call record (after (save p a) calls []) addr key obj := by
  obtain ⟨pre, post, rfl, hok⟩ := mem_trace (save p a) h
  have hinv : Inv p a (pre ++ call :: post) (after (save p a) pre []) :=
    inv_after p a fun c hc => by simp [hc]
  obtain ⟨addr, key, obj, hs⟩ := save_saved (by simp) hlower hinv hok
  refine ⟨addr, key, obj, { hs with stored := ?_ }⟩
  rw [after_append, after_cons]
  exact after_keeps p a hs.stored

theorem mem_calls {calls : List SaveCall} {call : SaveCall} {r : Result RegisteredArtifact}
    {s : S3Objects} (h : (call, r) ∈ trace (save p a) calls s) : call ∈ calls := by
  obtain ⟨pre, post, rfl, -⟩ := mem_trace (save p a) h
  simp

/-- Over a whole run of the registry on an empty store: what is written stays; a
successful call answers with the digest of its data and a URI that reads the data
back; two URIs agree exactly when the calls agree on the stripped components and on
the data; and no call is rejected by the comparison with the object that is there. -/
theorem registry_run (calls : List SaveCall)
    (hlower : ∀ call ∈ calls, LowerKeys p call.request.metadata)
    (hsha : ∀ call ∈ calls, ∀ call' ∈ calls,
      sha256 call.request.data = sha256 call'.request.data → call.request.data =
        call'.request.data) :
    (∀ pre post, calls = pre ++ post → ∀ k obj, get? k (after (save p a) pre []) = some obj →
      get? k (after (save p a) calls []) = some obj) ∧
    (∀ call record, (call, .ok record) ∈ trace (save p a) calls [] →
      record.artifactRef.hash.1 = sha256 call.request.data ∧ record.hash = record.artifactRef.hash ∧
        record.uri = record.artifactRef.uri ∧
        ∀ clock, ∃ info, (a.get p clock record.artifactRef.uri.1).run (after (save p a) calls []) =
          (.ok ⟨call.request.data, info⟩, after (save p a) calls [])) ∧
    (∀ call record call' record', (call, .ok record) ∈ trace (save p a) calls [] →
      (call', .ok record') ∈ trace (save p a) calls [] →
      (record.artifactRef.uri = record'.artifactRef.uri ↔
        strip call.request.datasetVersionId = strip call'.request.datasetVersionId ∧
        strip call.request.createdByJobId = strip call'.request.createdByJobId ∧
        strip call.request.artifactKind = strip call'.request.artifactKind ∧
        strip call.request.schemaVersion = strip call'.request.schemaVersion ∧
        strip call.request.artifactFormat = strip call'.request.artifactFormat ∧
        call.request.data = call'.request.data)) ∧
    (∀ call result, (call, result) ∈ trace (save p a) calls [] →
      ∀ error message, result ≠ .error (.coded error .contractValidationFailed message)) := by
  refine ⟨?_, ?_, ?_, ?_⟩
  · rintro pre post rfl k obj hobj
    rw [after_append]
    exact after_keeps p a hobj
  · intro call record h
    obtain ⟨addr, key, obj, hs⟩ := trace_saved p a hlower h
    refine ⟨by rw [hs.refHash, hs.hash], hs.refHash.symm, hs.refUri.symm, fun clock => ?_⟩
    obtain ⟨writer, hwriter, hbody⟩ := hs.writer
    have hscope := (keyForObjectName_objectName addr _ (place_eq_ok a hs.placed).2).2
    obtain ⟨created, hcreated⟩ := hs.dated
    obtain ⟨info, hget⟩ := get_object hscope hcreated (hs.uri ▸ record.uri.2) hs.stored clock
    have hdata : obj.body = call.request.data := by
      rw [hbody]
      exact hsha writer hwriter call (mem_calls p a h) (hbody ▸ hs.body)
    rw [hs.refUri, hs.uri, ← hdata]
    exact ⟨info, hget⟩
  · intro call record call' record' h h'
    obtain ⟨addr, key, obj, hs⟩ := trace_saved p a hlower h
    obtain ⟨addr', key', obj', hs'⟩ := trace_saved p a hlower h'
    have hplaced := place_eq_ok a hs.placed
    have hplaced' := place_eq_ok a hs'.placed
    obtain ⟨hkind, hformat, hschema, hversion, hjob⟩ := SaveRequest.address_eq_ok hplaced.1
    obtain ⟨hkind', hformat', hschema', hversion', hjob'⟩ := SaveRequest.address_eq_ok hplaced'.1
    rw [← hkind, ← hformat, ← hschema, ← hversion, ← hjob, ← hkind', ← hformat', ← hschema',
      ← hversion', ← hjob', hs.refUri, hs'.refUri, Subtype.ext_iff, hs.uri, hs'.uri]
    constructor
    · intro huri
      obtain rfl : key = key' := List.append_cancel_left huri
      obtain ⟨rfl, hdigest⟩ := place_injective hs.placed hs'.placed
      exact ⟨rfl, rfl, rfl, rfl, rfl, hsha _ (mem_calls p a h) _ (mem_calls p a h') hdigest⟩
    · rintro ⟨hv, hj, hk, hsc, hf, hdata⟩
      obtain rfl : addr = addr' := by
        cases addr
        cases addr'
        simp_all [Subtype.ext_iff]
      have hkey := hplaced.2.symm.trans ((congrArg (fun d => a.keyForObjectName
        (objectName addr (sha256 d))) hdata).trans hplaced'.2)
      rw [Except.ok.inj hkey]
  · intro call result h error message he
    obtain ⟨pre, post, rfl, hr⟩ := mem_trace (save p a) h
    have hinv : Inv p a (pre ++ call :: post) (after (save p a) pre []) :=
      inv_after p a fun c hc => by simp [hc]
    have hcode := codesIn_save call hlower hinv error _ message (hr.trans he)
    simp [PathCode] at hcode

def exampleAdapter : MinioObjectStorageAdapter :=
  ⟨['b'], ['r'], ⟨literal "o", literal "p", literal "d"⟩, rooted_plain⟩

def exampleSave (data : String) : SaveCall where
  request :=
    { artifactKind := "report".toList
      data := data.toUTF8
      artifactFormat := "json".toList
      mediaType := "application/json".toList
      schemaVersion := "1.0".toList
      datasetVersionId := " v1 ".toList
      createdByJobId := "job-1".toList
      configHash := sha256 data.toUTF8
      metadata := [("owner".toList, "ml".toList)] }
  clock := ⟨⟨0, some 0⟩, none⟩

/-- No call is rejected by the comparison with what is there. -/
def NoneRejected (calls : List SaveCall) : Prop :=
  ∀ call result, (call, result) ∈ trace (save asciiPlatform exampleAdapter) calls [] →
    ∀ error message, result ≠ .error (.coded error .contractValidationFailed message)

/-- Two reports and a repetition of the first are all answered. -/
theorem registry_run_repeated : NoneRejected [exampleSave "x", exampleSave "y", exampleSave "x"] :=
  (registry_run asciiPlatform exampleAdapter [exampleSave "x", exampleSave "y", exampleSave "x"]
    (by decide +kernel) (by decide +kernel)).2.2.2

end DataForge.Adapters.RegistryRuns

namespace DataForge.Adapters.HonestStore

open DataForge.Foundation.Strings
open DataForge.Foundation.Sha256
open DataForge.Foundation.Outcome
open DataForge.Foundation.Dictionary
open DataForge.Foundation.Runs
open DataForge.Domain.Common
open DataForge.Domain.Artifact
open DataForge.Adapters.ObjectStorage
open DataForge.Adapters.ArtifactRegistry
open DataForge.Adapters.RegistryStep
open DataForge.Adapters.RegistryRuns

variable {p : Platform} {a : MinioObjectStorageAdapter} {call : SaveCall} {s : S3Objects}

/-- Every object holds one of the byte strings and says the digest of its own body. -/
def Honest (p : Platform) (inPlay : Bytes → Prop) (s : S3Objects) : Prop :=
  ∀ k obj, get? k s = some obj → inPlay obj.body ∧
    get? "sha256".toList (stringMetadata p obj.metadata) = some (sha256 obj.body)

variable {inPlay : Bytes → Prop}

theorem honest_nil : Honest p inPlay [] := by simp [Honest]

theorem honest_written (hlower : LowerKeys p call.request.metadata) (addr : Address) :
    get? "sha256".toList
      (stringMetadata p (writtenObject p call.clock call.request addr).metadata) =
      some (sha256 (writtenObject p call.clock call.request addr).body) := by
  obtain ⟨hsame, hexpected⟩ := putMetadata_spec addr hlower
  have hsha := hexpected ("sha256".toList, sha256 call.request.data) (by simp [expectedMetadata])
  rw [writtenObject, hsame]
  exact hsha

/-- Whatever adapter the registry uses, a call keeps the store honest. -/
theorem save_honest (hdata : inPlay call.request.data) (hlower : LowerKeys p call.request.metadata)
    (h : Honest p inPlay s) : Honest p inPlay ((save p a call).run s).2 := by
  obtain ⟨e, -, hrun⟩ | ⟨addr, key, _, -, -, hrun⟩ | ⟨addr, key, -, -, hrun⟩ :=
    run_saveArtifact_cases p a call.clock call.request s
  · rw [save, hrun]
    exact h
  · rw [save, hrun]
    exact h
  · rw [save, hrun]
    intro k obj hk
    rw [get?_set] at hk
    split at hk
    · obtain rfl := Option.some.inj hk
      exact ⟨hdata, honest_written hlower addr⟩
    · exact h k obj hk

/-- A successful call leaves an object with the digest of its data under its URI. -/
theorem save_stored (h : Honest p inPlay s) {record : RegisteredArtifact}
    (hok : ((save p a call).run s).1 = .ok record) :
    ∃ key obj, record.uri.1 = a.uriForKey key ∧
      get? (a.bucketName, key) ((save p a call).run s).2 = some obj ∧
      sha256 obj.body = sha256 call.request.data := by
  obtain ⟨e, -, hrun⟩ | ⟨addr, key, obj, -, hobj, hrun⟩ | ⟨addr, key, -, -, hrun⟩ :=
    run_saveArtifact_cases p a call.clock call.request s
  · simp [save, hrun] at hok
  · rw [save, hrun] at hok ⊢
    obtain ⟨info, hinfo, hrecord⟩ := bind_eq_ok.mp hok
    obtain ⟨-, huri, hhash, -⟩ := head_info hinfo
    obtain ⟨_, hmatch, hrecord⟩ := bind_eq_ok.mp hrecord
    obtain ⟨ref, href, hrecord⟩ := bind_eq_ok.mp hrecord
    obtain ⟨-, -, hruri, -, -⟩ := ArtifactFields.validate_eq_ok href
    obtain ⟨-, huri', -⟩ := recordFromRef_eq_ok hrecord
    have hsaid := hhash _ (sha256_ne_nil obj.body) (h _ _ hobj).2
    refine ⟨key, obj, by rw [huri', hruri, huri], hobj, ?_⟩
    rw [← hsaid, (guardOk_eq_ok.mp hmatch).1]
  · rw [save, hrun] at hok ⊢
    obtain ⟨ref, href, hrecord⟩ := bind_eq_ok.mp hok
    obtain ⟨_, -, href⟩ := bind_eq_ok.mp href
    obtain ⟨-, -, hruri, -, -⟩ := ArtifactFields.validate_eq_ok href
    obtain ⟨-, huri', -⟩ := recordFromRef_eq_ok hrecord
    exact ⟨key, writtenObject p call.clock call.request addr, by rw [huri', hruri],
      get?_set_self _ _ _, rfl⟩

/-- The calls of a run may go through different adapters. -/
def saveWith (p : Platform) (call : MinioObjectStorageAdapter × SaveCall) :
    Effect Raised S3Objects RegisteredArtifact :=
  save p call.1 call.2

theorem honest_after {calls : List (MinioObjectStorageAdapter × SaveCall)}
    (hdata : ∀ call ∈ calls, inPlay call.2.request.data)
    (hlower : ∀ call ∈ calls, LowerKeys p call.2.request.metadata) :
    Honest p inPlay (after (saveWith p) calls []) :=
  after_invariant (saveWith p) honest_nil fun call hcall _ h =>
    save_honest (hdata call hcall) (hlower call hcall) h

end DataForge.Adapters.HonestStore
