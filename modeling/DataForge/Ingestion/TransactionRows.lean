import DataForge.Ingestion.BuildableLines
import DataForge.Ingestion.ManifestIds

namespace DataForge.Ingestion.TransactionRows

open DataForge.Foundation.Strings
open DataForge.Foundation.Dictionary
open DataForge.Foundation.Json
open DataForge.Foundation.JsonReader
open DataForge.Foundation.Sha256
open DataForge.Foundation.Outcome
open DataForge.Foundation.Failures
open DataForge.Foundation.Tables
open DataForge.Domain.Common
open DataForge.Domain.Evidence
open DataForge.Ingestion.ArchiveReader
open DataForge.Ingestion.ManifestBuilder
open DataForge.Ingestion.TabularRows
open DataForge.Ingestion.ManifestIds
open DataForge.Ingestion.BuildableLines
open DataForge.Kernel.Policy

section Cells

/-- A cell as the readers of tables see it, where a missing one is empty. -/
def cellText : Value → Text
  | .str s => s
  | _ => []

variable {t : Table} {line : List Text} {column : Text}

theorem value_eq (t : Table) (line : List Text) (column : Text) :
    t.value line column = ((get? column (dictRow t.header line).cells).map cellText).getD [] := by
  have hcells : (t.header.mapIdx fun i name => (name, line.getD i [])) =
      (t.header.zipIdx.map fun item => (item.1, ((line)[item.2]?).elim Value.null Value.str)).map
        fun item => (item.1, cellText item.2) := by
    rw [List.mapIdx_eq_zipIdx_map, List.map_map]
    refine List.map_congr_left fun ⟨name, i⟩ _ => ?_
    change (name, line.getD i []) = (name, cellText (((line)[i]?).elim Value.null Value.str))
    rw [List.getD_eq_getElem?_getD]
    cases (line)[i]? <;> rfl
  rw [Table.value, hcells, cell, get?_update_map_values cellText]
  rfl

/-- The row of the table that a line is read as. -/
def recordOf (t : Table) (line : List Text) : Row := rowOf t.columns (t.value line)

theorem records_eq (t : Table) : t.records = (t.lines.filter (· ≠ [])).map (recordOf t) := rfl

theorem cell_recordOf (h : column ∈ t.columns) :
    cell column (recordOf t line) =
      ((get? column (dictRow t.header line).cells).map cellText).getD [] := by
  rw [recordOf, cell_rowOf h, value_eq]

theorem sourceObjectId_dictRow (h : "object_id".toList ∈ t.columns) {id : Text} :
    sourceObjectId (dictRow t.header line).cells = some id ↔
      cell "object_id".toList (recordOf t line) = id ∧ id ≠ [] := by
  rw [sourceObjectId_eq_some, cell_recordOf h]
  refine and_congr_left fun hne => ?_
  cases hcell : get? "object_id".toList (dictRow t.header line).cells with
  | none => simp [hne.symm]
  | some v =>
    cases v with
    | str s => simp [cellText]
    | _ => simp [cellText, hne.symm]

end Cells

section Metadata

theorem get?_tabularMetadata (cells : Dict Text Value) :
    get? sourceObjectIdKey (tabularMetadata cells) = (sourceObjectId cells).map Value.str := by
  have hlinks :
      get? sourceObjectIdKey ((knownLinkKeys ++ ["customer_segment".toList]).filterMap fun key =>
      ((get? key cells).filter truthy).map fun value => (key, value)) = none := by
    rw [get?_eq_none, List.map_filterMap]
    intro hmem
    obtain ⟨key, hkey, hvalue⟩ := List.mem_filterMap.mp hmem
    have hne : sourceObjectIdKey ∉ knownLinkKeys ++ ["customer_segment".toList] := by decide
    cases hfound : (get? key cells).filter truthy with
    | none => simp [hfound] at hvalue
    | some value =>
      rw [hfound] at hvalue
      obtain rfl := Option.some.inj hvalue
      exact hne hkey
  rw [tabularMetadata, get?_append, hlinks, Option.none_or]
  cases sourceObjectId cells with
  | none => rfl
  | some id => simp [get?]

end Metadata

section Manifest

variable {loads : Text → Option Value} {files : ArchiveFiles} {request : BuildManifestRequest}

/-- A row of the manifest has the id of an identity of the archive, and where it keeps the
id of its source, that is the key of the identity. -/
def IdentifiedBy (request : BuildManifestRequest) (row : ManifestRow)
    (identity : Identity) : Prop :=
  row.objectId.1 = objectIdOf request identity ∧
    ∀ id, get? sourceObjectIdKey row.metadata = some (.str id) → identity.1 = id

theorem manifestRow_metadata {modality : DataModality} {sourceSystem : Text}
    {objectId : NonEmptyStr} {hash : Sha256Digest} {metadata : Dict Text Value} {row : ManifestRow}
    (h : manifestRow request modality sourceSystem objectId hash metadata = .ok row) :
    row.metadata = metadata := by
  obtain ⟨uri, -, h⟩ := bind_eq_ok.mp h
  obtain rfl := Except.ok.inj h
  rfl

theorem tabularRow_eq_ok {line : DictRow} {row : ManifestRow}
    (h : tabularRow request line = .ok row) :
    row.modality = .tabular ∧ row.metadata = tabularMetadata line.cells ∧
      row.label = labelFromRow line.cells ∧
      ∃ identity, tabularIdentity line = .ok identity ∧ row.objectId.1 =
        objectIdOf request identity := by
  obtain ⟨record, hrecord, h⟩ := bind_eq_ok.mp h
  obtain ⟨built, hbuilt, h⟩ := bind_eq_ok.mp h
  obtain rfl := Except.ok.inj h
  have hmetadata : built.metadata = tabularMetadata line.cells := manifestRow_metadata hbuilt
  have hobject : built.objectId.1 = objectIdOf request (tabularRowKey line.cells record,
      computeRecordSha256 record) := congrArg Subtype.val (objectId_of_manifestRow hbuilt)
  exact ⟨(manifestRow_eq_ok hbuilt).1, hmetadata, rfl, _,
    bind_eq_ok.mpr ⟨record, hrecord, rfl⟩, hobject⟩

theorem tabularIdentity_key {line : DictRow} {identity : Identity} {id : Text}
    (h : tabularIdentity line = .ok identity) (hid : sourceObjectId line.cells = some id) :
    identity.1 = id := by
  obtain ⟨record, -, h⟩ := bind_eq_ok.mp h
  obtain rfl := Except.ok.inj h
  rw [tabularRowKey, hid, Option.getD_some]

theorem identifiedBy_tabularRow {line : DictRow} {row : ManifestRow}
    (h : tabularRow request line = .ok row) :
    ∃ identity, tabularIdentity line = .ok identity ∧ IdentifiedBy request row identity := by
  obtain ⟨-, hmetadata, -, identity, hidentity, hobject⟩ := tabularRow_eq_ok h
  refine ⟨identity, hidentity, hobject, fun id hid => tabularIdentity_key hidentity ?_⟩
  rw [hmetadata, get?_tabularMetadata] at hid
  cases hsource : sourceObjectId line.cells with
  | none => simp [hsource] at hid
  | some source =>
    rw [hsource] at hid
    simpa using hid

theorem jsonlOutcome_row {modality : DataModality} {sourceSystem : Text} {d : ArchiveFileDescriptor}
    {numbered : Text × Nat} {row : ManifestRow}
    (h : jsonlOutcome request modality sourceSystem d numbered.2
      (JsonlRecord.read loads numbered.1) =
      .ok (.row row)) :
    row.modality = modality ∧ ∃ identity, jsonlIdentity loads sourceSystem numbered =
      some identity ∧
      IdentifiedBy request row identity := by
  cases hread : JsonlRecord.read loads numbered.1 with
  | invalid | notObject =>
    rw [hread] at h
    cases h
  | object payload =>
    rw [hread, jsonlOutcome] at h
    obtain ⟨built, hrow, heq⟩ := map_eq_ok.mp h
    obtain rfl : built = row := by simpa using heq
    obtain ⟨key, hkey, hrow⟩ := bind_eq_ok.mp hrow
    refine ⟨(manifestRow_eq_ok hrow).1, _, by rw [jsonlIdentity, hread], ?_, fun id hid => ?_⟩
    · rw [objectId_of_manifestRow hrow, jsonlRowKey_eq_ok hkey]
      rfl
    · rw [manifestRow_metadata hrow, get?_jsonlMetadata] at hid
      cases hsource : sourceObjectId payload with
      | none => simp [hsource] at hid
      | some source =>
        rw [hsource] at hid
        simpa using hid

theorem jsonlEntry_row {modality : DataModality} {sourceSystem : Text} {d : ArchiveFileDescriptor}
    {outcomes : List JsonlOutcome} {row : ManifestRow}
    (h : jsonlEntry loads request (files.payloads request) modality sourceSystem d = .ok outcomes)
    (hrow : .row row ∈ outcomes) :
    row.modality = modality ∧ ∃ identity ∈ jsonlIdentities loads sourceSystem (files.bytes d),
      IdentifiedBy request row identity := by
  rw [jsonlEntry] at h
  rw [jsonlIdentities]
  cases hdecode : decodeUtf8 (files.bytes d) with
  | none =>
    have hpayload : decodeUtf8 ((files.payloads request).bytes d) = none := hdecode
    rw [hpayload] at h
    cases h
  | some text =>
    have hpayload : decodeUtf8 ((files.payloads request).bytes d) = some text := hdecode
    rw [hpayload] at h
    obtain ⟨numbered, hnumbered, houtcome⟩ := exists_of_mem_mapM h hrow
    obtain ⟨hmodality, identity, hidentity, hid⟩ := jsonlOutcome_row houtcome
    exact ⟨hmodality, identity, List.mem_filterMap.mpr ⟨numbered, hnumbered, hidentity⟩, hid⟩

/-- The rows of an entry are those of tables exactly if it is the table. -/
theorem entryOutcomes_row {d : ArchiveFileDescriptor} {outcomes : List JsonlOutcome}
    {row : ManifestRow} (h : entryOutcomes loads request (files.payloads request) d = .ok outcomes)
    (hrow : .row row ∈ outcomes) :
    (row.modality = .tabular ↔ d.kind = .transactions) ∧
      ∃ identity ∈ entryIdentities loads files d, IdentifiedBy request row identity := by
  rw [entryOutcomes] at h
  rw [entryIdentities]
  cases hkind : d.kind with
  | transactions =>
    rw [hkind] at h
    obtain ⟨rows, hrows, rfl⟩ := map_eq_ok.mp h
    obtain ⟨file, hfile, hrows⟩ := bind_eq_ok.mp hrows
    obtain ⟨built, hbuilt, heq⟩ := List.mem_map.mp hrow
    obtain rfl : built = row := by simpa using heq
    obtain ⟨line, hline, hbuilt⟩ := exists_of_mem_mapM hrows hbuilt
    obtain ⟨identity, hidentity, hid⟩ := identifiedBy_tabularRow hbuilt
    refine ⟨iff_of_true (tabularRow_eq_ok hbuilt).1 rfl, identity, ?_, hid⟩
    dsimp only
    rw [tabularIdentities, hfile]
    exact List.mem_filterMap.mpr ⟨line, hline, by rw [hidentity]; rfl⟩
  | supportMessages | ocrRecords | imageManifest =>
    rw [hkind] at h
    obtain ⟨hmodality, hidentity⟩ := jsonlEntry_row h hrow
    exact ⟨iff_of_false (by rw [hmodality]; decide) (by decide), hidentity⟩
  | annotations =>
    rw [hkind] at h
    obtain ⟨built, hbuilt, rfl⟩ := map_eq_ok.mp h
    obtain rfl : row = built := by simpa using hrow
    refine ⟨iff_of_false (by rw [(manifestRow_eq_ok hbuilt).1]; decide) (by decide), _,
      List.mem_singleton_self _, congrArg Subtype.val (objectId_of_manifestRow hbuilt),
      fun id hid => ?_⟩
    rw [manifestRow_metadata hbuilt] at hid
    cases hid
  | predictions | readme | other =>
    rw [hkind] at h
    obtain rfl := Except.ok.inj h
    simp at hrow

theorem identifiedBy_of_manifest {contents : ArchiveContents} {result : BuildManifestResult}
    (h : buildAssetManifest loads request (files.payloads request) contents = .ok result)
    {row : ManifestRow} (hrow : row ∈ result.rows) :
    ∃ identity ∈ archiveIdentities loads files contents, IdentifiedBy request row identity := by
  obtain ⟨outcomes, houtcomes, h⟩ := bind_eq_ok.mp h
  obtain rfl := Except.ok.inj h
  obtain ⟨outcome, houtcome, hsome⟩ := List.mem_filterMap.mp hrow
  obtain ⟨entry, hentry, houtcome⟩ := List.mem_flatten.mp houtcome
  obtain ⟨d, hd, hentry⟩ := exists_of_mem_mapM houtcomes hentry
  cases outcome with
  | unsupported entry => cases hsome
  | row built =>
    obtain rfl : built = row := Option.some.inj hsome
    obtain ⟨-, identity, hidentity, hid⟩ := entryOutcomes_row hentry houtcome
    exact ⟨identity, List.mem_flatMap.mpr ⟨d, hd, hidentity⟩, hid⟩

def tabularRows (rows : List ManifestRow) : List ManifestRow :=
  rows.filter fun row => row.modality = .tabular

def entryTabularRows (outcomes : List JsonlOutcome) : List ManifestRow :=
  tabularRows (outcomes.filterMap JsonlOutcome.row?)

theorem entryTabularRows_eq {d : ArchiveFileDescriptor} {outcomes : List JsonlOutcome}
    (h : entryOutcomes loads request (files.payloads request) d = .ok outcomes) :
    entryTabularRows outcomes =
      if d.kind = .transactions then outcomes.filterMap JsonlOutcome.row? else [] := by
  have hrows : ∀ row ∈ outcomes.filterMap JsonlOutcome.row?,
      (row.modality = .tabular ↔ d.kind = .transactions) := by
    intro row hrow
    obtain ⟨outcome, houtcome, hsome⟩ := List.mem_filterMap.mp hrow
    cases outcome with
    | unsupported entry => cases hsome
    | row built =>
      obtain rfl : built = row := Option.some.inj hsome
      exact (entryOutcomes_row h houtcome).1
  rw [entryTabularRows, tabularRows]
  split
  · next hkind =>
    exact List.filter_eq_self.mpr fun row hrow => decide_eq_true ((hrows row hrow).mpr hkind)
  · next hkind =>
    exact List.filter_eq_nil_iff.mpr fun row hrow htabular =>
      hkind ((hrows row hrow).mp (of_decide_eq_true htabular))

/-- The tabular rows of the entries are those of the tables among them. -/
theorem flatMap_entryTabularRows {ds : List ArchiveFileDescriptor}
    {outcomes : List (List JsonlOutcome)} (h : List.Forall₂ (fun d outcome =>
      entryOutcomes loads request (files.payloads request) d = .ok outcome) ds outcomes)
    {d : ArchiveFileDescriptor} (hd : ds.filter (fun d => d.kind = .transactions) = [d]) :
    ∃ outcome, entryOutcomes loads request (files.payloads request) d = .ok outcome ∧
      outcomes.flatMap entryTabularRows = outcome.filterMap JsonlOutcome.row? := by
  have hnil : ∀ {ds : List ArchiveFileDescriptor} {outcomes : List (List JsonlOutcome)},
      List.Forall₂ (fun d outcome =>
        entryOutcomes loads request (files.payloads request) d = .ok outcome) ds outcomes →
      ds.filter (fun d => d.kind = .transactions) =
        [] → outcomes.flatMap entryTabularRows = [] := by
    intro ds outcomes h
    induction h with
    | nil => exact fun _ => rfl
    | cons hentry _ ih =>
      intro hfilter
      rw [List.filter_eq_nil_iff, List.forall_mem_cons, decide_eq_true_eq] at hfilter
      rw [List.flatMap_cons, entryTabularRows_eq hentry, if_neg hfilter.1, List.nil_append]
      exact ih (List.filter_eq_nil_iff.mpr hfilter.2)
  induction h with
  | nil => cases hd
  | @cons d' outcome ds outcomes hentry hrest ih =>
    rw [List.flatMap_cons, entryTabularRows_eq hentry]
    by_cases hkind : d'.kind = .transactions
    · rw [List.filter_cons_of_pos (by simpa using hkind)] at hd
      obtain ⟨rfl, hempty⟩ := List.cons.inj hd
      exact ⟨outcome, hentry, by rw [if_pos hkind, hnil hrest hempty, List.append_nil]⟩
    · rw [List.filter_cons_of_neg (by simpa using hkind)] at hd
      rw [if_neg hkind, List.nil_append]
      exact ih hd

/-- The tabular rows of a manifest stand for the rows of the one table, in their order. -/
theorem tabularRows_of_manifest {contents : ArchiveContents} {result : BuildManifestResult}
    {d : ArchiveFileDescriptor} {t : Table}
    (h : buildAssetManifest loads request (files.payloads request) contents = .ok result)
    (hd : contents.descriptorsByKind .transactions = [d]) (hcsv : files.readCsv d = .ok (some t)) :
    List.Forall₂ (fun line row => tabularRow request (dictRow t.header line) = .ok row)
      (t.lines.filter (· ≠ [])) (tabularRows result.rows) := by
  obtain ⟨outcomes, houtcomes, h⟩ := bind_eq_ok.mp h
  obtain rfl := Except.ok.inj h
  obtain ⟨outcome, houtcome, hrows⟩ :=
    flatMap_entryTabularRows (mapM_eq_ok_iff_forall₂.mp houtcomes) hd
  have hflat : tabularRows (outcomes.flatten.filterMap JsonlOutcome.row?) =
      outcomes.flatMap entryTabularRows := by
    rw [List.filterMap_flatten, tabularRows, List.filter_flatten, List.map_map, List.flatMap_def]
    rfl
  have hkind : d.kind = .transactions := by
    have hmem :
        d ∈ contents.descriptorsByKind .transactions := by rw [hd]; exact List.mem_singleton_self d
    exact of_decide_eq_true (List.mem_filter.mp hmem).2
  rw [entryOutcomes, hkind] at houtcome
  obtain ⟨rows, htable, rfl⟩ := map_eq_ok.mp houtcome
  obtain ⟨file, hfile, htable⟩ := bind_eq_ok.mp htable
  obtain rfl : file = some t := Except.ok.inj (hfile.symm.trans hcsv)
  have hbuilt : (rows.map JsonlOutcome.row).filterMap JsonlOutcome.row? = rows := by
    rw [List.filterMap_map]
    exact List.filterMap_some
  dsimp only
  rw [hflat, hrows, hbuilt]
  exact List.forall₂_map_left_iff.mp (mapM_eq_ok_iff_forall₂.mp htable)

end Manifest

end DataForge.Ingestion.TransactionRows
