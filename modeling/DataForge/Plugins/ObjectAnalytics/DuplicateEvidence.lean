import DataForge.Plugins.ObjectAnalytics.TabularPassports
import DataForge.Plugins.Tabular.ProfileDuplicates

namespace DataForge.Plugins.ObjectAnalytics.DuplicateEvidence

open DataForge.Foundation.Lists
open DataForge.Foundation.Strings
open DataForge.Foundation.Dictionary
open DataForge.Foundation.Canonical
open DataForge.Foundation.Json
open DataForge.Foundation.JsonReader
open DataForge.Foundation.Numbers
open DataForge.Foundation.Outcome
open DataForge.Foundation.Failures
open DataForge.Foundation.Scores
open DataForge.Foundation.Tables
open DataForge.Domain.Common
open DataForge.Domain.Evidence
open DataForge.Domain.Passport
open DataForge.Domain.TextOcr
open DataForge.Ingestion.ArchiveReader
open DataForge.Ingestion.ManifestBuilder
open DataForge.Ingestion.TabularRows
open DataForge.Ingestion.ManifestIds
open DataForge.Ingestion.TransactionRows
open DataForge.Plugins.ObjectAnalytics.Passports
open DataForge.Plugins.ObjectAnalytics.TabularPassports
open DataForge.Plugins.Tabular.DuplicateGroups
open DataForge.Plugins.Tabular.ProfileDuplicates

def objectIdColumn : NonEmptyStr := literal "object_id"

def profileDuplicates (t : Table) : DuplicateDiagnostics :=
  inferDuplicates t.records t.columns objectIdColumn.1

def tabularDuplicateObjectIds (duplicates : DuplicateDiagnostics)
    (sourceToManifest : Dict Text Text) : List Text :=
  duplicates.affectedObjectIds.filterMap fun id => get? id sourceToManifest

section Spec

/-- Another row of the table agrees with the row in every column but the ids. -/
def Duplicated (t : Table) (record : Row) : Prop :=
  Repeated objectIdColumn.1 t.columns t.records record

instance (t : Table) (record : Row) : Decidable (Duplicated t record) :=
  inferInstanceAs (Decidable (Repeated _ _ _ _))

/-- The first hundred ids of duplicated rows, if there is a column to compare. -/
def listedIds (t : Table) : List Text :=
  if ∃ column ∈ t.columns, column ≠ objectIdColumn.1 then
    (sortedSet
      ((t.records.filter fun record => Duplicated t record).map (cell objectIdColumn.1))).take
      duplicateAffectedIdLimit
  else []

/-- A listed id stands for the row of the manifest. -/
def Reached (t : Table) (rows : List ManifestRow) (row : ManifestRow) : Prop :=
  ∃ id ∈ listedIds t, get? id (sourceObjectIdToManifestId rows) = some row.objectId.1

/-- The listed ids stand for the duplicated rows and for no other one. -/
def Carried (t : Table) (rows : List ManifestRow) : Prop :=
  List.Forall₂ (fun record row => Reached t rows row ↔ Duplicated t record) t.records
    (tabularRows rows)

/-- The duplicated rows can be told and listed, and the id of each stands for its own row. -/
structure Fits (t : Table) (rows : List ManifestRow) : Prop where
  comparable : ∀ record ∈ t.records, Duplicated t record → ∃ column ∈ t.columns, column ≠
    objectIdColumn.1
  few : t.records.countP (fun record => Duplicated t record) ≤ duplicateAffectedIdLimit
  own : List.Forall₂ (fun record row => Duplicated t record →
    get? (cell objectIdColumn.1 record) (sourceObjectIdToManifestId rows) = some row.objectId.1)
      t.records (tabularRows rows)

variable {F : Type} [ScoreLike F]

/-- The passports of the table's rows score the duplicated ones and no other. -/
def Faithful (t : Table) (passports : List (ObjectAnalyticalPassport F)) : Prop :=
  List.Forall₂ (fun record passport => passport.duplicateSignals.duplicateScore =
      some (if Duplicated t record then Score.one else Score.zero))
    t.records (tabularPassports passports)

end Spec

section Listed

variable {t : Table}

theorem signatureColumns_ne_nil : signatureColumns t.columns (some objectIdColumn.1) ≠ [] ↔
    ∃ column ∈ t.columns, column ≠ objectIdColumn.1 := by
  constructor
  · intro hne
    obtain ⟨column, hcolumn⟩ := List.exists_mem_of_ne_nil _ hne
    exact ⟨column, mem_signatureColumns.mp hcolumn⟩
  · rintro ⟨column, hcolumn⟩
    exact List.ne_nil_of_mem (mem_signatureColumns.mpr hcolumn)

/-- What the profile lists, where the column of the ids is there. -/
theorem affectedObjectIds_eq (hid : objectIdColumn.1 ∈ t.columns)
    (h : Identified objectIdColumn t.records) :
    (profileDuplicates t).affectedObjectIds = listedIds t := by
  rw [profileDuplicates, inferDuplicates, if_pos hid, buildDuplicateDiagnostics, listedIds]
  dsimp only
  split
  · next hcolumn =>
    congr 1
    rw [affectedIds, sortedSet_eq_iff]
    intro id
    have hmem := @mem_affectedIds t.records t.columns objectIdColumn h id
    rw [affectedIds, mem_sortedSet] at hmem
    rw [hmem, and_iff_right (signatureColumns_ne_nil.mpr hcolumn), List.mem_map]
    refine exists_congr fun row => ?_
    rw [List.mem_filter, decide_eq_true_eq, Duplicated]
    tauto
  · next hnone =>
    have hempty := not_not.mp (mt signatureColumns_ne_nil.mp hnone)
    rw [hempty, signatureToObjectIds, if_pos rfl]
    rfl

theorem mem_listedIds {id : Text} (h : id ∈ listedIds t) :
    ∃ record ∈ t.records, cell objectIdColumn.1 record = id ∧ Duplicated t record := by
  rw [listedIds] at h
  split at h
  · have hmem := mem_sortedSet.mp (List.mem_of_mem_take h)
    obtain ⟨record, hrecord, rfl⟩ := List.mem_map.mp hmem
    obtain ⟨hrecord, hduplicated⟩ := List.mem_filter.mp hrecord
    exact ⟨record, hrecord, rfl, of_decide_eq_true hduplicated⟩
  · cases h

/-- A row is listed only if it is duplicated. -/
theorem duplicated_of_listed (h : Identified objectIdColumn t.records) {record : Row}
    (hrecord : record ∈ t.records) (hlisted : cell objectIdColumn.1 record ∈ listedIds t) :
    Duplicated t record := by
  obtain ⟨other, hother, hsame, hduplicated⟩ := mem_listedIds hlisted
  obtain rfl := List.inj_on_of_nodup_map h.nodup hother hrecord hsame
  exact hduplicated

/-- All the duplicated rows are listed if there are few of them. -/
theorem forall_listed_iff (h : Identified objectIdColumn t.records) :
    (∀ record ∈ t.records, Duplicated t record → cell objectIdColumn.1 record ∈ listedIds t) ↔
      (∀ record ∈ t.records, Duplicated t record → ∃ column ∈ t.columns,
        column ≠ objectIdColumn.1) ∧
        t.records.countP (fun record => Duplicated t record) ≤ duplicateAffectedIdLimit := by
  by_cases hcolumn : ∃ column ∈ t.columns, column ≠ objectIdColumn.1
  · rw [listedIds, if_pos hcolumn]
    have hids :
        ((t.records.filter fun record => Duplicated t record).map (cell objectIdColumn.1)).Nodup :=
      h.nodup.sublist (List.filter_sublist.map _)
    have hlength : (sortedSet ((t.records.filter fun record => Duplicated t record).map
        (cell objectIdColumn.1))).length = t.records.countP fun record => Duplicated t record := by
      rw [length_sortedSet_eq_iff.mpr hids, List.length_map, List.countP_eq_length_filter]
    have htake := @forall_mem_take_iff _ _ (nodup_sortedSet ((t.records.filter fun record =>
      Duplicated t record).map (cell objectIdColumn.1))) duplicateAffectedIdLimit
    rw [hlength] at htake
    rw [← htake]
    constructor
    · intro hall
      refine ⟨fun _ _ _ => hcolumn, fun id hid => ?_⟩
      obtain ⟨record, hrecord, rfl⟩ := List.mem_map.mp (mem_sortedSet.mp hid)
      obtain ⟨hrecord, hduplicated⟩ := List.mem_filter.mp hrecord
      exact hall record hrecord (of_decide_eq_true hduplicated)
    · rintro ⟨-, hall⟩ record hrecord hduplicated
      exact hall _ (mem_sortedSet.mpr (List.mem_map_of_mem (List.mem_filter.mpr
        ⟨hrecord, decide_eq_true hduplicated⟩)))
  · rw [listedIds, if_neg hcolumn]
    simp only [List.not_mem_nil, imp_false, hcolumn]
    constructor
    · intro hnone
      refine ⟨hnone, ?_⟩
      rw [List.countP_eq_zero.mpr fun record hrecord => by simpa using hnone record hrecord]
      exact Nat.zero_le _
    · exact fun hnone => hnone.1

end Listed

section Passports

variable {F : Type} [ScoreLike F] {t : Table} {loads : Text → Option Value} {files : ArchiveFiles}
  {request : BuildManifestRequest} {contents : ArchiveContents} {d : ArchiveFileDescriptor}
  {result : BuildManifestResult}

/-- What the profile says of the table's duplicates, with whatever else it says. -/
def withDuplicates (tabular : TabularSignals F) (t : Table) (rows : List ManifestRow) :
    TabularSignals F :=
  { tabular with
    duplicateIds :=
      tabularDuplicateObjectIds (profileDuplicates t) (sourceObjectIdToManifestId rows) }

theorem zero_ne_one : (Score.zero : Score F) ≠ Score.one := by
  apply Score.one_ne_of_lt
  exact (ScoreLike.lt_ofInt 0 1 (by decide) (by decide)).trans (by decide)

/-- A row with no ids has no place in an identified table without the column. -/
theorem mem_columns_of_record (h : Identified objectIdColumn t.records) {record : Row}
    (hrecord : record ∈ t.records) : objectIdColumn.1 ∈ t.columns := by
  by_contra hmissing
  obtain ⟨line, -, rfl⟩ := List.mem_map.mp hrecord
  exact h.nonempty _ hrecord (cell_rowOf_of_notMem hmissing)

theorem mem_tabularDuplicateObjectIds {duplicates : DuplicateDiagnostics} {map : Dict Text Text}
    {objectId : Text} : objectId ∈ tabularDuplicateObjectIds duplicates map ↔
      ∃ id ∈ duplicates.affectedObjectIds, get? id map = some objectId := List.mem_filterMap

theorem duplicateBlock_score {row : ManifestRow} {tabular : TabularSignals F}
    {textSignal : Option (TextSignals F)} (h : row.modality = .tabular) :
    (duplicateBlock row tabular textSignal).duplicateScore =
      some (if row.objectId.1 ∈ tabular.duplicateIds then Score.one else Score.zero) := by
  have hskeleton : isSkeleton row.modality = false := by rw [h]; rfl
  rw [duplicateBlock, hskeleton, if_neg Bool.false_ne_true, if_pos h]
  split <;> rfl

/-- A score says that a row was reached and no more. -/
theorem score_iff {reached duplicated : Prop} [Decidable reached] [Decidable duplicated] :
    some (if reached then (Score.one : Score F) else Score.zero) =
        some (if duplicated then Score.one else Score.zero) ↔ (reached ↔ duplicated) := by
  have hne := @zero_ne_one F _
  by_cases hr : reached <;> by_cases hd : duplicated <;> simp [hr, hd, hne, hne.symm]

theorem faithful_iff_carried {rows : List ManifestRow} {evidenceRefs : List EvidenceRef}
    {tabular : TabularSignals F} {report : Option (TextOcrReport F)}
    {modelSignals : Dict Text (ObjectModelErrorSignals F)}
    {passports : List (ObjectAnalyticalPassport F)} (hids : Identified objectIdColumn t.records)
    (h : buildObjectAnalyticsPassports rows evidenceRefs (withDuplicates tabular t rows) report
      modelSignals =
      .ok passports) : Faithful t passports ↔ Carried t rows := by
  have hscores := (tabularPassports_of_rows h).imp fun row passport hrow => by
    obtain ⟨htabular, textSignal, modelSignal, hrow⟩ := hrow
    exact (congrArg _ (buildPassport_eq_ok hrow).2.2.2.2.1).trans (duplicateBlock_score htabular)
  have hcongr := @forall₂_congr_right _ _ _
    (fun record passport => passport.duplicateSignals.duplicateScore =
      some (if Duplicated t record then (Score.one : Score F) else Score.zero))
    (fun record row => row.objectId.1 ∈ (withDuplicates tabular t rows).duplicateIds ↔
      Duplicated t record)
    _ t.records _ _ hscores fun record row passport hscore => by rw [hscore, score_iff]
  rw [Faithful, Carried, hcongr]
  by_cases hempty : t.records = []
  · rw [hempty, List.forall₂_nil_left_iff, List.forall₂_nil_left_iff]
  · obtain ⟨record, hrecord⟩ := List.exists_mem_of_ne_nil _ hempty
    have hreached : ∀ row :
        ManifestRow, row.objectId.1 ∈ (withDuplicates tabular t rows).duplicateIds ↔
        Reached t rows row := by
      intro row
      rw [withDuplicates, mem_tabularDuplicateObjectIds,
        affectedObjectIds_eq (mem_columns_of_record hids hrecord) hids]
      rfl
    simp only [hreached]

end Passports

section Carriage

variable {t : Table} {loads : Text → Option Value} {files : ArchiveFiles}
  {request : BuildManifestRequest}
  {contents : ArchiveContents} {d : ArchiveFileDescriptor} {result : BuildManifestResult}

theorem mem_of_get?_sourceObjectId {rows : List ManifestRow} {id objectId : Text}
    (h : get? id (sourceObjectIdToManifestId rows) = some objectId) :
    ∃ row ∈ rows, rowSourceId row = some id ∧ row.objectId.1 = objectId := by
  rw [sourceObjectIdToManifestId, get?_update_eq_getLast?, get?_nil, Option.or_none,
    Option.map_eq_some_iff] at h
  obtain ⟨⟨key, value⟩, hlast, rfl⟩ := h
  obtain ⟨hmem, hkey⟩ := List.mem_filter.mp (List.mem_of_getLast? hlast)
  obtain ⟨row, hrow, hitem⟩ := List.mem_filterMap.mp hmem
  obtain ⟨source, hsource, hitem⟩ := Option.map_eq_some_iff.mp hitem
  obtain ⟨rfl, rfl⟩ := Prod.mk.inj hitem
  exact ⟨row, hrow, hsource.trans (congrArg some (of_decide_eq_true hkey)), rfl⟩

theorem get?_of_rowSourceId {row : ManifestRow} {id : Text} (h : rowSourceId row = some id) :
    get? sourceObjectIdKey row.metadata = some (.str id) := by
  rw [rowSourceId] at h
  split at h
  · next hget =>
    obtain rfl := Option.some.inj h
    exact hget
  · cases h

theorem sourceId_of_made {record : Row} {row : ManifestRow} (hid : objectIdColumn.1 ∈ t.columns)
    (hne : cell objectIdColumn.1 record ≠ []) (h : MadeFrom request t record row) :
    get? sourceObjectIdKey row.metadata = some (.str (cell objectIdColumn.1 record)) := by
  obtain ⟨line, rfl, hrow⟩ := h
  rw [(tabularRow_eq_ok hrow).2.1, get?_tabularMetadata,
    (sourceObjectId_dictRow hid).mpr ⟨rfl, hne⟩]
  rfl

/-- Where the ids of the rows tell their sources apart, a row is reached by its own id only. -/
theorem reached_iff (hids : Identified objectIdColumn t.records)
    (hbuild : buildAssetManifest loads request (files.payloads request) contents = .ok result)
    (hinjective : PrefixInjective request (archiveIdentities loads files contents)) {record : Row}
    (hrecord : record ∈ t.records) {row : ManifestRow} (hrow : row ∈ result.rows)
    (hmade : MadeFrom request t record row) :
    Reached t result.rows row ↔ cell objectIdColumn.1 record ∈ listedIds t ∧
      get? (cell objectIdColumn.1 record) (sourceObjectIdToManifestId result.rows) =
        some row.objectId.1 := by
  constructor
  · rintro ⟨id, hlisted, hget⟩
    obtain ⟨other, hother, hsource, hsame⟩ := mem_of_get?_sourceObjectId hget
    obtain ⟨identity, hidentity, hobject, hkey⟩ := identifiedBy_of_manifest hbuild hrow
    obtain ⟨identity', hidentity', hobject', hkey'⟩ := identifiedBy_of_manifest hbuild hother
    have heq : identity' = identity :=
      objectIdOf_inj hinjective hidentity' hidentity (by rw [← hobject', ← hobject, hsame])
    have hsourceId := sourceId_of_made (mem_columns_of_record hids hrecord)
      (hids.nonempty record hrecord) hmade
    have hid : id = cell objectIdColumn.1 record := by
      rw [← hkey' id (get?_of_rowSourceId hsource), heq, hkey _ hsourceId]
    rw [← hid]
    exact ⟨hlisted, hget⟩
  · rintro ⟨hlisted, hget⟩
    exact ⟨_, hlisted, hget⟩

theorem carried_iff_fits (hids : Identified objectIdColumn t.records)
    (hbuild : buildAssetManifest loads request (files.payloads request) contents = .ok result)
    (hd : contents.descriptorsByKind .transactions = [d]) (hcsv : files.readCsv d = .ok (some t))
    (hinjective : PrefixInjective request (archiveIdentities loads files contents)) :
    Carried t result.rows ↔ Fits t result.rows := by
  have hmade : List.Forall₂ (fun record row => row ∈ result.rows ∧ MadeFrom request t record row)
      t.records (tabularRows result.rows) :=
    forall₂_and_right (records_of_manifest hbuild hd hcsv) fun row hrow =>
      List.mem_of_mem_filter hrow
  have hown : Carried t result.rows ↔ List.Forall₂ (fun record row =>
      (Duplicated t record → cell objectIdColumn.1 record ∈ listedIds t) ∧ (Duplicated t record →
        get? (cell objectIdColumn.1 record) (sourceObjectIdToManifestId result.rows) =
          some row.objectId.1)) t.records (tabularRows result.rows) := by
    refine forall₂_congr_of hmade fun record hrecord row hrow => ?_
    rw [reached_iff hids hbuild hinjective hrecord hrow.1 hrow.2, ← forall_and]
    constructor
    · intro hiff hduplicated
      exact hiff.mpr hduplicated
    · intro hall
      exact ⟨fun hreached => duplicated_of_listed hids hrecord hreached.1, hall⟩
  rw [hown, List.forall₂_and_left, forall_listed_iff hids]
  exact ⟨fun h => ⟨h.1.1, h.1.2, h.2⟩, fun h => ⟨⟨h.comparable, h.few⟩, h.own⟩⟩

/-- The scores of the duplicates are right exactly where the listed ids stand for the
duplicated rows and no other one; where ids tell their sources apart, that is where the
duplicated rows are few and no other record took the id of one. -/
theorem duplicate_scores_iff {F : Type} [ScoreLike F] {evidenceRefs : List EvidenceRef}
    {tabular : TabularSignals F} {report : Option (TextOcrReport F)}
    {modelSignals : Dict Text (ObjectModelErrorSignals F)}
    {passports : List (ObjectAnalyticalPassport F)}
    (hd : resolveTransactionsDescriptor contents = .ok d) (hcsv : files.readCsv d = .ok (some t))
    (hids : Identified objectIdColumn t.records)
    (hbuild : buildAssetManifest loads request (files.payloads request) contents = .ok result)
    (hpassports : buildObjectAnalyticsPassports result.rows evidenceRefs
      (withDuplicates tabular t result.rows) report modelSignals = .ok passports) :
    (Faithful t passports ↔ Carried t result.rows) ∧
      (PrefixInjective request (archiveIdentities loads files contents) →
        (Faithful t passports ↔ Fits t result.rows)) := by
  have hcarried := faithful_iff_carried hids hpassports
  refine ⟨hcarried, fun hinjective => hcarried.trans ?_⟩
  exact carried_iff_fits hids hbuild (resolveTransactionsDescriptor_eq_ok hd) hcsv hinjective

end Carriage

section Example

def entry (name : String) (kind : ArchiveEntryKind) : ArchiveFileDescriptor :=
  ⟨name.toList, kind, "text/plain", 1, 1, ⟨name.toList, 0, 1, 1⟩⟩

/-- Two transactions of one amount, and behind them a message with the id of the second. -/
def messageArchive : ArchiveContents :=
  ⟨[entry "transactions.csv" .transactions, entry "support_messages.jsonl" .supportMessages],
    ⟨2, 2, 2, ["transactions.csv".toList, "support_messages.jsonl".toList]⟩⟩

def transactions : Table where
  header := ["object_id", "amount"].map String.toList
  lines := [["a", "1"], ["b", "1"]].map fun line => line.map String.toList

def messageFiles : ArchiveFiles where
  bytes _ := "\x7b\"object_id\":\"b\"\x7d".toUTF8
  readCsv _ := .ok (some transactions)

def messageRequest : BuildManifestRequest where
  datasetId := literal "dataset"
  versionId := literal "v1"
  parentVersionId := literal "v0"
  createdByJobId := literal "job"
  configHash := zeroDigest

def messageManifest : Result BuildManifestResult :=
  buildAssetManifest loads messageRequest (messageFiles.payloads messageRequest) messageArchive

instance (t : Table) (rows : List ManifestRow) (row : ManifestRow) :
    Decidable (Reached t rows row) :=
  inferInstanceAs (Decidable (∃ id ∈ listedIds t, _))

instance (t : Table) (rows : List ManifestRow) : Decidable (Carried t rows) :=
  inferInstanceAs (Decidable (List.Forall₂ _ _ _))

theorem message_takes_id : messageManifest.toOption.map (fun result =>
    decide (Carried transactions result.rows)) = some false := by
  decide +kernel

theorem identified_transactions : Identified objectIdColumn transactions.records where
  nodup := by decide
  nonempty := by decide

theorem exists_messageManifest : ∃ result, messageManifest = .ok result ∧
    ¬ Carried transactions result.rows := by
  have htakes := message_takes_id
  cases hrun : messageManifest with
  | error e =>
    rw [hrun] at htakes
    cases htakes
  | ok result =>
    rw [hrun] at htakes
    exact ⟨result, rfl, of_decide_eq_false (Option.some.inj htakes)⟩

theorem duplicate_scores_sample : ∃ (result : BuildManifestResult) (passports :
      List (ObjectAnalyticalPassport ℚ)),
    messageManifest = .ok result ∧
      buildObjectAnalyticsPassports result.rows []
        (withDuplicates noSignals transactions result.rows)
        none [] = .ok passports ∧
      (Faithful transactions passports ↔ Carried transactions result.rows) ∧
      (PrefixInjective messageRequest (archiveIdentities loads messageFiles messageArchive) →
        (Faithful transactions passports ↔ Fits transactions result.rows)) := by
  obtain ⟨result, hresult, -⟩ := exists_messageManifest
  obtain ⟨passports, hpassports⟩ :=
    exists_passports (withDuplicates noSignals transactions result.rows) rfl rfl result.rows
  exact ⟨result, passports, hresult, hpassports,
    duplicate_scores_iff rfl rfl identified_transactions hresult hpassports⟩

/-- The second transaction is a duplicate of the first, and its passport says that it is none:
its id stands for the message. -/
theorem shared_id_not_scored : ∃ (result : BuildManifestResult) (passports :
      List (ObjectAnalyticalPassport ℚ)),
    messageManifest = .ok result ∧
      buildObjectAnalyticsPassports result.rows []
        (withDuplicates noSignals transactions result.rows)
        none [] = .ok passports ∧ ¬ Faithful transactions passports := by
  obtain ⟨result, hresult, htaken⟩ := exists_messageManifest
  obtain ⟨passports, hpassports⟩ :=
    exists_passports (withDuplicates noSignals transactions result.rows) rfl rfl result.rows
  exact ⟨result, passports, hresult, hpassports,
    fun hfaithful =>
      htaken ((faithful_iff_carried identified_transactions hpassports).mp hfaithful)⟩

end Example

end DataForge.Plugins.ObjectAnalytics.DuplicateEvidence
