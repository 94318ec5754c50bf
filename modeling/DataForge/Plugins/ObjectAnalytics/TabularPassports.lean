import DataForge.Ingestion.TransactionRows
import DataForge.Plugins.ObjectAnalytics.Passports
import DataForge.Foundation.Lists

namespace DataForge.Plugins.ObjectAnalytics.TabularPassports

open DataForge.Foundation.Lists
open DataForge.Foundation.Strings
open DataForge.Foundation.Dictionary
open DataForge.Foundation.Json
open DataForge.Foundation.Numbers
open DataForge.Foundation.Outcome
open DataForge.Foundation.Failures
open DataForge.Foundation.Scores
open DataForge.Foundation.Tables
open DataForge.Domain.Common
open DataForge.Domain.Evidence
open DataForge.Domain.Passport
open DataForge.Domain.TextOcr
open DataForge.Ingestion.ArchiveReader
open DataForge.Ingestion.ManifestBuilder
open DataForge.Ingestion.TabularRows
open DataForge.Ingestion.ManifestIds
open DataForge.Ingestion.TransactionRows
open DataForge.Plugins.ObjectAnalytics.Passports

variable {F : Type} [ScoreLike F]

/-- The passports of the rows of tables, in the order of the rows. -/
def tabularPassports (passports : List (ObjectAnalyticalPassport F)) :
    List (ObjectAnalyticalPassport F) :=
  passports.filter fun passport => passport.modality = .tabular

theorem tabularPassports_of_rows {rows : List ManifestRow} {evidenceRefs : List EvidenceRef}
    {tabular : TabularSignals F} {report : Option (TextOcrReport F)}
    {modelSignals : Dict Text (ObjectModelErrorSignals F)}
    {passports : List (ObjectAnalyticalPassport F)}
    (h : buildObjectAnalyticsPassports rows evidenceRefs tabular report modelSignals =
      .ok passports) :
    List.Forall₂ (fun row passport => row.modality = .tabular ∧ ∃ textSignal modelSignal,
        buildPassport row evidenceRefs tabular textSignal modelSignal = .ok passport)
      (tabularRows rows) (tabularPassports passports) := by
  have hpairs := mapM_eq_ok_iff_forall₂.mp h
  generalize textSignalsByManifestObject rows report = signals at hpairs
  clear h
  rw [tabularRows, tabularPassports]
  induction hpairs with
  | nil => exact .nil
  | @cons row passport rows passports hrow _ ih =>
    have hmodality := (buildPassport_eq_ok hrow).2.1
    by_cases htabular : row.modality = .tabular
    · rw [List.filter_cons_of_pos (by simpa using htabular),
        List.filter_cons_of_pos (by simpa [hmodality] using htabular)]
      exact .cons ⟨htabular, _, _, hrow⟩ ih
    · rw [List.filter_cons_of_neg (by simpa using htabular),
        List.filter_cons_of_neg (by simpa [hmodality] using htabular)]
      exact ih

section Records

variable {loads : Text → Option Value} {files : ArchiveFiles} {request : BuildManifestRequest}
  {contents : ArchiveContents} {d : ArchiveFileDescriptor} {t : Table}
    {result : BuildManifestResult}

/-- A row of the manifest was made from a line of the table that is read as this record. -/
def MadeFrom (request : BuildManifestRequest) (t : Table) (record : Row)
    (row : ManifestRow) : Prop :=
  ∃ line, recordOf t line = record ∧ tabularRow request (dictRow t.header line) = .ok row

theorem records_of_manifest
    (h : buildAssetManifest loads request (files.payloads request) contents = .ok result)
    (hd : contents.descriptorsByKind .transactions = [d]) (hcsv : files.readCsv d = .ok (some t)) :
    List.Forall₂ (MadeFrom request t) t.records (tabularRows result.rows) := by
  rw [records_eq, List.forall₂_map_left_iff]
  exact (tabularRows_of_manifest h hd hcsv).imp fun line row hrow => ⟨line, rfl, hrow⟩

end Records

section Rational

/-- A profile that says nothing. -/
def noSignals : TabularSignals ℚ := ⟨[], [], [], none, none⟩

/-- Rows of which no outlier, broken rule or prediction is known have their passports. -/
theorem exists_passports (tabular : TabularSignals ℚ) (houtliers : tabular.outlierColumns = [])
    (hrules : tabular.businessRules = []) (rows : List ManifestRow) :
    ∃ passports, buildObjectAnalyticsPassports rows [] tabular none [] = .ok passports := by
  refine exists_mapM_iff.mpr fun row _ => ?_
  have hquality : ∃ quality, technicalQualityBlock row tabular none = .ok quality := by
    have hfull : scoreField "TechnicalQualityBlock" "score"
        (FloatLike.max (FloatLike.ofInt 0)
          (FloatLike.sub (FloatLike.ofInt 1) (FloatLike.ofInt 0) : ℚ)) =
          .ok Score.one := scoreField_eq_ok.mpr (by decide +kernel)
    have hpenalties : penalties row tabular none = FloatLike.ofInt 0 := by
      rw [penalties, houtliers, hrules]
      split <;> rfl
    rw [technicalQualityBlock, hpenalties, hfull]
    split
    · exact ⟨_, rfl⟩
    · exact ⟨_, rfl⟩
  have hlearning : ∃ learning, learningValueBlock row tabular none = .ok learning := by
    rw [learningValueBlock]
    split
    · exact ⟨_, rfl⟩
    · exact ⟨_, rfl⟩
  obtain ⟨quality, hquality⟩ := hquality
  obtain ⟨learning, hlearning⟩ := hlearning
  exact ⟨_, bind_eq_ok.mpr ⟨quality, hquality, bind_eq_ok.mpr ⟨learning, hlearning, rfl⟩⟩⟩

end Rational

end DataForge.Plugins.ObjectAnalytics.TabularPassports
