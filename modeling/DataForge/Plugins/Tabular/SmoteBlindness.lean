import DataForge.Plugins.Tabular.SmoteLeakage

namespace DataForge.Plugins.Tabular.SmoteBlindness

open DataForge.Foundation.Strings
open DataForge.Foundation.Outcome
open DataForge.Foundation.Features
open DataForge.Foundation.Tables
open DataForge.Domain.Common
open DataForge.Domain.Splits
open DataForge.Plugins.Tabular.Sources
open DataForge.Plugins.Tabular.LeakageChecks hiding verifyAssignmentsMatchRows buildReport
open DataForge.Plugins.Tabular.SyntheticCommon
open DataForge.Plugins.Tabular.SyntheticSmote
open DataForge.Plugins.Tabular.SmoteIds

variable {F : Type} [FeatureLike F]

/-- Two sources and their manifests that agree on what a step may learn from: the rare rows
of the training split, and how many others it has. -/
structure AgreeOnTrainRare (request request' : ExecuteSmoteAugmentationRequest F) (t t' : Table) :
    Prop where
  others : request' = { request with splitManifest := request'.splitManifest }
  columns : t.columns = t'.columns
  rare : trainRare request (identifiedRows t.records) =
    trainRare request' (identifiedRows t'.records)
  majority : trainMajorityCount request (identifiedRows t.records) =
    trainMajorityCount request' (identifiedRows t'.records)

/-- The one row of this id is a rare row of the training split. -/
def IsTrainRare (request : ExecuteSmoteAugmentationRequest F) (t : Table)
    (id : NonEmptyStr) : Prop :=
  ∃ row ∈ identifiedRows t.records, objectId row = id ∧ inTrain request row = true ∧
    isRare request row = true ∧ ∀ other ∈ identifiedRows t.records, objectId other =
      id → other = row

/-- The lines that a step adds to its source. -/
def syntheticLines (t : Table) (result : ExecuteSmoteAugmentationResult F) : List (List Text) :=
  result.candidate.lines.drop (identifiedRows t.records).length

section Draws

variable {gen : Generator F} {request request' : ExecuteSmoteAugmentationRequest F}
  {rare : List IdentifiedRow} {featureColumns : List Text}

/-- A draw reads the request without its manifest. -/
theorem drawSamples_congr (h : request' = { request with splitManifest := request'.splitManifest })
    (indices : List Nat) (s : gen.State) :
    drawSamples gen request' rare featureColumns indices s =
      drawSamples gen request rare featureColumns indices s := by
  have hsample : ∀ index s, drawSample gen request' rare featureColumns index s =
      drawSample gen request rare featureColumns index s := by
    intro index s
    rw [h]
    rfl
  induction indices generalizing s with
  | nil => rfl
  | cons index indices ih =>
    rw [drawSamples, drawSamples, hsample]
    simp only [ih]

theorem mem_rare_drawSample {index : Nat} {s s' : gen.State} {sample : Sample F}
    (h : drawSample gen request rare featureColumns index s = .ok (sample, s')) :
    (∃ row ∈ rare, objectId row = sample.lineage.seedObjectId) ∧
      ∃ row ∈ rare, objectId row = sample.lineage.neighborObjectId := by
  rw [drawSample] at h
  obtain ⟨⟨neighborPos, s₁⟩, -, h⟩ := bind_eq_ok.mp h
  dsimp only at h
  split at h
  · next seedRow neighborRow hseed hneighbor =>
    obtain ⟨row, -, h⟩ := bind_eq_ok.mp h
    obtain ⟨rfl, -⟩ := Prod.mk.inj (Except.ok.inj h)
    exact ⟨⟨seedRow, List.mem_of_getElem? hseed, rfl⟩, neighborRow,
      List.mem_of_getElem? hneighbor, rfl⟩
  · cases h

theorem mem_rare_drawSamples {indices : List Nat} {s : gen.State} {samples : List (Sample F)}
    (h : drawSamples gen request rare featureColumns indices s = .ok samples) :
    ∀ sample ∈ samples, (∃ row ∈ rare, objectId row = sample.lineage.seedObjectId) ∧
      ∃ row ∈ rare, objectId row = sample.lineage.neighborObjectId := by
  induction indices generalizing s samples with
  | nil =>
    obtain rfl := Except.ok.inj h
    rintro sample ⟨⟩
  | cons index indices ih =>
    rw [drawSamples] at h
    obtain ⟨⟨first, s'⟩, hfirst, h⟩ := bind_eq_ok.mp h
    obtain ⟨rest, hrest, h⟩ := bind_eq_ok.mp h
    obtain rfl := Except.ok.inj h
    intro sample hsample
    rcases List.mem_cons.mp hsample with rfl | hsample
    · exact mem_rare_drawSample hfirst
    · exact ih hrest sample hsample

end Draws

section Runs

variable {gen : Generator F} {request request' : ExecuteSmoteAugmentationRequest F} {t t' : Table}
  {result result' : ExecuteSmoteAugmentationResult F} {samples samples' : List (Sample F)}

theorem isTrainRare_of_mem (hids : (idsOf t).Nodup) {id : NonEmptyStr}
    (h : ∃ row ∈ trainRare request (identifiedRows t.records), objectId row = id) :
    IsTrainRare request t id := by
  obtain ⟨row, hrow, hid⟩ := h
  obtain ⟨hmem, hrare⟩ := List.mem_filter.mp hrow
  obtain ⟨htrain, hlabel⟩ := Bool.and_eq_true_iff.mp hrare
  refine ⟨row, hmem, hid, htrain, hlabel, fun other hother hsame => ?_⟩
  exact List.inj_on_of_nodup_map hids hother hmem (by rw [hsame, hid])

theorem isTrainRare_lineage (hids : (idsOf t).Nodup) (h : Samples gen request t result samples) :
    ∀ sample ∈ samples, IsTrainRare request t sample.lineage.seedObjectId ∧
      IsTrainRare request t sample.lineage.neighborObjectId := by
  intro sample hsample
  obtain ⟨hseed, hneighbor⟩ := mem_rare_drawSamples h.drawn sample hsample
  exact ⟨isTrainRare_of_mem hids hseed, isTrainRare_of_mem hids hneighbor⟩

theorem syntheticLines_eq (h : Samples gen request t result samples) :
    syntheticLines t result = (Table.write (candidateDatasetColumns t.columns)
      ((samples.map Sample.row).map fun row =>
        rowOf (candidateDatasetColumns t.columns) fun column => cell column row)).lines := by
  rw [syntheticLines, h.candidate, writeCandidateCsv, Table.write, Table.write]
  dsimp only
  rw [List.map_append]
  exact List.drop_left' (by rw [List.length_map, List.length_map, List.length_map])

theorem samples_unique (hagree : AgreeOnTrainRare request request' t t')
    (h : Samples gen request t result samples) (h' : Samples gen request' t' result' samples') :
    samples = samples' := by
  have hcount : generatedCount request' (identifiedRows t'.records) =
      generatedCount request (identifiedRows t.records) := by
    rw [generatedCount, generatedCount, ← hagree.rare, ← hagree.majority, hagree.others]
  have hfeatures : interpolatedColumns request' t' = interpolatedColumns request t := by
    rw [interpolatedColumns, interpolatedColumns, ← hagree.columns, hagree.others]
  have hseed : request'.randomSeed = request.randomSeed := by rw [hagree.others]
  have hdrawn := h'.drawn
  rw [hcount, hfeatures, hseed, ← hagree.rare, drawSamples_congr hagree.others, h.drawn] at hdrawn
  exact Except.ok.inj hdrawn

/-- What a step generates depends on the rare rows of the training split alone, and each
sample lies between two of them. -/
theorem smote_blind (hagree : AgreeOnTrainRare request request' t t') (hids : (idsOf t).Nodup)
    (hids' : (idsOf t').Nodup) (hrun : executeSmoteAugmentationAction gen request t = .ok result)
    (hrun' : executeSmoteAugmentationAction gen request' t' = .ok result') :
    ∃ samples, Samples gen request t result samples ∧ Samples gen request' t' result' samples ∧
      syntheticLines t result = syntheticLines t' result' ∧
      result.report.sampleLineage = result'.report.sampleLineage ∧
      ∀ sample ∈ samples,
        (IsTrainRare request t sample.lineage.seedObjectId ∧
          IsTrainRare request t sample.lineage.neighborObjectId) ∧
        IsTrainRare request' t' sample.lineage.seedObjectId ∧
          IsTrainRare request' t' sample.lineage.neighborObjectId := by
  obtain ⟨samples, h⟩ := exists_samples hrun
  obtain ⟨samples', h'⟩ := exists_samples hrun'
  obtain rfl := samples_unique hagree h h'
  refine ⟨samples, h, h', ?_, ?_, fun sample hsample =>
    ⟨isTrainRare_lineage hids h sample hsample, isTrainRare_lineage hids' h' sample hsample⟩⟩
  · rw [syntheticLines_eq h, syntheticLines_eq h', hagree.columns]
  · have hlimit : request'.sampleLineageLimit = request.sampleLineageLimit := by rw [hagree.others]
    rw [h.report, h'.report, buildReport, buildReport, hlimit]

end Runs

section Example

open DataForge.Plugins.Tabular.SmoteLeakage

/-- The payment of the test split moves to another branch. -/
theorem smote_blind_payments : ∃ result result' samples,
    augmented "north" "south" = .ok result ∧ augmented "north" "north" = .ok result' ∧
      Samples firstDraws branchRequest (payments "north" "south") result samples ∧
      Samples firstDraws branchRequest (payments "north" "north") result' samples := by
  have hdone : (augmented "north" "south").toBool = true ∧ (augmented "north" "north").toBool =
      true := by
    decide +kernel
  obtain ⟨hdone, hdone'⟩ := hdone
  cases hrun : augmented "north" "south" with
  | error e => rw [hrun] at hdone; cases hdone
  | ok result =>
    cases hrun' : augmented "north" "north" with
    | error e => rw [hrun'] at hdone'; cases hdone'
    | ok result' =>
      obtain ⟨samples, hsamples, hsamples', -⟩ := smote_blind
        ⟨rfl, by decide +kernel, by decide +kernel, by decide +kernel⟩ (by decide +kernel)
        (by decide +kernel) hrun hrun'
      exact ⟨result, result', samples, rfl, rfl, hsamples, hsamples'⟩

end Example

end DataForge.Plugins.Tabular.SmoteBlindness
