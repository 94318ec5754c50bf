import DataForge.Kernel.ExportPackage

namespace DataForge.Kernel.ExportReadiness

open DataForge.Foundation.Strings
open DataForge.Domain.Common
open DataForge.Domain.Artifact
open DataForge.Domain.CandidateVersion
open DataForge.Domain.ExportPackage
open DataForge.Domain.Profile
open DataForge.Domain.ValidationGates
open DataForge.Kernel.ExportPackage

section Unique

/-- What is left of a list without the values seen before, each value once. -/
theorem eraseDups_unseen {α : Type} [BEq α] [LawfulBEq α] (seen : List α) (value : α)
    (values : List α) :
    ((value :: values).filter fun other => other ∉ seen).eraseDups =
      if value ∈ seen then (values.filter fun other => other ∉ seen).eraseDups
      else value :: (values.filter fun other => other ∉ value :: seen).eraseDups := by
  by_cases hseen : value ∈ seen
  · rw [if_pos hseen, List.filter_cons_of_neg (by simpa using hseen)]
  · rw [if_neg hseen, List.filter_cons_of_pos (by simpa using hseen), List.eraseDups_cons,
      List.filter_filter]
    congr 2
    apply List.filter_congr
    intro other _
    rw [Bool.eq_iff_iff]
    simp

theorem orderedUniqueFrom_eq (seen : List Text) {values : List Text}
    (h : ∀ value ∈ values, value ≠ []) :
    orderedUniqueFrom seen values = (values.filter fun value => value ∉ seen).eraseDups := by
  induction values generalizing seen with
  | nil => rfl
  | cons value values ih =>
    obtain ⟨hvalue, hvalues⟩ := List.forall_mem_cons.mp h
    rw [orderedUniqueFrom, eraseDups_unseen, ih seen hvalues, ih (value :: seen) hvalues]
    exact if_congr (or_iff_right hvalue) rfl rfl

theorem uniqueByUri_sublist (seen : List S3Uri) (refs : List ArtifactRef) :
    (uniqueByUri seen refs).Sublist refs := by
  induction refs generalizing seen with
  | nil => exact .slnil
  | cons ref refs ih =>
    rw [uniqueByUri]
    split
    · exact (ih seen).cons ref
    · exact (ih (ref.uri :: seen)).cons_cons ref

theorem map_uri_uniqueByUri (seen : List S3Uri) (refs : List ArtifactRef) :
    (uniqueByUri seen refs).map ArtifactRef.uri =
      ((refs.map ArtifactRef.uri).filter fun uri => uri ∉ seen).eraseDups := by
  induction refs generalizing seen with
  | nil => rfl
  | cons ref refs ih =>
    rw [uniqueByUri, List.map_cons, eraseDups_unseen, apply_ite (List.map ArtifactRef.uri),
      List.map_cons, ih seen, ih (ref.uri :: seen)]

end Unique

section Reasons

/-- A gate that says why, where it fails. -/
def Explained (gate : ValidationGateResult) : Prop :=
  gate.status = .failed → gate.reasonCodes ≠ [] ∧ ∀ code ∈ gate.reasonCodes, code ≠ []

theorem explained_of_not_failed {gate : ValidationGateResult} (h : gate.status ≠ .failed) :
    Explained gate :=
  fun hfailed => absurd hfailed h

theorem explained_failed {name : String} {reasonCodes : List Text} (hne : reasonCodes ≠ [])
    (hcodes : ∀ code ∈ reasonCodes, code ≠ []) : Explained (gateFailed name reasonCodes) :=
  fun _ => ⟨hne, hcodes⟩

theorem explained_literal (name code : String) (hcode : code.toList ≠ []) :
    Explained (gateFailed name [code.toList]) :=
  explained_failed (List.cons_ne_nil _ _) fun _ hmem => List.mem_singleton.mp hmem ▸ hcode

/-- The reasons of a gate that falls back on a code of its own. -/
theorem explained_orDefault (name code : String) {reasonCodes : List Text}
    (hcode : code.toList ≠ [])
    (hcodes : ∀ code ∈ reasonCodes, code ≠ []) :
    Explained (gateFailed name (orDefault reasonCodes code)) := by
  rw [orDefault]
  split
  · exact explained_literal name code hcode
  · next hne => exact explained_failed hne hcodes

theorem value_ne_nil (gateType : ValidationGateType) : gateType.value ≠ [] := by
  cases gateType <;> decide

theorem explained_exportGates (request : BuildExportPackageRequest) :
    ∀ gate ∈ exportGates request, Explained gate := by
  rw [exportGates]
  simp only [List.forall_mem_cons, List.not_mem_nil, false_implies, implies_true, and_true]
  refine ⟨?_, ?_, ?_, ?_, ?_, ?_, ?_⟩
  · rw [candidateValidationGate]
    split
    · refine explained_orDefault _ _ (by decide) fun code hcode => ?_
      obtain ⟨reason, -, rfl⟩ := List.mem_map.mp hcode
      exact reason.2
    · exact explained_of_not_failed (by decide)
  · rw [rawImmutabilityGate]
    split
    · exact explained_literal _ _ (by decide)
    · exact explained_of_not_failed (by decide)
    · exact explained_of_not_failed (by decide)
  · rw [validationGatesGate.eq_def]
    split
    · exact explained_of_not_failed (by decide)
    · split
      · refine explained_orDefault _ _ (by decide) fun code hcode => ?_
        obtain ⟨gateType, -, rfl⟩ := List.mem_map.mp hcode
        exact value_ne_nil gateType
      · exact explained_of_not_failed (by decide)
  · rw [privacyGate.eq_def]
    split
    · exact explained_of_not_failed (by decide)
    · split
      · exact explained_literal _ _ (by decide)
      · exact explained_of_not_failed (by decide)
  · rw [blockedObjectsGate]
    split
    · exact explained_literal _ _ (by decide)
    · exact explained_of_not_failed (by decide)
  · rw [modelImpactGate.eq_def]
    split
    · split
      · exact explained_literal _ _ (by decide)
      · exact explained_of_not_failed (by decide)
    · exact explained_literal _ _ (by decide)
    · exact explained_literal _ _ (by decide)
    · exact explained_of_not_failed (by simp [gatePassed])
  · rw [requiredArtifactsGate]
    split
    · exact explained_of_not_failed (by decide)
    · next hmissing =>
      refine explained_failed hmissing fun code hcode => ?_
      rw [missingRequiredArtifacts, List.mem_append] at hcode
      rcases hcode with hcode | hcode <;> split at hcode <;>
        first
        | exact absurd hcode List.not_mem_nil
        | exact List.mem_singleton.mp hcode ▸ by decide

end Reasons

section Package

variable (request : BuildExportPackageRequest)

theorem code_ne_nil {code : Text} (h : code ∈ blockerCodes (exportGates request)) : code ≠ [] := by
  obtain ⟨gate, hgate, hcode⟩ := List.mem_flatMap.mp h
  obtain ⟨hmem, hfailed⟩ := List.mem_filter.mp hgate
  exact (explained_exportGates request gate hmem (of_decide_eq_true hfailed)).2 code hcode

theorem blockerCodes_eq_nil_iff : blockerCodes (exportGates request) = [] ↔
    ∀ gate ∈ exportGates request, gate.status ≠ .failed := by
  rw [blockerCodes, List.flatMap_eq_nil_iff]
  constructor
  · intro h gate hgate hfailed
    exact (explained_exportGates request gate hgate hfailed).1
      (h gate (List.mem_filter.mpr ⟨hgate, decide_eq_true hfailed⟩))
  · intro h gate hgate
    obtain ⟨hmem, hfailed⟩ := List.mem_filter.mp hgate
    exact absurd (of_decide_eq_true hfailed) (h gate hmem)

theorem codes_eq : (exportPackage request).blockedReasonCodes =
    (blockerCodes (exportGates request)).eraseDups := by
  have hall : (blockerCodes (exportGates request)).filter (fun code => code ∉ ([] : List Text)) =
      blockerCodes (exportGates request) := List.filter_eq_self.mpr fun _ _ => by simp
  have hcodes : (exportPackage request).blockedReasonCodes = (evaluateExportGates request).2 := rfl
  rw [hcodes, evaluateExportGates_eq, orderedUniqueFrom_eq [] fun _ => code_ne_nil request, hall]

/-- The artifacts that the request supplies. -/
def supplied : List ArtifactRef :=
  [request.exportManifestArtifact] ++ request.tabularArtifacts ++ request.textArtifacts ++
    request.datasetCardArtifact.toList ++ request.lineageArtifact.toList ++
    request.dataforgeReportArtifact.toList ++ request.reviewQueueArtifact.toList ++
      request.extraArtifacts

/-- A package is ready when no gate failed; it gives the reasons of the failed gates once
each, and every supplied artifact once, or the manifest alone where it is blocked. -/
structure ConjunctionOfGates (package : ExportPackage) : Prop where
  ready : package.status = .ready ↔ ∀ gate ∈ package.validationGates, gate.status ≠ .failed
  codes : package.blockedReasonCodes =
    ((package.validationGates.filter fun gate => gate.status = .failed).flatMap
      ValidationGateResult.reasonCodes).eraseDups
  blocked : package.status = .blocked →
    package.artifacts = [request.exportManifestArtifact] ∧ package.objectCounts.included = 0
  artifacts : package.status = .ready → package.artifacts.Sublist (supplied request) ∧
    package.artifacts.map ArtifactRef.uri = ((supplied request).map ArtifactRef.uri).eraseDups

theorem export_ready_conjunction : ConjunctionOfGates request (exportPackage request) := by
  have hgates : (exportPackage request).validationGates = exportGates request := by
    show (evaluateExportGates request).1 = _
    rw [evaluateExportGates_eq]
  have hnone : (evaluateExportGates request).2 = [] ↔ ∀ gate ∈ exportGates request, gate.status ≠
      .failed := by
    have hcodes :
        (evaluateExportGates request).2 = (blockerCodes (exportGates request)).eraseDups :=
      codes_eq request
    rw [hcodes, ← blockerCodes_eq_nil_iff]
    cases blockerCodes (exportGates request) with
    | nil => simp
    | cons code codes => simp [List.eraseDups_cons]
  refine ⟨?_, ?_, fun hblocked => ?_, fun hready => ?_⟩
  · rw [hgates, ← hnone]
    by_cases hempty : (evaluateExportGates request).2 = []
    · simp [exportPackage, hempty]
    · simp [exportPackage, hempty]
  · rw [hgates]
    exact codes_eq request
  · by_cases hempty : (evaluateExportGates request).2 = []
    · simp [exportPackage, hempty] at hblocked
    · simp [exportPackage, hempty, resolveArtifacts]
  · have hempty : (evaluateExportGates request).2 = [] := by
      by_contra hempty
      simp [exportPackage, hempty] at hready
    have hartifacts : (exportPackage request).artifacts = uniqueByUri [] (supplied request) := by
      simp [exportPackage, hempty, resolveArtifacts, supplied]
    have hall :
        ((supplied request).map ArtifactRef.uri).filter (fun uri => uri ∉ ([] : List S3Uri)) =
        (supplied request).map ArtifactRef.uri := List.filter_eq_self.mpr fun _ _ => by simp
    rw [hartifacts, map_uri_uniqueByUri, hall]
    exact ⟨uniqueByUri_sublist [] _, rfl⟩

end Package

end DataForge.Kernel.ExportReadiness
