import DataForge.Kernel.Idempotency

namespace DataForge.Kernel.IdempotencyKeys

open DataForge.Foundation.Strings
open DataForge.Foundation.Sha256
open DataForge.Foundation.Dictionary
open DataForge.Foundation.Canonical
open DataForge.Foundation.Json
open DataForge.Domain.Common
open DataForge.Kernel.Idempotency

/-- The two inputs name the same analyze job. -/
structure SameAnalyze (a b : AnalyzeIdempotencyInputs) : Prop where
  organization : a.organizationId = b.organizationId
  project : a.projectId = b.projectId
  dataset : a.datasetId = b.datasetId
  version : a.datasetVersionId = b.datasetVersionId
  config : a.configHash = b.configHash
  contractPack : a.contractPackVersion = b.contractPackVersion
  inputs : ∀ h, h ∈ a.inputArtifactHashes ↔ h ∈ b.inputArtifactHashes
  predictions : ∀ h, h ∈ a.predictionArtifactHashes ↔ h ∈ b.predictionArtifactHashes
  plugins : a.pluginVersions.Perm b.pluginVersions

/-- The two inputs name the same apply job. -/
structure SameApply (a b : ApplyIdempotencyInputs) : Prop where
  organization : a.organizationId = b.organizationId
  project : a.projectId = b.projectId
  dataset : a.datasetId = b.datasetId
  version : a.sourceDatasetVersionId = b.sourceDatasetVersionId
  proposedName : a.proposedVersionName = b.proposedVersionName
  plan : a.actionPlanHash = b.actionPlanHash
  config : a.configHash = b.configHash
  contractPack : a.contractPackVersion = b.contractPackVersion
  inputs : ∀ h, h ∈ a.inputArtifactHashes ↔ h ∈ b.inputArtifactHashes
  predictions : ∀ h, h ∈ a.predictionArtifactHashes ↔ h ∈ b.predictionArtifactHashes
  policies : ∀ k, get? k a.policyVersions.1 = get? k b.policyVersions.1
  steps : a.stepIdempotencyKeys = b.stepIdempotencyKeys
  plugins : a.pluginVersions.Perm b.pluginVersions

section Values

theorem get?_textObject {d e : Dict Text Text} (hd : (d.map Prod.fst).Nodup)
    (h : sortKeys (textObject d) = sortKeys (textObject e)) (k : Text) : get? k d = get? k e := by
  have hmap : ∀ d : Dict Text Text,
      get? k (d.map fun item => (item.1, Value.str item.2)) = (get? k d).map .str := by
    intro d
    induction d with
    | nil => rfl
    | cons item d ih =>
      by_cases hk : item.1 = k <;> simp [get?, hk, ih]
  have hget := get?_of_sortKeys_eq _ (by simpa [Function.comp_def] using hd) h k
  rw [hmap, hmap] at hget
  cases hx : get? k d <;> cases hy : get? k e <;> simp_all [sortKeys]

theorem items_injective {f g : PluginVersionFootprint}
    (h : sortKeys (textObject f.items) = sortKeys (textObject g.items)) : f = g := by
  have hnodup : ["plugin_id".toList, "plugin_version".toList, "algorithm_name".toList,
      "algorithm_version".toList].Nodup := by decide
  have hget := get?_textObject (d := f.items) hnodup h
  have hid : some f.pluginId.1 = some g.pluginId.1 := hget "plugin_id".toList
  have hversion : some f.pluginVersion.1 = some g.pluginVersion.1 := hget "plugin_version".toList
  have hname : some f.algorithmName.1 = some g.algorithmName.1 := hget "algorithm_name".toList
  have halg : some f.algorithmVersion.1 = some g.algorithmVersion.1 :=
    hget "algorithm_version".toList
  cases f
  cases g
  simp_all [Subtype.ext_iff]

theorem sortedFootprints_eq_iff {fs gs : List PluginVersionFootprint} :
    fs.insertionSort (fun f g => f.sortKey ≤ g.sortKey) =
      gs.insertionSort (fun f g => f.sortKey ≤ g.sortKey) ↔ fs.Perm gs := by
  let le : PluginVersionFootprint → PluginVersionFootprint → Prop :=
    fun f g => f.sortKey ≤ g.sortKey
  have : Std.Total le := ⟨fun f g => le_total f.sortKey g.sortKey⟩
  have : IsTrans PluginVersionFootprint le := ⟨fun _ _ _ => le_trans⟩
  have : Std.Antisymm le := ⟨fun _ _ hfg hgf => sortKey_injective (le_antisymm hfg hgf)⟩
  exact insertionSort_eq_iff (r := le)

theorem normalizePluginVersions_of_perm {fs gs : List PluginVersionFootprint} (h : fs.Perm gs) :
    normalizePluginVersions fs = normalizePluginVersions gs := by
  rw [normalizePluginVersions, normalizePluginVersions, sortedFootprints_eq_iff.mpr h]

/-- Two footprint lists that are written alike are the same multiset. -/
theorem footprints_member {fs gs : List PluginVersionFootprint}
    (h : some (sortKeys (.arr (normalizePluginVersions fs))) =
      some (sortKeys (.arr (normalizePluginVersions gs)))) : fs.Perm gs := by
  have hentries : (normalizePluginVersions fs).map sortKeys =
      (normalizePluginVersions gs).map sortKeys := by
    simpa [sortKeys, sortKeysItems_eq_map] using h
  rw [normalizePluginVersions, normalizePluginVersions, List.map_map, List.map_map] at hentries
  have hinj :
      Function.Injective (sortKeys ∘ fun f : PluginVersionFootprint => textObject f.items) :=
    fun f g => items_injective
  exact sortedFootprints_eq_iff.mp (hinj.list_map hentries)

end Values

theorem encoded_eq_iff {p q : List (Text × Value)} :
    encoded p = encoded q ↔ sortKeys (.obj p) = sortKeys (.obj q) :=
  ⟨fun h => dumps_eq_iff.mp (encodeUtf8_injective h),
    fun h => congrArg encodeUtf8 (dumps_eq_iff.mpr h)⟩

/-- Two inputs name the same analyze job exactly when their payloads have one
canonical text. -/
theorem analyze_payload_iff {a b : AnalyzeIdempotencyInputs} :
    sortKeys (.obj a.payload) = sortKeys (.obj b.payload) ↔ SameAnalyze a b := by
  constructor
  · intro h
    have hnodup : ["workflow".toList, "scope".toList, "input_artifact_hashes".toList,
        "prediction_artifact_hashes".toList, "config_hash".toList, "contract_pack_version".toList,
        "plugin_versions".toList].Nodup := by decide
    have hscopeNodup : ["organization_id".toList, "project_id".toList, "dataset_id".toList,
        "dataset_version_id".toList].Nodup := by decide
    have hget := get?_of_sortKeys_eq a.payload hnodup h
    have hscope : some (sortKeys (textObject a.scope)) = some (sortKeys (textObject b.scope)) :=
      hget "scope".toList
    have hids := get?_textObject (d := a.scope) hscopeNodup (Option.some.inj hscope)
    exact
      { organization := Subtype.ext (Option.some.inj (hids "organization_id".toList))
        project := Subtype.ext (Option.some.inj (hids "project_id".toList))
        dataset := Subtype.ext (Option.some.inj (hids "dataset_id".toList))
        version := Subtype.ext (Option.some.inj (hids "dataset_version_id".toList))
        config := Subtype.ext (str_member (hget "config_hash".toList))
        contractPack := Subtype.ext (str_member (hget "contract_pack_version".toList))
        inputs := sortedUnique_eq_iff.mp (texts_member (hget "input_artifact_hashes".toList))
        predictions :=
          sortedUnique_eq_iff.mp (texts_member (hget "prediction_artifact_hashes".toList))
        plugins := footprints_member (hget "plugin_versions".toList) }
  · intro h
    have hscope : a.scope = b.scope := by
      simp only [AnalyzeIdempotencyInputs.scope, h.organization, h.project, h.dataset, h.version]
    have hpayload : a.payload = b.payload := by
      rw [AnalyzeIdempotencyInputs.payload, AnalyzeIdempotencyInputs.payload, hscope, h.config,
        h.contractPack, sortedUnique_eq_iff.mpr h.inputs, sortedUnique_eq_iff.mpr h.predictions,
        normalizePluginVersions_of_perm h.plugins]
    rw [hpayload]

theorem apply_payload_iff {a b : ApplyIdempotencyInputs} :
    sortKeys (.obj a.payload) = sortKeys (.obj b.payload) ↔ SameApply a b := by
  constructor
  · intro h
    have hnodup : ["workflow".toList, "scope".toList, "action_plan_hash".toList,
        "input_artifact_hashes".toList, "prediction_artifact_hashes".toList, "config_hash".toList,
        "contract_pack_version".toList, "policy_versions".toList, "step_idempotency_keys".toList,
        "plugin_versions".toList].Nodup := by decide
    have hscopeNodup : ["organization_id".toList, "project_id".toList, "dataset_id".toList,
        "source_dataset_version_id".toList, "proposed_version_name".toList].Nodup := by decide
    have hget := get?_of_sortKeys_eq a.payload hnodup h
    have hscope : some (sortKeys (textObject a.scope)) = some (sortKeys (textObject b.scope)) :=
      hget "scope".toList
    have hids := get?_textObject (d := a.scope) hscopeNodup (Option.some.inj hscope)
    have hpolicies : some (sortKeys (textObject (orderedDict a.policyVersions.1))) =
        some (sortKeys (textObject (orderedDict b.policyVersions.1))) :=
      hget "policy_versions".toList
    have hmapping := get?_textObject (nodup_keys_orderedDict _) (Option.some.inj hpolicies)
    have hsteps := texts_member (hget "step_idempotency_keys".toList)
    exact
      { organization := Subtype.ext (Option.some.inj (hids "organization_id".toList))
        project := Subtype.ext (Option.some.inj (hids "project_id".toList))
        dataset := Subtype.ext (Option.some.inj (hids "dataset_id".toList))
        version := Subtype.ext (Option.some.inj (hids "source_dataset_version_id".toList))
        proposedName := Subtype.ext (Option.some.inj (hids "proposed_version_name".toList))
        plan := Subtype.ext (str_member (hget "action_plan_hash".toList))
        config := Subtype.ext (str_member (hget "config_hash".toList))
        contractPack := Subtype.ext (str_member (hget "contract_pack_version".toList))
        inputs := sortedUnique_eq_iff.mp (texts_member (hget "input_artifact_hashes".toList))
        predictions :=
          sortedUnique_eq_iff.mp (texts_member (hget "prediction_artifact_hashes".toList))
        policies := fun k => by rw [← get?_orderedDict, hmapping, get?_orderedDict]
        steps := Subtype.val_injective.list_map hsteps
        plugins := footprints_member (hget "plugin_versions".toList) }
  · intro h
    have hscope : a.scope = b.scope := by
      simp only [ApplyIdempotencyInputs.scope, h.organization, h.project, h.dataset, h.version,
        h.proposedName]
    have hpayload : a.payload = b.payload := by
      rw [ApplyIdempotencyInputs.payload, ApplyIdempotencyInputs.payload, hscope, h.plan, h.config,
        h.contractPack, h.steps, sortedUnique_eq_iff.mpr h.inputs,
        sortedUnique_eq_iff.mpr h.predictions, orderedDict_eq_iff.mpr h.policies,
        normalizePluginVersions_of_perm h.plugins]
    rw [hpayload]

theorem analyze_payload_ne_apply (a : AnalyzeIdempotencyInputs) (b : ApplyIdempotencyInputs) :
    sortKeys (.obj a.payload) ≠ sortKeys (.obj b.payload) := by
  intro h
  have hnodup : ["workflow".toList, "scope".toList, "input_artifact_hashes".toList,
      "prediction_artifact_hashes".toList, "config_hash".toList, "contract_pack_version".toList,
      "plugin_versions".toList].Nodup := by decide
  have hget := get?_of_sortKeys_eq a.payload hnodup h
  have hworkflow : "ANALYZE_ONLY".toList = "APPLY_SELECTED_ACTIONS".toList :=
    str_member (hget "workflow".toList)
  exact absurd hworkflow (by decide)

section Keys

variable {inPlay : Bytes → Prop}
  (hsha : ∀ x y, inPlay x → inPlay y → sha256 x = sha256 y → x = y)

include hsha

theorem digest_eq_iff {p q : List (Text × Value)} (hp : inPlay (encoded p))
    (hq : inPlay (encoded q)) : digest p = digest q ↔ sortKeys (.obj p) = sortKeys (.obj q) := by
  rw [← encoded_eq_iff]
  constructor
  · intro h
    exact hsha _ _ hp hq (congrArg Subtype.val h)
  · intro h
    rw [digest, digest, h]

/-- Where the digest has no collision among the payloads in play, the two keys are
canonical: they forget the order and the duplication of hashes, the order of the
footprints and of the policies, and nothing else. -/
theorem idempotency_keys_canonical :
    (∀ a b : AnalyzeIdempotencyInputs, inPlay (encoded a.payload) → inPlay (encoded b.payload) →
      (computeAnalyzeIdempotencyKey a = computeAnalyzeIdempotencyKey b ↔ SameAnalyze a b)) ∧
    (∀ a b : ApplyIdempotencyInputs, inPlay (encoded a.payload) → inPlay (encoded b.payload) →
      (computeApplyIdempotencyKey a = computeApplyIdempotencyKey b ↔ SameApply a b)) ∧
    (∀ (a : AnalyzeIdempotencyInputs) (b : ApplyIdempotencyInputs), inPlay (encoded a.payload) →
      inPlay (encoded b.payload) → computeAnalyzeIdempotencyKey a ≠ computeApplyIdempotencyKey b) ∧
    (∀ (a : AnalyzeIdempotencyInputs) (h : Sha256Digest), inPlay (encoded a.payload) →
      (h ∈ a.inputArtifactHashes → inPlay (encoded (a.toPredictions h).payload) →
        computeAnalyzeIdempotencyKey (a.toPredictions h) ≠ computeAnalyzeIdempotencyKey a) ∧
      (h ∈ a.predictionArtifactHashes → inPlay (encoded (a.toInputs h).payload) →
        computeAnalyzeIdempotencyKey (a.toInputs h) ≠ computeAnalyzeIdempotencyKey a)) ∧
    (∀ (a : ApplyIdempotencyInputs) (h : Sha256Digest), inPlay (encoded a.payload) →
      (h ∈ a.inputArtifactHashes → inPlay (encoded (a.toPredictions h).payload) →
        computeApplyIdempotencyKey (a.toPredictions h) ≠ computeApplyIdempotencyKey a) ∧
      (h ∈ a.predictionArtifactHashes → inPlay (encoded (a.toInputs h).payload) →
        computeApplyIdempotencyKey (a.toInputs h) ≠ computeApplyIdempotencyKey a)) := by
  refine ⟨?_, ?_, ?_, ?_, ?_⟩
  · intro a b ha hb
    exact (digest_eq_iff hsha ha hb).trans analyze_payload_iff
  · intro a b ha hb
    exact (digest_eq_iff hsha ha hb).trans apply_payload_iff
  · intro a b ha hb h
    exact analyze_payload_ne_apply a b ((digest_eq_iff hsha ha hb).mp h)
  · intro a h ha
    constructor
    · intro hmem hmoved heq
      have hsame := analyze_payload_iff.mp ((digest_eq_iff hsha hmoved ha).mp heq)
      simpa [AnalyzeIdempotencyInputs.toPredictions] using (hsame.inputs h).mpr hmem
    · intro hmem hmoved heq
      have hsame := analyze_payload_iff.mp ((digest_eq_iff hsha hmoved ha).mp heq)
      simpa [AnalyzeIdempotencyInputs.toInputs] using (hsame.predictions h).mpr hmem
  · intro a h ha
    constructor
    · intro hmem hmoved heq
      have hsame := apply_payload_iff.mp ((digest_eq_iff hsha hmoved ha).mp heq)
      simpa [ApplyIdempotencyInputs.toPredictions] using (hsame.inputs h).mpr hmem
    · intro hmem hmoved heq
      have hsame := apply_payload_iff.mp ((digest_eq_iff hsha hmoved ha).mp heq)
      simpa [ApplyIdempotencyInputs.toInputs] using (hsame.predictions h).mpr hmem

end Keys

def exampleDigest (data : String) : Sha256Digest := sha256Digest data.toUTF8

def exampleInputs (hashes : List Sha256Digest) : AnalyzeIdempotencyInputs where
  organizationId := ⟨"o".toList, by decide⟩
  projectId := ⟨"p".toList, by decide⟩
  datasetId := ⟨"d".toList, by decide⟩
  datasetVersionId := ⟨"v".toList, by decide⟩
  inputArtifactHashes := hashes
  predictionArtifactHashes := []
  configHash := exampleDigest "config"
  contractPackVersion := ⟨"1".toList, by decide⟩
  pluginVersions := []

/-- Order and duplicates of the input hashes do not matter. -/
theorem idempotency_keys_permuted :
    computeAnalyzeIdempotencyKey (exampleInputs [exampleDigest "x", exampleDigest "y"]) =
      computeAnalyzeIdempotencyKey
        (exampleInputs [exampleDigest "y", exampleDigest "x", exampleDigest "y"]) := by
  have hsame : SameAnalyze (exampleInputs [exampleDigest "x", exampleDigest "y"])
      (exampleInputs [exampleDigest "y", exampleDigest "x", exampleDigest "y"]) :=
    ⟨rfl, rfl, rfl, rfl, rfl, rfl, fun h => by
      simp only [exampleInputs, List.mem_cons, List.not_mem_nil, or_false]
      tauto, fun _ => Iff.rfl, .refl _⟩
  have hencoded := encoded_eq_iff.mpr (analyze_payload_iff.mpr hsame)
  have hsha (x y : Bytes)
      (hx : x = encoded (exampleInputs [exampleDigest "x", exampleDigest "y"]).payload)
      (hy : y = encoded (exampleInputs [exampleDigest "x", exampleDigest "y"]).payload)
      (_ : sha256 x = sha256 y) : x = y := hx.trans hy.symm
  exact ((idempotency_keys_canonical hsha).1 _ _ rfl hencoded.symm).mpr hsame

end DataForge.Kernel.IdempotencyKeys
