import DataForge.Domain.Artifact
import DataForge.Foundation.Json

namespace DataForge.Kernel.Idempotency

open DataForge.Foundation.Strings
open DataForge.Foundation.Sha256
open DataForge.Foundation.Dictionary
open DataForge.Foundation.Canonical
open DataForge.Foundation.Json
open DataForge.Domain.Common
open DataForge.Domain.Artifact

structure PluginVersionFootprint where
  pluginId : NonEmptyStr
  pluginVersion : NonEmptyStr
  algorithmName : NonEmptyStr
  algorithmVersion : NonEmptyStr
deriving DecidableEq

/-- A mapping of texts, with one item for each key. -/
abbrev TextMapping := { d : Dict Text Text // (d.map Prod.fst).Nodup }

structure AnalyzeIdempotencyInputs where
  organizationId : NonEmptyStr
  projectId : NonEmptyStr
  datasetId : NonEmptyStr
  datasetVersionId : NonEmptyStr
  inputArtifactHashes : List Sha256Digest
  predictionArtifactHashes : List Sha256Digest
  configHash : Sha256Digest
  contractPackVersion : NonEmptyStr
  pluginVersions : List PluginVersionFootprint

structure ApplyIdempotencyInputs where
  organizationId : NonEmptyStr
  projectId : NonEmptyStr
  datasetId : NonEmptyStr
  sourceDatasetVersionId : NonEmptyStr
  proposedVersionName : NonEmptyStr
  actionPlanHash : Sha256Digest
  inputArtifactHashes : List Sha256Digest
  predictionArtifactHashes : List Sha256Digest
  configHash : Sha256Digest
  contractPackVersion : NonEmptyStr
  policyVersions : TextMapping
  stepIdempotencyKeys : List Sha256Digest
  pluginVersions : List PluginVersionFootprint

def sortedUnique (values : List Text) : List Text := sortedSet (values.filter (· ≠ []))

def orderedDict (mapping : Dict Text Text) : Dict Text Text :=
  ((mapping.map Prod.fst).insertionSort (· ≤ ·)).map fun k => (k, (get? k mapping).getD [])

/-- The four fields in the order in which the sort compares them. -/
def PluginVersionFootprint.sortKey (f : PluginVersionFootprint) : List Text :=
  [f.pluginId.1, f.algorithmName.1, f.pluginVersion.1, f.algorithmVersion.1]

def textObject (items : Dict Text Text) : Value :=
  .obj (items.map fun item => (item.1, .str item.2))

def PluginVersionFootprint.items (f : PluginVersionFootprint) : Dict Text Text :=
  [("plugin_id".toList, f.pluginId.1), ("plugin_version".toList, f.pluginVersion.1),
    ("algorithm_name".toList, f.algorithmName.1),
    ("algorithm_version".toList, f.algorithmVersion.1)]

def normalizePluginVersions (versions : List PluginVersionFootprint) : List Value :=
  (versions.insertionSort fun f g => f.sortKey ≤ g.sortKey).map fun f =>
    textObject f.items

def AnalyzeIdempotencyInputs.scope (inputs : AnalyzeIdempotencyInputs) : Dict Text Text :=
  [("organization_id".toList, inputs.organizationId.1), ("project_id".toList, inputs.projectId.1),
    ("dataset_id".toList, inputs.datasetId.1),
    ("dataset_version_id".toList, inputs.datasetVersionId.1)]

def AnalyzeIdempotencyInputs.payload (inputs : AnalyzeIdempotencyInputs) : List (Text × Value) :=
  [("workflow".toList, .str "ANALYZE_ONLY".toList),
    ("scope".toList, textObject inputs.scope),
    ("input_artifact_hashes".toList,
      texts (sortedUnique (inputs.inputArtifactHashes.map Subtype.val))),
    ("prediction_artifact_hashes".toList,
      texts (sortedUnique (inputs.predictionArtifactHashes.map Subtype.val))),
    ("config_hash".toList, .str inputs.configHash.1),
    ("contract_pack_version".toList, .str inputs.contractPackVersion.1),
    ("plugin_versions".toList, .arr (normalizePluginVersions inputs.pluginVersions))]

def ApplyIdempotencyInputs.scope (inputs : ApplyIdempotencyInputs) : Dict Text Text :=
  [("organization_id".toList, inputs.organizationId.1), ("project_id".toList, inputs.projectId.1),
    ("dataset_id".toList, inputs.datasetId.1),
    ("source_dataset_version_id".toList, inputs.sourceDatasetVersionId.1),
    ("proposed_version_name".toList, inputs.proposedVersionName.1)]

def ApplyIdempotencyInputs.payload (inputs : ApplyIdempotencyInputs) : List (Text × Value) :=
  [("workflow".toList, .str "APPLY_SELECTED_ACTIONS".toList),
    ("scope".toList, textObject inputs.scope),
    ("action_plan_hash".toList, .str inputs.actionPlanHash.1),
    ("input_artifact_hashes".toList,
      texts (sortedUnique (inputs.inputArtifactHashes.map Subtype.val))),
    ("prediction_artifact_hashes".toList,
      texts (sortedUnique (inputs.predictionArtifactHashes.map Subtype.val))),
    ("config_hash".toList, .str inputs.configHash.1),
    ("contract_pack_version".toList, .str inputs.contractPackVersion.1),
    ("policy_versions".toList, textObject (orderedDict inputs.policyVersions.1)),
    ("step_idempotency_keys".toList, texts (inputs.stepIdempotencyKeys.map Subtype.val)),
    ("plugin_versions".toList, .arr (normalizePluginVersions inputs.pluginVersions))]

/-- No digest is empty, so that the sort drops repetitions alone. -/
def collectArtifactHashes (refs : List ArtifactRef) : List Sha256Digest :=
  sortedSet (refs.map ArtifactRef.hash)

/-- The bytes that `_digest` hashes. -/
def encoded (payload : List (Text × Value)) : Bytes := encodeUtf8 (dumps (.obj payload))

def digest (payload : List (Text × Value)) : Sha256Digest := sha256Digest (encoded payload)

def computeAnalyzeIdempotencyKey (inputs : AnalyzeIdempotencyInputs) : Sha256Digest :=
  digest inputs.payload

def computeApplyIdempotencyKey (inputs : ApplyIdempotencyInputs) : Sha256Digest :=
  digest inputs.payload

/-- Moving a hash takes it out of one channel and puts it into the other. -/
def AnalyzeIdempotencyInputs.toPredictions (a : AnalyzeIdempotencyInputs) (h : Sha256Digest) :
    AnalyzeIdempotencyInputs :=
  { a with
    inputArtifactHashes := a.inputArtifactHashes.filter (· ≠ h)
    predictionArtifactHashes := a.predictionArtifactHashes ++ [h] }

def AnalyzeIdempotencyInputs.toInputs (a : AnalyzeIdempotencyInputs) (h : Sha256Digest) :
    AnalyzeIdempotencyInputs :=
  { a with
    inputArtifactHashes := a.inputArtifactHashes ++ [h]
    predictionArtifactHashes := a.predictionArtifactHashes.filter (· ≠ h) }

def ApplyIdempotencyInputs.toPredictions (a : ApplyIdempotencyInputs) (h : Sha256Digest) :
    ApplyIdempotencyInputs :=
  { a with
    inputArtifactHashes := a.inputArtifactHashes.filter (· ≠ h)
    predictionArtifactHashes := a.predictionArtifactHashes ++ [h] }

def ApplyIdempotencyInputs.toInputs (a : ApplyIdempotencyInputs) (h : Sha256Digest) :
    ApplyIdempotencyInputs :=
  { a with
    inputArtifactHashes := a.inputArtifactHashes ++ [h]
    predictionArtifactHashes := a.predictionArtifactHashes.filter (· ≠ h) }

theorem collectArtifactHashes_perm {refs refs' : List ArtifactRef} (h : refs'.Perm refs) :
    collectArtifactHashes refs' = collectArtifactHashes refs :=
  sortedSet_eq_iff.mpr fun _ => (h.map ArtifactRef.hash).mem_iff

theorem digest_ne_nil (h : Sha256Digest) : h.1 ≠ [] := by
  obtain ⟨_, hex, rfl, -⟩ := h
  exact List.append_ne_nil_of_left_ne_nil (by decide) _

/-- Two hash channels are written alike exactly when they hold the same set. -/
theorem sortedUnique_eq_iff {xs ys : List Sha256Digest} :
    sortedUnique (xs.map Subtype.val) = sortedUnique (ys.map Subtype.val) ↔
      ∀ h, h ∈ xs ↔ h ∈ ys := by
  rw [sortedUnique, sortedUnique, sortedSet_eq_iff]
  constructor
  · intro h x
    simpa [digest_ne_nil, x.2] using h x.1
  · intro h x
    simp only [List.mem_filter, List.mem_map, Subtype.exists]
    constructor
    · rintro ⟨⟨y, hy, hm, rfl⟩, hn⟩
      exact ⟨⟨y, hy, (h _).mp hm, rfl⟩, hn⟩
    · rintro ⟨⟨y, hy, hm, rfl⟩, hn⟩
      exact ⟨⟨y, hy, (h _).mpr hm, rfl⟩, hn⟩

theorem keys_orderedDict (mapping : Dict Text Text) :
    (orderedDict mapping).map Prod.fst = (mapping.map Prod.fst).insertionSort (· ≤ ·) := by
  simp [orderedDict, Function.comp_def]

theorem nodup_keys_orderedDict (mapping : TextMapping) :
    ((orderedDict mapping.1).map Prod.fst).Nodup := by
  rw [keys_orderedDict, (List.perm_insertionSort _ _).nodup_iff]
  exact mapping.2

theorem get?_orderedDict (mapping : TextMapping) (k : Text) :
    get? k (orderedDict mapping.1) = get? k mapping.1 := by
  cases hk : get? k mapping.1 with
  | none =>
    rw [get?_eq_none] at hk ⊢
    rwa [keys_orderedDict, (List.perm_insertionSort _ _).mem_iff]
  | some v =>
    refine get?_of_mem (nodup_keys_orderedDict mapping) (List.mem_map.mpr ⟨k, ?_, by simp [hk]⟩)
    rw [(List.perm_insertionSort _ _).mem_iff]
    exact List.mem_map_of_mem (mem_of_get? hk)

/-- Two mappings are written alike exactly when they are equal as mappings. -/
theorem orderedDict_eq_iff {m n : TextMapping} :
    orderedDict m.1 = orderedDict n.1 ↔ ∀ k, get? k m.1 = get? k n.1 := by
  constructor
  · intro h k
    rw [← get?_orderedDict, ← get?_orderedDict, h]
  · intro h
    have hkeys : (m.1.map Prod.fst).Perm (n.1.map Prod.fst) :=
      (List.perm_ext_iff_of_nodup m.2 n.2).mpr fun k => by
        rw [← not_iff_not, ← get?_eq_none, ← get?_eq_none, h k]
    rw [orderedDict, orderedDict, insertionSort_eq_iff.mpr hkeys]
    simp [h]

theorem sortKey_injective {f g : PluginVersionFootprint} (h : f.sortKey = g.sortKey) : f = g := by
  cases f
  cases g
  simp_all [PluginVersionFootprint.sortKey, Subtype.ext_iff]

end DataForge.Kernel.Idempotency
