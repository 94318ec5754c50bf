import DataForge.Foundation.Runs
import DataForge.Foundation.Triples
import DataForge.Orchestration.AnalyzeOutputs
import DataForge.Orchestration.ApplySource

namespace DataForge.Orchestration.AnalysisMode

open DataForge.Foundation.Strings
open DataForge.Foundation.Sha256
open DataForge.Foundation.Outcome
open DataForge.Foundation.Dictionary
open DataForge.Foundation.Runs
open DataForge.Foundation.Triples
open DataForge.Domain.Common
open DataForge.Adapters.ArtifactRegistry
open DataForge.Orchestration.AnalyzeRuns (AnalyzeAsset)
open DataForge.Orchestration.AnalyzeOutputs

section Property

variable {σ : Type}

def IsReal (artifact : RegisteredArtifact) : Prop :=
  ¬ referenceOnlySuffix <:+ artifact.schemaVersion.1

def RealAsset (s : AnalyzeExecutionState) (asset : AnalyzeAsset) : Prop :=
  ∃ artifact, get? asset.name s.artifacts = some artifact ∧ IsReal artifact

def ReferenceAsset (s : AnalyzeExecutionState) (asset : AnalyzeAsset) : Prop :=
  ∃ artifact, get? asset.name s.artifacts = some artifact ∧
    artifact.schemaVersion.1 = asset.name ++ referenceOnlySuffix

/-- The outputs are those of an analysis, and nothing says otherwise. -/
structure RealMode (expected : List AnalyzeAsset) (s : AnalyzeExecutionState)
    (counts : AnalysisCounts) : Prop where
  artifacts : ∀ asset ∈ expected, RealAsset s asset
  mode : get? analysisMode s.statuses = none
  rows : get? manifestRowCount s.counts = some counts.manifestRows
  queued : get? reviewQueueSize s.counts = some counts.reviewQueueSize

/-- The outputs are references, said to be such, and nothing was counted. -/
structure ReferenceMode (expected : List AnalyzeAsset) (s : AnalyzeExecutionState) : Prop where
  artifacts : ∀ asset ∈ expected, ReferenceAsset s asset
  mode : get? analysisMode s.statuses = some "reference_only".toList
  counts : s.counts = []

/-- References only stand where an input object could not be read. -/
def Truthful (expected : List AnalyzeAsset) (w : World σ) : Prop :=
  (∃ counts, w.analysed = some counts ∧ RealMode expected w.state counts) ∨
    w.analysed = none ∧ ReferenceMode expected w.state ∧ w.atInput = true

end Property

section Progress

variable {σ L : Type} {stages : AnalyzeStages σ L} {statuses : Dict Text Text}
  {done : List AnalyzeAsset} {rows : Option Nat}

/-- How far the analysis has come: the assets recorded, and the rows once counted. -/
structure Progress (statuses : Dict Text Text) (done : List AnalyzeAsset) (rows : Option Nat)
    (w : World σ) : Prop where
  statuses : w.state.statuses = statuses
  real : ∀ asset ∈ done, RealAsset w.state asset
  rows : ∀ n ∈ rows, get? manifestRowCount w.state.counts = some n
  atInput : w.atInput = false
  built : w.state.built = false

/-- What a failed analysis leaves: it fails at an input only with its rows counted. -/
structure Failed (statuses : Dict Text Text) (w : World σ) : Prop where
  statuses : w.state.statuses = statuses
  counted : w.atInput = true → w.state.counts ≠ []
  built : w.state.built = false

theorem Progress.failed {w : World σ} (h : Progress statuses done rows w) : Failed statuses w :=
  ⟨h.statuses, fun hinput => (by rw [h.atInput] at hinput; cases hinput), h.built⟩

theorem triple_onStore {α : Type} (m : Effect Raised σ α) :
    Triple (Progress statuses done rows) (onStore m) (fun _ => Progress statuses done rows)
      (Failed statuses) := by
  intro w hw
  have hkept : Progress statuses done rows { w with store := (m.run w.store).2 } :=
    ⟨hw.statuses, hw.real, hw.rows, hw.atInput, hw.built⟩
  constructor
  · rintro a t hrun
    obtain ⟨-, rfl⟩ := Prod.mk.inj hrun
    exact hkept
  · rintro e t hrun
    obtain ⟨-, rfl⟩ := Prod.mk.inj hrun
    exact hkept.failed

/-- Once the rows are counted, an input that cannot be read leaves them counted. -/
theorem triple_readInput {α : Type} {n : Nat} (m : Effect Raised σ α) :
    Triple (Progress statuses done (some n)) (readInput m)
      (fun _ => Progress statuses done (some n))
      (Failed statuses) := by
  intro w hw
  have hcounted : w.state.counts ≠ [] := by
    rintro hnil
    have hrows := hw.rows n rfl
    rw [hnil] at hrows
    cases hrows
  constructor
  · rintro a t hrun
    obtain ⟨_, u, hfirst, hrun⟩ := Effect.run_bind_eq_ok.mp hrun
    obtain ⟨-, rfl⟩ := Prod.mk.inj hfirst
    obtain ⟨_, u, hsecond, hrun⟩ := Effect.run_bind_eq_ok.mp hrun
    obtain ⟨-, rfl⟩ := Prod.mk.inj hsecond
    obtain ⟨-, rfl⟩ := Prod.mk.inj hrun
    exact ⟨hw.statuses, hw.real, hw.rows, rfl, hw.built⟩
  · rintro e t hrun
    obtain ⟨_, hfirst, -⟩ | ⟨_, u, hfirst, hrun⟩ := Effect.run_bind_cases hrun
    · cases (Prod.mk.inj hfirst).1
    · obtain ⟨-, rfl⟩ := Prod.mk.inj hfirst
      obtain ⟨_, hsecond, -⟩ | ⟨_, u, hsecond, hrun⟩ := Effect.run_bind_cases hrun
      · obtain ⟨-, rfl⟩ := Prod.mk.inj hsecond
        exact ⟨hw.statuses, fun _ => hcounted, hw.built⟩
      · cases (Prod.mk.inj hrun).1

theorem realAsset_record {w : World σ} {artifact : RegisteredArtifact} (hreal : IsReal artifact)
    {asset other : AnalyzeAsset} (h : other = asset ∨ RealAsset w.state other) :
    RealAsset { w.state with artifacts := set asset.name artifact w.state.artifacts } other := by
  by_cases hname : asset.name = other.name
  · refine ⟨artifact, ?_, hreal⟩
    rw [← hname]
    exact get?_set_self _ _ _
  · obtain rfl | ⟨found, hfound, hisReal⟩ := h
    · exact absurd rfl hname
    · exact ⟨found, (get?_set_ne hname _ _).trans hfound, hisReal⟩

theorem triple_record {asset : AnalyzeAsset} {artifact : RegisteredArtifact}
    (hreal : IsReal artifact) :
    Triple (Progress statuses done rows) (record asset artifact : Effect Raised (World σ) Unit)
      (fun _ => Progress statuses (asset :: done) rows) (Failed statuses) := by
  refine triple_modify fun w hw =>
    ⟨hw.statuses, fun other hother => ?_, hw.rows, hw.atInput, hw.built⟩
  exact realAsset_record hreal ((List.mem_cons.mp hother).imp_right (hw.real other))

/-- The kinds of artifacts that an analysis saves. -/
def analysisSpecs : List ArtifactSpec :=
  [assetManifest, validatedManifest, predictionManifest, predictionValidation, modelErrorReport,
    ambiguousCandidates, probableLabelErrorCandidates, profileReport, redactedJsonl,
    objectAnalytics, evidenceBundle, decisionReport, methodRecommendations, safePreview,
    reviewQueue]

theorem analysisSpecs_real {spec : ArtifactSpec} (h : spec ∈ analysisSpecs) :
    ¬ referenceOnlySuffix <:+ strip spec.schemaVersion := by
  revert spec
  decide

theorem triple_saveData {spec : ArtifactSpec} (hspec : spec ∈ analysisSpecs) (data : Bytes)
    (metadata : Dict Text Text) :
    Triple (Progress statuses done rows) (saveData stages spec data metadata)
      (fun artifact w => Progress statuses done rows w ∧ IsReal artifact) (Failed statuses) := by
  intro w hw
  obtain ⟨hok, herror⟩ := triple_onStore
    (stages.registry.saveArtifact (saveRequest stages.ids spec data metadata)) w hw
  refine ⟨fun artifact t hrun => ⟨hok artifact t hrun, ?_⟩, herror⟩
  have hsaved :
      (stages.registry.saveArtifact (saveRequest stages.ids spec data metadata)).run w.store =
      (.ok artifact, ((stages.registry.saveArtifact (saveRequest stages.ids spec data metadata)).run
        w.store).2) := Prod.ext (Prod.mk.inj hrun).1 rfl
  rw [IsReal, stages.registry.schema hsaved]
  exact analysisSpecs_real hspec

theorem triple_save {spec : ArtifactSpec} (hspec : spec ∈ analysisSpecs) (l : L) :
    Triple (Progress statuses done rows) (save stages spec l)
      (fun r w => Progress statuses done rows w ∧ IsReal r.1) (Failed statuses) := by
  refine triple_bind (triple_lift fun w hw => hw.failed) fun ⟨data, metadata, l'⟩ => ?_
  refine triple_bind ((triple_saveData hspec data metadata).pre fun w hw => hw.2) fun artifact => ?_
  exact triple_pure fun w hw => hw

theorem triple_saveAs {asset : AnalyzeAsset} {spec : ArtifactSpec}
    (hspec : spec ∈ analysisSpecs) (l : L) :
    Triple (Progress statuses done rows) (saveAs stages asset spec l)
      (fun _ => Progress statuses (asset :: done) rows) (Failed statuses) := by
  refine triple_bind (triple_save hspec l) fun ⟨artifact, l'⟩ => triple_assuming fun hreal => ?_
  refine triple_bind (triple_record hreal) fun _ => ?_
  exact triple_pure fun w hw => hw

theorem triple_saveAll {spec : ArtifactSpec} (hspec : spec ∈ analysisSpecs)
    (items : List (Bytes × Dict Text Text)) :
    Triple (Progress statuses done rows) (saveAll stages spec items)
      (fun _ => Progress statuses done rows) (Failed statuses) := by
  induction items with
  | nil => exact triple_pure fun w hw => hw
  | cons item items ih =>
    refine triple_bind (triple_saveData hspec item.1 item.2) fun artifact => ?_
    exact ih.pre fun w hw => hw.1

theorem triple_count_rows {n : Nat} : Triple (Progress statuses done rows)
    (count manifestRowCount n : Effect Raised (World σ) Unit)
    (fun _ => Progress statuses done (some n)) (Failed statuses) := by
  refine triple_modify fun w hw => ⟨hw.statuses, hw.real, ?_, hw.atInput, hw.built⟩
  rintro m hm
  obtain rfl := Option.some.inj hm
  exact get?_set_self _ _ _

end Progress

section Stages

variable {σ L : Type} {stages : AnalyzeStages σ L} {statuses : Dict Text Text}
  {done : List AnalyzeAsset} {n : Nat}

theorem triple_manifestStage (l : L) :
    Triple (Progress statuses [] none) (manifestStage stages l)
      (fun l' => Progress statuses [.validatedManifest, .rawManifest]
        (some (stages.manifestRows l')))
      (Failed statuses) := by
  refine triple_bind (triple_save (by decide) l) fun ⟨manifest, l₁⟩ =>
    triple_assuming fun hreal => ?_
  refine triple_bind (triple_record hreal) fun _ => ?_
  refine triple_bind (triple_onStore _) fun l₂ => ?_
  refine triple_bind (triple_save (by decide) l₂) fun ⟨validated, l₃⟩ =>
    triple_assuming fun hreal => ?_
  refine triple_bind (triple_record hreal) fun _ => ?_
  refine triple_bind (triple_onStore _) fun l₄ => ?_
  refine triple_bind triple_count_rows fun _ => ?_
  exact triple_pure fun w hw => hw

theorem triple_predictionStage (l : L) :
    Triple (Progress statuses done (some n)) (predictionStage stages l)
      (fun _ => Progress statuses
        (.predictionValidationReport :: .predictionManifest :: done) (some n))
      (Failed statuses) := by
  refine triple_bind (triple_readInput _) fun l₁ => ?_
  refine triple_bind (triple_save (by decide) l₁) fun ⟨manifest, l₂⟩ =>
    triple_assuming fun hreal => ?_
  refine triple_bind (triple_record hreal) fun _ => ?_
  refine triple_bind (triple_saveAs (by decide) l₂) fun l₃ => ?_
  exact triple_onStore _

theorem triple_candidateStage {report : RegisteredArtifact} (hreal : IsReal report) (l : L) :
    Triple (Progress statuses done (some n)) (candidateStage stages report l)
      (fun _ => Progress statuses (.probableLabelErrorCandidates :: .ambiguousObjectCandidates ::
        .modelErrorAnalysisReport :: done) (some n)) (Failed statuses) := by
  refine triple_bind (triple_record hreal) fun _ => ?_
  refine triple_bind (triple_saveAs (by decide) l) fun l₁ => ?_
  exact triple_saveAs (by decide) l₁

theorem Progress.weaken {done' : List AnalyzeAsset} {rows : Option Nat} {w : World σ}
    (h : Progress statuses done rows w) (hsubset : done' ⊆ done) : Progress statuses done' rows w :=
  ⟨h.statuses, fun asset hasset => h.real asset (hsubset hasset), h.rows, h.atInput, h.built⟩

/-- The prediction assets are recorded if there are predictions. -/
theorem triple_modelErrorStage (l : L) :
    Triple (Progress statuses done (some n)) (modelErrorStage stages l)
      (fun _ => Progress statuses
        ((if stages.includePredictions then AnalyzeAsset.prediction else []) ++ done) (some n))
      (Failed statuses) := by
  rw [modelErrorStage]
  by_cases hpredictions : stages.includePredictions = true
  · simp only [if_pos hpredictions]
    refine triple_bind (triple_predictionStage l) fun l₁ => ?_
    refine triple_bind (triple_save (by decide) l₁) fun ⟨report, l₂⟩ =>
      triple_assuming fun hreal => ?_
    refine (triple_candidateStage hreal l₂).post (fun _ w hw => hw.weaken ?_) fun w hw => hw
    intro asset hasset
    simp only [AnalyzeAsset.prediction, List.mem_append, List.mem_cons,
      List.not_mem_nil] at hasset ⊢
    tauto
  · simp only [if_neg hpredictions]
    have hskip : Triple (Progress statuses done (some n)) (pure l : Effect Raised (World σ) L)
        (fun _ => Progress statuses done (some n)) (Failed statuses) := triple_pure fun w hw => hw
    refine triple_bind hskip fun l₁ => ?_
    refine triple_bind (triple_save (by decide) l₁) fun ⟨report, l₂⟩ => triple_assuming fun _ => ?_
    exact triple_pure fun w hw => hw

theorem triple_profileStage (l : L) :
    Triple (Progress statuses done (some n)) (profileStage stages l)
      (fun _ => Progress statuses (.tabularProfileReport :: done) (some n)) (Failed statuses) := by
  refine triple_bind (triple_readInput _) fun l₁ => ?_
  exact triple_saveAs (by decide) l₁

theorem triple_textStage (l : L) :
    Triple (Progress statuses done (some n)) (textStage stages l)
      (fun _ => Progress statuses done (some n)) (Failed statuses) := by
  refine triple_bind (triple_readInput _) fun l₁ => ?_
  refine triple_bind (triple_lift fun w hw => hw.failed) fun ⟨support, l₂⟩ => ?_
  refine triple_bind ((triple_saveAll (by decide) support).pre fun w hw => hw.2) fun _ => ?_
  refine triple_bind (triple_lift fun w hw => hw.failed) fun ⟨ocr, l₃⟩ => ?_
  refine triple_bind ((triple_saveAll (by decide) ocr).pre fun w hw => hw.2) fun _ => ?_
  exact triple_pure fun w hw => hw

theorem triple_decisionStage (l : L) :
    Triple (Progress statuses done (some n)) (decisionStage stages l)
      (fun _ => Progress statuses (.recommendedActions :: .decisionReport :: .evidenceBundle ::
        .objectAnalyticsPassports :: done) (some n)) (Failed statuses) := by
  refine triple_bind (triple_save (by decide) l) fun ⟨passports, l₁⟩ =>
    triple_assuming fun hpassports => ?_
  refine triple_bind (triple_save (by decide) l₁) fun ⟨evidence, l₂⟩ =>
    triple_assuming fun hevidence => ?_
  refine triple_bind (triple_save (by decide) l₂) fun ⟨decision, l₃⟩ =>
    triple_assuming fun hdecision => ?_
  refine triple_bind (triple_record hpassports) fun _ => ?_
  refine triple_bind (triple_record hevidence) fun _ => ?_
  refine triple_bind (triple_record hdecision) fun _ => ?_
  exact triple_saveAs (by decide) l₃

theorem triple_reviewStage (l : L) :
    Triple (Progress statuses done (some n)) (reviewStage stages l)
      (fun l' w => Progress statuses (.reviewQueue :: done) (some n) w ∧
        get? reviewQueueSize w.state.counts = some (stages.queuedObjects l'))
          (Failed statuses) := by
  refine triple_bind (triple_lift fun w hw => hw.failed) fun ⟨previews, l₁⟩ => ?_
  refine triple_bind ((triple_saveAll (by decide) previews).pre fun w hw => hw.2) fun _ => ?_
  refine triple_bind (triple_saveAs (by decide) l₁) fun l₂ => ?_
  refine triple_bind (triple_modify fun w hw => ?_) fun _ => triple_pure fun w hw => hw
  have hne : reviewQueueSize ≠ manifestRowCount := by decide
  refine ⟨⟨hw.statuses, hw.real, fun m hm => ?_, hw.atInput, hw.built⟩, get?_set_self _ _ _⟩
  exact (get?_set_ne hne _ _).trans (hw.rows m hm)

/-- What a whole analysis leaves when it returns. -/
structure Analysed (stages : AnalyzeStages σ L) (statuses : Dict Text Text)
    (counts : AnalysisCounts) (w : World σ) : Prop where
  statuses : w.state.statuses = statuses
  real : ∀ asset ∈ expectedAssets stages, RealAsset w.state asset
  rows : get? manifestRowCount w.state.counts = some counts.manifestRows
  queued : get? reviewQueueSize w.state.counts = some counts.reviewQueueSize

theorem triple_buildFromArchive (l : L) :
    Triple (Progress statuses [] none) (buildFromArchive stages l) (Analysed stages statuses)
      (Failed statuses) := by
  refine triple_bind (triple_manifestStage l) fun l₁ => ?_
  refine triple_bind (triple_modelErrorStage l₁) fun l₂ => ?_
  refine triple_bind (triple_profileStage l₂) fun l₃ => ?_
  refine triple_bind (triple_textStage l₃) fun l₄ => ?_
  refine triple_bind (triple_decisionStage l₄) fun l₅ => ?_
  refine triple_bind (triple_reviewStage l₅) fun l₆ => ?_
  refine triple_pure fun w ⟨hw, hqueued⟩ =>
    ⟨hw.statuses, fun asset hasset => hw.real asset ?_, hw.rows _ rfl, hqueued⟩
  obtain hbase | hprediction := List.mem_append.mp hasset
  · simp only [AnalyzeAsset.base, List.mem_cons, List.mem_append] at hbase ⊢
    tauto
  · simp only [List.mem_cons, List.mem_append]
    tauto

end Stages

section Fallback

variable {σ L : Type} {stages : AnalyzeStages σ L}

theorem strip_referenceOnly (asset : AnalyzeAsset) :
    strip (asset.name ++ referenceOnlySuffix) = asset.name ++ referenceOnlySuffix := by
  cases asset <;> decide

/-- References are saved over what stands there; the counts and statuses stay. -/
structure Referenced (w : World σ) (done : List AnalyzeAsset) (t : World σ) : Prop where
  artifacts : ∀ asset ∈ done, ReferenceAsset t.state asset
  counts : t.state.counts = w.state.counts
  statuses : t.state.statuses = w.state.statuses
  atInput : t.atInput = w.atInput
  built : t.state.built = w.state.built

theorem referenced_start (w : World σ) : Referenced w [] w :=
  ⟨fun _ hasset => absurd hasset List.not_mem_nil, rfl, rfl, rfl, rfl⟩

theorem referenceAsset_record {t : World σ} {artifact : RegisteredArtifact}
    {asset other : AnalyzeAsset}
    (hschema : artifact.schemaVersion.1 = asset.name ++ referenceOnlySuffix)
    (h : other = asset ∨ ReferenceAsset t.state other) :
    ReferenceAsset { t.state with artifacts := set asset.name artifact t.state.artifacts }
      other := by
  by_cases hname : asset.name = other.name
  · refine ⟨artifact, ?_, hname ▸ hschema⟩
    rw [← hname]
    exact get?_set_self _ _ _
  · obtain rfl | ⟨found, hfound, hfoundSchema⟩ := h
    · exact absurd rfl hname
    · exact ⟨found, (get?_set_ne hname _ _).trans hfound, hfoundSchema⟩

theorem triple_saveReferences (w : World σ) (assets done : List AnalyzeAsset) :
    Triple (Referenced w done) (saveReferences stages assets)
      (fun _ => Referenced w (assets.reverse ++ done)) fun t => t.state.built = w.state.built := by
  induction assets generalizing done with
  | nil => exact triple_pure fun t ht => ht
  | cons asset assets ih =>
    have hsave : Triple (Referenced w done)
        (saveData stages (referenceOnly asset) (stages.referencePayload asset) [])
        (fun artifact t => Referenced w done t ∧
          artifact.schemaVersion.1 = asset.name ++ referenceOnlySuffix) fun t =>
            t.state.built = w.state.built := by
      intro t ht
      refine ⟨fun artifact u hrun => ?_, fun e u hrun => ?_⟩
      rotate_left
      · obtain ⟨-, rfl⟩ := Prod.mk.inj hrun
        exact ht.built
      obtain ⟨hok, rfl⟩ := Prod.mk.inj hrun
      refine ⟨⟨ht.artifacts, ht.counts, ht.statuses, ht.atInput, ht.built⟩, ?_⟩
      exact (stages.registry.schema (Prod.ext hok rfl)).trans (strip_referenceOnly asset)
    refine triple_bind hsave fun artifact => triple_assuming fun hschema => ?_
    have hrecord : Triple (Referenced w done) (record asset artifact : Effect Raised (World σ) Unit)
        (fun _ => Referenced w (asset :: done)) fun t => t.state.built = w.state.built := by
      refine triple_modify fun t ht =>
        ⟨fun other hother => ?_, ht.counts, ht.statuses, ht.atInput, ht.built⟩
      exact referenceAsset_record hschema ((List.mem_cons.mp hother).imp_right (ht.artifacts other))
    refine triple_bind hrecord fun _ => ?_
    rw [List.reverse_cons, List.append_assoc]
    exact ih (asset :: done)

theorem built_buildReferenceOnlyOutputs {w t : World σ} {e : Raised}
    (h : (buildReferenceOnlyOutputs stages).run w = (.error e, t)) :
    t.state.built = w.state.built := by
  obtain ⟨_, hmode, -⟩ | ⟨_, u, hmode, hsave⟩ := Effect.run_bind_cases h
  · cases (Prod.mk.inj hmode).1
  · obtain ⟨-, rfl⟩ := Prod.mk.inj hmode
    have hkept :=
      (triple_saveReferences _ (expectedAssets stages) [] _ (referenced_start _)).2 _ _ hsave
    exact hkept

/-- References that are all saved leave the counts that stood there. -/
theorem buildReferenceOnlyOutputs_ok {w t : World σ}
    (h : (buildReferenceOnlyOutputs stages).run w = (.ok (), t)) :
    (∀ asset ∈ expectedAssets stages, ReferenceAsset t.state asset) ∧ t.state.counts =
      w.state.counts ∧
      get? analysisMode t.state.statuses = some "reference_only".toList ∧ t.atInput =
        w.atInput := by
  obtain ⟨_, u, hmode, hsave⟩ := Effect.run_bind_eq_ok.mp h
  obtain ⟨-, rfl⟩ := Prod.mk.inj hmode
  have hsaved :=
    (triple_saveReferences _ (expectedAssets stages) [] _ (referenced_start _)).1 _ _ hsave
  refine ⟨fun asset hasset => hsaved.artifacts asset ?_, hsaved.counts, ?_, hsaved.atInput⟩
  · simpa using hasset
  · rw [hsaved.statuses]
    exact get?_set_self _ _ _

end Fallback

section Calls

variable {σ L : Type} (stages : AnalyzeStages σ L)

/-- A call that analyses finds no mark of an earlier reference-only call; one that falls
back and saves every reference does so because the first read of the archive fails, with
no rows counted by an earlier call. -/
structure Sound (w : World σ) : Prop where
  analysed : ∀ counts t, (buildRealOutputs stages).run w = (.ok counts, t) →
    get? analysisMode w.state.statuses = none
  referenced : ∀ e t u, (buildRealOutputs stages).run w = (.error e, t) → IsStorageError e →
    (buildReferenceOnlyOutputs stages).run t = (.ok (), u) →
    ((stages.openArchive stages.begin).run w.store).1 = .error e ∧ w.state.counts = []

variable {stages} {w : World σ}

/-- The analysis stops at the first read of the archive, or goes on from it. -/
theorem buildRealOutputs_cases (w : World σ) :
    (∃ e, ((stages.openArchive stages.begin).run w.store).1 = .error e ∧
      ∃ store, (buildRealOutputs stages).run w =
        (.error e, { w with atInput := true, store := store })) ∨
    ∃ l store, ((stages.openArchive stages.begin).run w.store).1 = .ok l ∧
      (buildRealOutputs stages).run w =
        (buildFromArchive stages l).run { w with atInput := false, store := store } := by
  cases hopen : (stages.openArchive stages.begin).run w.store with
  | mk r store =>
    cases r with
    | error e =>
      refine .inl ⟨e, rfl, store, ?_⟩
      have hread : (readInput (stages.openArchive stages.begin)).run w =
          (.error e, { w with atInput := true, store := store }) := by
        refine (Effect.run_bind_ok (Effect.run_modify _ w) _).trans (Effect.run_bind_error ?_ _)
        exact run_onStore hopen
      exact Effect.run_bind_error hread _
    | ok l =>
      refine .inr ⟨l, store, rfl, ?_⟩
      have hread : (readInput (stages.openArchive stages.begin)).run w =
          (.ok l, { w with atInput := false, store := store }) := by
        have honStore : (onStore (stages.openArchive stages.begin)).run { w with atInput := true } =
            (.ok l, { w with atInput := true, store := store }) := run_onStore hopen
        refine (Effect.run_bind_ok (Effect.run_modify _ w) _).trans ?_
        exact Effect.run_bind_ok honStore _
      exact Effect.run_bind_ok hread _

theorem progress_start (hbuilt : w.state.built = false) (store : σ) :
    Progress w.state.statuses [] none { w with atInput := false, store := store } :=
  ⟨rfl, fun _ hasset => absurd hasset List.not_mem_nil, fun _ hm => (by cases hm), rfl, hbuilt⟩

theorem buildRealOutputs_ok (hbuilt : w.state.built = false) {counts : AnalysisCounts} {t : World σ}
    (h : (buildRealOutputs stages).run w = (.ok counts, t)) :
    Analysed stages w.state.statuses counts t := by
  obtain ⟨e, -, store, herror⟩ | ⟨l, store, -, hrest⟩ := @buildRealOutputs_cases _ _ stages w
  · rw [herror] at h
    cases (Prod.mk.inj h).1
  · rw [hrest] at h
    exact (triple_buildFromArchive l _ (progress_start hbuilt store)).1 counts t h

/-- An analysis that fails at an input either failed at its first read or has counted. -/
theorem buildRealOutputs_error (hbuilt : w.state.built = false) {e : Raised} {t : World σ}
    (h : (buildRealOutputs stages).run w = (.error e, t)) :
    (((stages.openArchive stages.begin).run w.store).1 = .error e ∧ t.state = w.state ∧
      t.atInput = true) ∨
      Failed w.state.statuses t := by
  obtain ⟨e', hfirst, store, herror⟩ | ⟨l, store, -, hrest⟩ := @buildRealOutputs_cases _ _ stages w
  · rw [herror] at h
    obtain ⟨he, rfl⟩ := Prod.mk.inj h
    obtain rfl := Except.error.inj he
    exact .inl ⟨hfirst, rfl, rfl⟩
  · rw [hrest] at h
    exact .inr ((triple_buildFromArchive l _ (progress_start hbuilt store)).2 e t h)

theorem run_ensure_built (h : w.state.built = true) :
    (ensureAnalyzeOutputs stages).run w = (.ok (), w) := by
  refine (Effect.run_bind_ok (Effect.run_get w) _).trans ?_
  rw [h]
  rfl

theorem run_ensure (h : w.state.built = false) : (ensureAnalyzeOutputs stages).run w =
    (buildOutputs stages >>= fun _ => onState fun s => { s with built := true }).run w := by
  refine (Effect.run_bind_ok (Effect.run_get w) _).trans ?_
  rw [h]
  rfl

theorem run_ensure_analysed (hbuilt : w.state.built = false) {counts : AnalysisCounts} {t : World σ}
    (h : (buildRealOutputs stages).run w = (.ok counts, t)) : (ensureAnalyzeOutputs stages).run w =
      (.ok (), { t with state := { t.state with built := true }, analysed := some counts }) := by
  have hbuild : (buildOutputs stages).run w = (.ok (), { t with analysed := some counts }) :=
    Effect.run_tryCatch_ok (Effect.run_bind_ok h _) _
  rw [run_ensure hbuilt, Effect.run_bind_ok hbuild]
  rfl

theorem run_buildOutputs_error {e : Raised} {t : World σ}
    (h : (buildRealOutputs stages).run w = (.error e, t)) : (buildOutputs stages).run w =
      (if IsStorageError e then do
        buildReferenceOnlyOutputs stages
        Effect.modify fun w => { w with analysed := none }
      else Effect.raise e : Effect Raised (World σ) Unit).run t :=
  Effect.run_tryCatch_error (Effect.run_bind_error h _) _

theorem run_ensure_referenced (hbuilt : w.state.built = false) {e : Raised} {t u : World σ}
    (h : (buildRealOutputs stages).run w = (.error e, t)) (he : IsStorageError e)
    (hu : (buildReferenceOnlyOutputs stages).run t = (.ok (), u)) :
    (ensureAnalyzeOutputs stages).run w =
      (.ok (), { u with state := { u.state with built := true }, analysed := none }) := by
  have hbuild : (buildOutputs stages).run w = (.ok (), { u with analysed := none }) := by
    rw [run_buildOutputs_error h, if_pos he, Effect.run_bind_ok hu]
    rfl
  rw [run_ensure hbuilt, Effect.run_bind_ok hbuild]
  rfl

/-- What a call that builds has gone through when it returns. -/
theorem ensureAnalyzeOutputs_cases (hbuilt : w.state.built = false) {v : World σ}
    (h : (ensureAnalyzeOutputs stages).run w = (.ok (), v)) :
    (∃ counts t, (buildRealOutputs stages).run w = (.ok counts, t)) ∨
    ∃ e t u, (buildRealOutputs stages).run w = (.error e, t) ∧ IsStorageError e ∧
      (buildReferenceOnlyOutputs stages).run t = (.ok (), u) := by
  cases hreal : (buildRealOutputs stages).run w with
  | mk r t =>
    cases r with
    | ok counts => exact .inl ⟨counts, t, rfl⟩
    | error e =>
      rw [run_ensure hbuilt] at h
      obtain ⟨_, x, hbuild, -⟩ := Effect.run_bind_eq_ok.mp h
      rw [run_buildOutputs_error hreal] at hbuild
      split at hbuild
      · next hstorage =>
        obtain ⟨_, u, hreference, -⟩ := Effect.run_bind_eq_ok.mp hbuild
        exact .inr ⟨e, t, u, rfl, hstorage, hreference⟩
      · cases (Prod.mk.inj hbuild).1

/-- A call that raises leaves its outputs unbuilt. -/
theorem built_of_raised (hbuilt : w.state.built = false) {e : Raised} {v : World σ}
    (h : (ensureAnalyzeOutputs stages).run w = (.error e, v)) : v.state.built = false := by
  cases hreal : (buildRealOutputs stages).run w with
  | mk r t =>
    cases r with
    | ok counts =>
      rw [run_ensure_analysed hbuilt hreal] at h
      cases (Prod.mk.inj h).1
    | error e' =>
      have ht : t.state.built = false := by
        obtain ⟨-, hstate, -⟩ | hfailed := buildRealOutputs_error hbuilt hreal
        · rw [hstate, hbuilt]
        · exact hfailed.built
      by_cases he : IsStorageError e'
      · cases hu : (buildReferenceOnlyOutputs stages).run t with
        | mk r u =>
          cases r with
          | ok _ =>
            rw [run_ensure_referenced hbuilt hreal he hu] at h
            cases (Prod.mk.inj h).1
          | error e'' =>
            have hbuild : (buildOutputs stages).run w = (.error e'', u) := by
              rw [run_buildOutputs_error hreal, if_pos he, Effect.run_bind_error hu]
            rw [run_ensure hbuilt, Effect.run_bind_error hbuild] at h
            obtain ⟨-, rfl⟩ := Prod.mk.inj h
            exact (built_buildReferenceOnlyOutputs hu).trans ht
      · have hbuild : (buildOutputs stages).run w = (.error e', t) := by
          rw [run_buildOutputs_error hreal, if_neg he]
          rfl
        rw [run_ensure hbuilt, Effect.run_bind_error hbuild] at h
        obtain ⟨-, rfl⟩ := Prod.mk.inj h
        exact ht

/-- A call that builds leaves the truth, if it returns, exactly when it is sound. -/
theorem truthful_call_iff (hbuilt : w.state.built = false) :
    ((((ensureAnalyzeOutputs stages).run w).1 = .ok ()) →
      Truthful (expectedAssets stages) ((ensureAnalyzeOutputs stages).run w).2) ↔
      Sound stages w := by
  constructor
  · intro htruthful
    refine ⟨fun counts t hreal => ?_, fun e t u hreal he hu => ?_⟩
    · rw [run_ensure_analysed hbuilt hreal] at htruthful
      have hanalysed := buildRealOutputs_ok hbuilt hreal
      obtain ⟨counts', -, hmode⟩ | ⟨hnone, -, -⟩ := htruthful rfl
      · exact hanalysed.statuses ▸ hmode.mode
      · cases hnone
    · rw [run_ensure_referenced hbuilt hreal he hu] at htruthful
      obtain ⟨-, hcounts, -, hinput⟩ := buildReferenceOnlyOutputs_ok hu
      obtain ⟨counts', hsome, -⟩ | ⟨-, hmode, hatInput⟩ := htruthful rfl
      · cases hsome
      · have hempty : t.state.counts = [] := hcounts.symm.trans hmode.counts
        obtain ⟨hfirst, hstate, -⟩ | hfailed := buildRealOutputs_error hbuilt hreal
        · exact ⟨hfirst, hstate ▸ hempty⟩
        · exact absurd hempty (hfailed.counted (hinput.symm.trans hatInput))
  · intro hsound hreturned
    obtain ⟨counts, t, hreal⟩ | ⟨e, t, u, hreal, he, hu⟩ :=
      ensureAnalyzeOutputs_cases hbuilt (Prod.ext hreturned rfl)
    · rw [run_ensure_analysed hbuilt hreal]
      obtain ⟨hstatuses, hartifacts, hrows, hqueued⟩ := buildRealOutputs_ok hbuilt hreal
      refine .inl ⟨counts, rfl, hartifacts, ?_, hrows, hqueued⟩
      exact (congrArg (get? analysisMode) hstatuses).trans (hsound.analysed counts t hreal)
    · rw [run_ensure_referenced hbuilt hreal he hu]
      obtain ⟨hartifacts, hcounts, hmode, hinput⟩ := buildReferenceOnlyOutputs_ok hu
      obtain ⟨hfirst, hempty⟩ := hsound.referenced e t u hreal he hu
      have hstart : t.state = w.state ∧ t.atInput = true := by
        obtain ⟨e', -, store, herror⟩ | ⟨l, store, hopened, -⟩ :=
          @buildRealOutputs_cases _ _ stages w
        · obtain ⟨-, rfl⟩ := Prod.mk.inj (hreal.symm.trans herror)
          exact ⟨rfl, rfl⟩
        · rw [hopened] at hfirst
          cases hfirst
      refine .inr ⟨rfl, ⟨hartifacts, hmode, ?_⟩, hinput.trans hstart.2⟩
      exact hcounts.trans (hstart.1 ▸ hempty)

end Calls

section Runs

variable {σ L : Type} (stages : AnalyzeStages σ L) (store : σ)

/-- The run after some calls. -/
abbrev called (calls : Nat) : World σ :=
  after (fun _ : Unit => ensureAnalyzeOutputs stages) (List.replicate calls ())
    (World.initial store)

theorem called_succ (calls : Nat) :
    called stages store (calls + 1) =
      ((ensureAnalyzeOutputs stages).run (called stages store calls)).2 := by
  rw [called, List.replicate_succ', after_append, after_cons, after_nil]

/-- A state that is built was left by a call that returned. -/
theorem truthful_of_built
    (hsound : ∀ calls, (called stages store calls).state.built = false →
      Sound stages (called stages store calls)) (calls : Nat)
    (hbuilt : (called stages store calls).state.built = true) :
    Truthful (expectedAssets stages) (called stages store calls) := by
  induction calls with
  | zero => cases hbuilt
  | succ calls ih =>
    rw [called_succ] at hbuilt ⊢
    cases hbefore : (called stages store calls).state.built with
    | true =>
      rw [run_ensure_built hbefore]
      exact ih hbefore
    | false =>
      cases hcall : (ensureAnalyzeOutputs stages).run (called stages store calls) with
      | mk r v =>
        rw [hcall] at hbuilt
        cases r with
        | ok _ =>
          have htruthful := (truthful_call_iff hbefore).mpr (hsound calls hbefore)
          rw [hcall] at htruthful
          exact htruthful rfl
        | error e =>
          have hraised : v.state.built = false := built_of_raised hbefore hcall
          exact absurd (hraised.symm.trans hbuilt) nofun

/-- Whatever the storage does: after every call that returns the outputs, the mode and the
counts tell the truth, exactly when every call that still had to build was sound. -/
theorem analysis_mode_truthful_iff :
    (∀ calls, ((ensureAnalyzeOutputs stages).run (called stages store calls)).1 = .ok () →
      Truthful (expectedAssets stages) (called stages store (calls + 1))) ↔
    ∀ calls, (called stages store calls).state.built =
      false → Sound stages (called stages store calls) := by
  constructor
  · intro htruthful calls hbuilt
    refine (truthful_call_iff hbuilt).mp fun hreturned => ?_
    rw [← called_succ]
    exact htruthful calls hreturned
  · intro hsound calls
    rw [called_succ]
    by_cases hbuilt : (called stages store calls).state.built = true
    · rw [run_ensure_built hbuilt]
      exact fun _ => truthful_of_built stages store hsound calls hbuilt
    · exact (truthful_call_iff (Bool.eq_false_of_not_eq_true hbuilt)).mpr
        (hsound calls (Bool.eq_false_of_not_eq_true hbuilt))

end Runs

section Example

def outage : Raised := .coded "ObjectStorageError" .artifactNotFound "object could not be written"

def savedRef : DataForge.Domain.Artifact.ArtifactRef := DataForge.Orchestration.ApplySource.january

def savedArtifact (schemaVersion : NonEmptyStr) : RegisteredArtifact :=
  ⟨savedRef, literal "report", savedRef.uri, savedRef.hash, literal "json", schemaVersion,
    literal "job"⟩

/-- A registry on a schedule: the next call fails where it says so. -/
def scheduledRegistry : Registry (List Bool) where
  saveArtifact r := fun
    | true :: schedule => (.error outage, schedule)
    | schedule =>
      if h : strip r.schemaVersion = [] then (.error outage, schedule.tail)
      else (.ok (savedArtifact ⟨strip r.schemaVersion, h⟩), schedule.tail)
  schema := by
    intro r s artifact t h
    change (match s with
      | true :: schedule => _
      | schedule => _) = _ at h
    split at h
    · cases (Prod.mk.inj h).1
    · split at h
      · cases (Prod.mk.inj h).1
      · obtain rfl := Except.ok.inj (Prod.mk.inj h).1
        rfl

/-- Every read succeeds, and every payload is empty. -/
def readableStages : AnalyzeStages (List Bool) Unit where
  registry := scheduledRegistry
  ids := ⟨"v1".toList, "job".toList, "config".toList⟩
  includePredictions := false
  begin := ()
  openArchive _ := pure ()
  readPredictions _ := pure ()
  readBack _ _ := pure ()
  payload _ _ := .ok (.empty, [], ())
  redactedSupport _ := .ok ([], ())
  redactedOcr _ := .ok ([], ())
  safePreviews _ := .ok ([], ())
  manifestRows _ := 0
  queuedObjects _ := 0
  referencePayload _ := .empty

theorem run_scheduled {r : SaveRequest} (h : strip r.schemaVersion ≠ []) :
    (scheduledRegistry.saveArtifact r).run [] =
      (.ok (savedArtifact ⟨strip r.schemaVersion, h⟩), []) := by
  show (if h : strip r.schemaVersion = [] then _ else _) = _
  rw [dif_neg h]
  rfl

theorem saveReferences_available (assets : List AnalyzeAsset) (state : AnalyzeExecutionState) :
    ∃ t, (saveReferences readableStages assets).run ⟨state, [], false, none⟩ = (.ok (), t) := by
  induction assets generalizing state with
  | nil => exact ⟨_, rfl⟩
  | cons asset assets ih =>
    have hne : strip (asset.name ++ referenceOnlySuffix) ≠ [] := by
      rw [strip_referenceOnly]
      exact List.append_ne_nil_of_right_ne_nil _ (by decide)
    have hsave :
        (saveData readableStages (referenceOnly asset) .empty []).run ⟨state, [], false, none⟩ =
        (.ok (savedArtifact ⟨_, hne⟩), ⟨state, [], false, none⟩) :=
      run_onStore
        (run_scheduled (r := saveRequest readableStages.ids (referenceOnly asset) .empty []) hne)
    obtain ⟨t, ht⟩ := ih { state with
      artifacts := set asset.name (savedArtifact ⟨_, hne⟩) state.artifacts }
    refine ⟨t, (Effect.run_bind_ok hsave _).trans ?_⟩
    exact (Effect.run_bind_ok (Effect.run_modify _ _) _).trans ht

/-- The archive is read, the manifest cannot be written, and the run reports that its input
could not be read. -/
theorem failed_write_is_masked :
    ¬ ∀ (stages : AnalyzeStages (List Bool) Unit) (schedule : List Bool) (calls : Nat),
      ((ensureAnalyzeOutputs stages).run (called stages schedule calls)).1 = .ok () →
        Truthful (expectedAssets stages) (called stages schedule (calls + 1)) := by
  intro h
  have htruthful := h readableStages [true] 0
  rw [called_succ] at htruthful
  have hsound : Sound readableStages (World.initial [true]) := (truthful_call_iff rfl).mp htruthful
  have hfailed : (buildRealOutputs readableStages).run (World.initial [true]) =
      (.error outage, World.initial []) := by
    have hread : (readInput (readableStages.openArchive ())).run (World.initial [true]) =
        (.ok (), World.initial [true]) := rfl
    have hdata : (saveData readableStages assetManifest .empty []).run (World.initial [true]) =
        (.error outage, World.initial []) := run_onStore rfl
    have hsave : (save readableStages assetManifest ()).run (World.initial [true]) =
        (.error outage, World.initial []) :=
      (Effect.run_bind_ok (Effect.run_lift _ _) _).trans (Effect.run_bind_error hdata _)
    have hmanifest : (manifestStage readableStages ()).run (World.initial [true]) =
        (.error outage, World.initial []) := Effect.run_bind_error hsave _
    exact (Effect.run_bind_ok hread _).trans (Effect.run_bind_error hmanifest _)
  obtain ⟨u, hu⟩ := saveReferences_available (expectedAssets readableStages)
    ⟨[], [], set analysisMode "reference_only".toList [], false⟩
  have hreferences : (buildReferenceOnlyOutputs readableStages).run (World.initial []) =
      (.ok (), u) :=
    (Effect.run_bind_ok (Effect.run_modify _ _) _).trans hu
  obtain ⟨hfirst, -⟩ := hsound.referenced outage (World.initial []) u hfailed trivial hreferences
  cases hfirst

end Example

end DataForge.Orchestration.AnalysisMode
