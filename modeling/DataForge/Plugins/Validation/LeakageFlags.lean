import DataForge.Plugins.Tabular.LeakageChecks
import DataForge.Plugins.Validation.GatesRun

namespace DataForge.Plugins.Validation.LeakageFlags

open DataForge.Foundation.Strings
open DataForge.Foundation.Outcome
open DataForge.Foundation.Scores
open DataForge.Foundation.Sha256 hiding blocks
open DataForge.Foundation.Tables
open DataForge.Domain.Common
open DataForge.Domain.Artifact
open DataForge.Domain.Leakage
open DataForge.Domain.Profile
open DataForge.Domain.Splits
open DataForge.Domain.ValidationGates
open DataForge.Plugins.Tabular.Sources
open DataForge.Plugins.Tabular.LeakageChecks hiding buildReport
open DataForge.Plugins.Tabular.Rules hiding buildReport
open DataForge.Plugins.Validation.Gates
open DataForge.Plugins.Validation.GatesRun

section Checks

variable {F : Type} [ScoreLike F] {manifest : SplitManifest}
  {profile : Option (TabularProfileReport F)}
  {rows : List IdentifiedRow}

/-- A row content or a group value that is in two splits. -/
def LeaksAcrossSplits (manifest : SplitManifest) (rows : List IdentifiedRow) : Prop :=
  Crosses (fun row => some (rowSignature row)) rows (indexAssignments manifest) ∨
    ∃ key ∈ manifest.groupKey, Crosses (groupOf key) rows (indexAssignments manifest)

/-- A column that the profile found to match the target. -/
def ConfirmedTargetLeak (profile : Option (TabularProfileReport F)) : Prop :=
  ∃ report ∈ profile, ∃ candidate ∈ report.leakageCandidates.getD [],
    candidate.reasonCode.1 = highTargetMatchReason

/-- The check fails as a blocker with this action. -/
def Asks (action : BlockAction) (check : LeakageCheckResult) : Prop :=
  (isBlocking check && decide (check.blockAction = some action)) = true

theorem exactHashCheck_asks {assignments : Assignments} {action : BlockAction} :
    Asks action (exactHashCheck rows assignments) ↔
      action = .blockModelEvaluation ∧
        Crosses (fun row => some (rowSignature row)) rows assignments := by
  rw [← crossing_ne_nil_iff, exactHashCheck, Asks]
  split
  · next h => simp [isBlocking, h]
  · next h => simp [isBlocking, h, eq_comm]

theorem groupKeyCheck_asks {assignments : Assignments} {groupKey : Option NonEmptyStr}
    {action : BlockAction} :
    Asks action (groupKeyCheck rows assignments groupKey) ↔
      action = .blockModelEvaluation ∧
        ∃ key ∈ groupKey, Crosses (groupOf key) rows assignments := by
  cases groupKey with
  | none => simp [Asks, isBlocking, groupKeyCheck]
  | some key =>
    simp only [Option.mem_def, Option.some.injEq, exists_eq_left', ← crossing_ne_nil_iff]
    rw [groupKeyCheck, Asks]
    split
    · next h => simp [isBlocking, h]
    · next h => simp [isBlocking, h, eq_comm]

theorem targetLeakageCandidateCheck_asks {action : BlockAction} :
    Asks action (targetLeakageCandidateCheck profile manifest) ↔
      action = .blockTraining ∧ ConfirmedTargetLeak profile := by
  cases profile with
  | none => simp [Asks, isBlocking, targetLeakageCandidateCheck, noCandidates, ConfirmedTargetLeak]
  | some report =>
    have hconfirmed : ConfirmedTargetLeak (some report) ↔ (report.leakageCandidates.getD []).filter
        (fun candidate => candidate.reasonCode.1 = highTargetMatchReason) ≠ [] := by
      simp [ConfirmedTargetLeak, List.filter_eq_nil_iff]
    rw [hconfirmed, targetLeakageCandidateCheck, Asks]
    split
    · next h => simp [isBlocking, noCandidates, h]
    · split
      · next h => simp [isBlocking, candidateCheck, h]
      · next h =>
        simp only [isBlocking, candidateCheck, h, ne_eq, not_false_eq_true, and_true]
        simpa using eq_comm

theorem any_runChecks {action : BlockAction} :
    ((runChecks manifest profile rows).any fun check =>
      isBlocking check && decide (check.blockAction = some action)) = true ↔
      action = .blockModelEvaluation ∧ LeaksAcrossSplits manifest rows ∨
        action = .blockTraining ∧ ConfirmedTargetLeak profile := by
  have hasks : ((runChecks manifest profile rows).any fun check =>
      isBlocking check && decide (check.blockAction = some action)) = true ↔
        Asks action (exactHashCheck rows (indexAssignments manifest)) ∨
        Asks action (groupKeyCheck rows (indexAssignments manifest) manifest.groupKey) ∨
        Asks action (targetLeakageCandidateCheck profile manifest) := by
    simp [runChecks, Asks]
  rw [hasks, exactHashCheck_asks, groupKeyCheck_asks, targetLeakageCandidateCheck_asks,
    LeaksAcrossSplits, and_or_left, or_assoc]

/-- The two flags of a leakage report, from the inputs of the checks. -/
theorem leakage_flags {t : Table} {leakage : SplitLeakageReport F}
    (h : runSplitLeakageChecks manifest profile t = .ok leakage) :
    (leakage.blockModelEvaluation = true ↔ LeaksAcrossSplits manifest (identifiedRows t.records)) ∧
      (leakage.blockTraining = true ↔ ConfirmedTargetLeak profile) ∧
      (leakage.blockModelEvaluation = true ∨ leakage.blockTraining = true →
        leakage.leakageDetected = true) := by
  obtain ⟨-, -, -, rfl⟩ := runSplitLeakageChecks_eq_ok.mp h
  refine ⟨?_, ?_, ?_⟩
  · simp only [Tabular.LeakageChecks.buildReport, any_runChecks]
    simp
  · simp only [Tabular.LeakageChecks.buildReport, any_runChecks]
    simp
  · rintro (hflag | hflag) <;>
    · obtain ⟨check, hcheck, hblocks⟩ := List.any_eq_true.mp hflag
      exact List.any_eq_true.mpr ⟨check, hcheck, (Bool.and_eq_true_iff.mp hblocks).1⟩

end Checks

section Gates

variable {F : Type} [MetricLike F]

/-- A gate that can block nothing but the export. -/
def BlocksExportOnly (gate : CandidateValidationGate) : Prop :=
  ∀ action, gate.blockAction = some action → action = .blockExport

theorem blocksExportOnly_of_none {gate : CandidateValidationGate} (h : gate.blockAction = none) :
    BlocksExportOnly gate := fun _ haction => by
  rw [h] at haction
  cases haction

theorem blocksExportOnly_blocked (gateType : ValidationGateType) (reasonCode : NonEmptyStr)
    (findings : Nat) : BlocksExportOnly (blocked gateType reasonCode .blockExport findings) :=
  fun _ haction => (Option.some.inj haction).symm

theorem blocksExportOnly_schemaGate (request : RunValidationGatesRequest F) (columns : List Text)
    (rows : List IdentifiedRow) : BlocksExportOnly (schemaGate request columns rows) := by
  rw [schemaGate]
  split
  · exact blocksExportOnly_blocked _ _ _
  · split <;> exact blocksExportOnly_of_none rfl

theorem blocksExportOnly_privacyGate (pii : PiiPatterns) (request : RunValidationGatesRequest F)
    (columns : List Text) (rows : List IdentifiedRow) :
    BlocksExportOnly (privacyGate pii request columns rows) := by
  rw [privacyGate]
  split
  · exact blocksExportOnly_of_none rfl
  · split
    · exact blocksExportOnly_blocked _ _ _
    · exact blocksExportOnly_of_none rfl

theorem blocksExportOnly_businessRulesGate {rules : List (BusinessRule F)}
    {rows : List IdentifiedRow}
    {gate : CandidateValidationGate} (h : businessRulesGate rules rows = .ok gate) :
    BlocksExportOnly gate := by
  rw [businessRulesGate] at h
  split at h
  · obtain rfl := Except.ok.inj h
    exact blocksExportOnly_of_none rfl
  · obtain ⟨report, -, h⟩ := bind_eq_ok.mp h
    dsimp only at h
    split at h
    · obtain rfl := Except.ok.inj h
      exact blocksExportOnly_of_none rfl
    · split at h
      · obtain rfl := Except.ok.inj h
        exact blocksExportOnly_blocked _ _ _
      · obtain rfl := Except.ok.inj h
        exact blocksExportOnly_of_none rfl

theorem blocksExportOnly_dcrGate (metrics : DcrMetrics F) (thresholds : DcrThresholds F) :
    BlocksExportOnly (dcrGate metrics thresholds) := by
  rw [dcrGate]
  split
  · exact blocksExportOnly_blocked _ _ _
  · exact blocksExportOnly_of_none rfl

theorem blocksExportOnly_exactDuplicateGate (columns : List Text)
    (synthetic real : List IdentifiedRow) :
    BlocksExportOnly (exactDuplicateGate columns synthetic real) := by
  rw [exactDuplicateGate]
  split
  · exact blocksExportOnly_of_none rfl
  · exact blocksExportOnly_blocked _ _ _

theorem blocksExportOnly_nearestNeighborPrivacyGate (metrics : DcrMetrics F)
    (thresholds : DcrThresholds F) :
    BlocksExportOnly (nearestNeighborPrivacyGate metrics thresholds) := by
  rw [nearestNeighborPrivacyGate]
  split
  · exact blocksExportOnly_of_none rfl
  · exact blocksExportOnly_blocked _ _ _

theorem blocksExportOnly_syntheticGates {storage : Storage} {request : RunValidationGatesRequest F}
    {rows : List IdentifiedRow} {gates : List CandidateValidationGate}
    (h : syntheticGates storage request rows = .ok gates) :
    ∀ gate ∈ gates, BlocksExportOnly gate := by
  have hunavailable : ∀ reason, ∀ gate ∈ unavailableSynthetic reason, BlocksExportOnly gate := by
    intro reason gate hgate
    apply blocksExportOnly_of_none
    simp only [unavailableSynthetic, List.mem_cons, List.not_mem_nil, or_false] at hgate
    obtain rfl | rfl | rfl := hgate <;> rfl
  rw [syntheticGates] at h
  dsimp only at h
  split at h
  · obtain rfl := Except.ok.inj h
    exact hunavailable _
  · split at h
    · obtain rfl := Except.ok.inj h
      exact hunavailable _
    · obtain ⟨real, -, h⟩ := bind_eq_ok.mp h
      obtain rfl := Except.ok.inj h
      intro gate hgate
      simp only [List.mem_cons, List.not_mem_nil, or_false] at hgate
      obtain rfl | rfl | rfl := hgate
      · exact blocksExportOnly_dcrGate _ _
      · exact blocksExportOnly_exactDuplicateGate _ _ _
      · exact blocksExportOnly_nearestNeighborPrivacyGate _ _

theorem blocksExportOnly_unavailableGates : ∀ gate ∈ unavailableGates, BlocksExportOnly gate := by
  intro gate hgate
  apply blocksExportOnly_of_none
  have hnone : ∀ gate ∈ unavailableGates, gate.blockAction = none := by decide
  exact hnone gate hgate

theorem blocksExportOnly_raw (storage : Storage) (source : ArtifactRef) :
    BlocksExportOnly (rawArtifactImmutabilityGate storage source).1 := by
  rw [rawArtifactImmutabilityGate]
  split
  · exact blocksExportOnly_blocked _ _ _
  · split
    · exact blocksExportOnly_blocked _ _ _
    · exact blocksExportOnly_of_none rfl

/-- Beside gates that block the export alone, one gate decides the other flags. -/
theorem blocks_between {before after : List CandidateValidationGate}
    {gate : CandidateValidationGate}
    {action : BlockAction} (hbefore : ∀ g ∈ before, BlocksExportOnly g)
    (hafter : ∀ g ∈ after, BlocksExportOnly g) (haction : action ≠ .blockExport) :
    blocks action (before ++ gate :: after) =
      (gateIsBlocking gate && decide (gate.blockAction = some action)) := by
  have hnone : ∀ gates : List CandidateValidationGate, (∀ g ∈ gates, BlocksExportOnly g) →
      (gates.any fun g => gateIsBlocking g && decide (g.blockAction = some action)) = false := by
    intro gates hgates
    apply List.any_eq_false.mpr
    intro g hg hasks
    exact haction (hgates g hg action (of_decide_eq_true (Bool.and_eq_true_iff.mp hasks).2))
  rw [blocks, List.any_append, List.any_cons, hnone before hbefore, hnone after hafter,
    Bool.false_or, Bool.or_false]

/-- The other gates of a run leave the two flags to the leakage gate. -/
theorem flags_of_run {pii : PiiPatterns} {storage : Storage} {request : RunValidationGatesRequest F}
    {report : ValidationGatesReport} (h : runValidationGates pii storage request = .ok report) :
    let gate := splitLeakageGate request.splitLeakageReport
    report.blockTraining =
      (gateIsBlocking gate && decide (gate.blockAction = some .blockTraining)) ∧
      report.blockModelEvaluation =
        (gateIsBlocking gate && decide (gate.blockAction = some .blockModelEvaluation)) := by
  obtain ⟨rows, columns, businessRules, synthetic, -, hrules, hsynthetic, rfl⟩ :=
    runValidationGates_eq_ok.mp h
  have hbefore : ∀ gate ∈ [schemaGate request columns rows, businessRules,
      privacyGate pii request columns rows], BlocksExportOnly gate := by
    simp only [List.forall_mem_cons]
    exact ⟨blocksExportOnly_schemaGate _ _ _, blocksExportOnly_businessRulesGate hrules,
      blocksExportOnly_privacyGate _ _ _ _, fun _ hnil => absurd hnil List.not_mem_nil⟩
  have hafter : ∀ gate ∈ synthetic ++ unavailableGates ++
      [(rawArtifactImmutabilityGate storage request.sourceArtifact).1], BlocksExportOnly gate := by
    simp only [List.forall_mem_append, List.forall_mem_singleton]
    exact ⟨⟨blocksExportOnly_syntheticGates hsynthetic, blocksExportOnly_unavailableGates⟩,
      blocksExportOnly_raw _ _⟩
  exact ⟨blocks_between hbefore hafter (by decide), blocks_between hbefore hafter (by decide)⟩

theorem splitLeakageGate_blocks (leakage : SplitLeakageReport F) :
    let gate := splitLeakageGate (some leakage)
    ((gateIsBlocking gate && decide (gate.blockAction = some .blockTraining)) = true ↔
      leakage.leakageDetected = true ∧ leakage.blockTraining = true) ∧
    ((gateIsBlocking gate && decide (gate.blockAction = some .blockModelEvaluation)) = true ↔
      leakage.leakageDetected = true ∧ leakage.blockTraining = false ∧
        leakage.blockModelEvaluation = true) := by
  cases hd : leakage.leakageDetected <;> cases ht : leakage.blockTraining <;>
    cases he : leakage.blockModelEvaluation <;>
    simp [splitLeakageGate, gateIsBlocking, blocked, passed, warned, hd, ht, he]

end Gates

section Survival

variable {F : Type} [MetricLike F] {manifest : SplitManifest}
  {profile : Option (TabularProfileReport F)} {t : Table} {leakage : SplitLeakageReport F}

/-- The gates report blocks what the leakage report blocks. -/
def FlagsSurvive (leakage : SplitLeakageReport F) (report : ValidationGatesReport) : Prop :=
  (leakage.blockTraining = true → report.blockTraining = true) ∧
    (leakage.blockModelEvaluation = true → report.blockModelEvaluation = true)

/-- The flags survive unless both kinds of leaks are found at once. -/
theorem flagsSurvive_iff (hleakage : runSplitLeakageChecks manifest profile t = .ok leakage)
    {pii : PiiPatterns} {storage : Storage} {request : RunValidationGatesRequest F}
    {report : ValidationGatesReport}
    (hgates : runValidationGates pii storage { request with splitLeakageReport := some leakage } =
      .ok report) :
    FlagsSurvive leakage report ↔
      ¬ (LeaksAcrossSplits manifest (identifiedRows t.records) ∧ ConfirmedTargetLeak profile) := by
  obtain ⟨hevaluation, htraining, hdetected⟩ := leakage_flags hleakage
  obtain ⟨hreportTraining, hreportEvaluation⟩ := flags_of_run hgates
  obtain ⟨hgateTraining, hgateEvaluation⟩ := splitLeakageGate_blocks leakage
  rw [← hevaluation, ← htraining, FlagsSurvive, hreportTraining, hreportEvaluation, hgateTraining,
    hgateEvaluation]
  cases ht : leakage.blockTraining <;> cases he : leakage.blockModelEvaluation <;>
    simp_all

def twinTable : Table where
  header := ["object_id".toList, "label".toList, "income".toList]
  lines := [["a".toList, "0".toList, "5".toList], ["b".toList, "0".toList, "5".toList]]

/-- Rows of one content, split under the group key `object_id`. -/
def twinManifest : SplitManifest where
  splitManifestId := "split_manifest".toList
  targetColumn := literal "label"
  seed := 42
  groupKey := some (literal "object_id")
  assignments := [⟨literal "a", .validation, literal "0", some "a".toList⟩,
    ⟨literal "b", .test, literal "0", some "b".toList⟩]
  classDistribution := []

def leakProfile : TabularProfileReport ℚ where
  rowCount := 2
  columnCount := 3
  nullCounts := [0, 0, 0]
  missingness := none
  duplicateObjectIds := none
  classImbalance := none
  leakageCandidates := some [⟨literal "income", literal "high_target_match_rate"⟩]
  businessRulePassRates := none
  lineage :=
    ⟨literal "dataset", literal "v1", literal "v0", literal "job", zeroDigest, literal "raw",
    zeroDigest⟩

def twinBytes : Bytes := encodeUtf8 "object_id,label,income\na,0,5\nb,0,5\n".toList

def twinArtifact : ArtifactRef where
  artifactId := literal "raw"
  kind := literal "raw_transactions"
  uri := ⟨"s3://b/twins.csv".toList, by decide⟩
  hash := sha256Digest twinBytes
  mediaType := literal "text/csv"
  sizeBytes := twinBytes.size
  schemaVersion := literal "tabular_dataset.v1"
  lineage := ⟨literal "v1", literal "job", zeroDigest, ⟨0, none⟩⟩

def twinStorage : Storage := fun _ =>
  some ⟨twinBytes, .ok twinTable⟩

def twinRequest (leakage : SplitLeakageReport ℚ) : RunValidationGatesRequest ℚ where
  candidateArtifact := twinArtifact
  sourceArtifact := twinArtifact
  schemaColumns := []
  numericColumns := []
  businessRules := []
  piiRestricted := false
  splitLeakageReport := some leakage
  syntheticFeatureColumns := none
  dcrThresholds := ⟨0, 0⟩

theorem twin_checks_run (profile : Option (TabularProfileReport ℚ)) :
    ∃ leakage, runSplitLeakageChecks twinManifest profile twinTable = .ok leakage :=
  ⟨_, runSplitLeakageChecks_eq_ok.mpr ⟨by decide, by decide, by decide +kernel, rfl⟩⟩

theorem twin_gates_run (leakage : SplitLeakageReport ℚ) :
    ∃ report, runValidationGates (fun _ => false) twinStorage (twinRequest leakage) = .ok report :=
  ⟨_, rfl⟩

/-- Twins in two splits beside a column that matches the target: the leakage report
blocks training and evaluation, the gates report training alone. -/
theorem twins_unblock_evaluation : ∃ leakage report,
    runSplitLeakageChecks twinManifest (some leakProfile) twinTable = .ok leakage ∧
      runValidationGates (fun _ => false) twinStorage (twinRequest leakage) = .ok report ∧
      leakage.blockModelEvaluation = true ∧ report.blockModelEvaluation = false := by
  obtain ⟨leakage, hleakage⟩ := twin_checks_run (some leakProfile)
  obtain ⟨report, hreport⟩ := twin_gates_run leakage
  obtain ⟨hevaluation, htraining, -⟩ := leakage_flags hleakage
  obtain ⟨-, hreportEvaluation⟩ := flags_of_run hreport
  have hconfirmed : leakage.blockTraining = true :=
    htraining.mpr ⟨leakProfile, rfl, ⟨literal "income", literal "high_target_match_rate"⟩, by
      simp [leakProfile], rfl⟩
  refine ⟨leakage, report, hleakage, hreport, hevaluation.mpr (.inl ?_), ?_⟩
  · rw [← crossing_ne_nil_iff]
    decide +kernel
  · rw [hreportEvaluation, ← Bool.not_eq_true, twinRequest, (splitLeakageGate_blocks leakage).2,
      hconfirmed]
    simp

theorem flagsSurvive_twins : ∃ leakage report,
    runSplitLeakageChecks twinManifest none twinTable = .ok leakage ∧
      runValidationGates (fun _ => false) twinStorage (twinRequest leakage) = .ok report ∧
      FlagsSurvive leakage report := by
  obtain ⟨leakage, hleakage⟩ := twin_checks_run none
  obtain ⟨report, hreport⟩ := twin_gates_run leakage
  refine ⟨leakage, report, hleakage, hreport, ?_⟩
  have hgates : runValidationGates (fun _ => false) twinStorage
      { twinRequest leakage with splitLeakageReport := some leakage } = .ok report := hreport
  apply (flagsSurvive_iff hleakage hgates).mpr
  rintro ⟨-, _, hnone, -⟩
  cases hnone

end Survival

end DataForge.Plugins.Validation.LeakageFlags
