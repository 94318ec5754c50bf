import DataForge.Kernel.DatasetScore
import DataForge.Kernel.DecisionReport

namespace DataForge.Kernel.GateDominance

open DataForge.Foundation.Outcome
open DataForge.Foundation.Dictionary
open DataForge.Foundation.Scores
open DataForge.Domain.Common
open DataForge.Domain.Artifact
open DataForge.Domain.Evidence
open DataForge.Domain.Report
open DataForge.Kernel.Policy
open DataForge.Kernel.DecisionReport
open DataForge.Kernel.DatasetScore

section Blockers

/-- Every entry carries the blocker of its reason code. -/
def Sound (blockers : Dict NonEmptyStr CriticalBlocker) : Prop :=
  ∀ item ∈ blockers, item.2.code = upper item.1 ∧ item.2.severity = "critical"

/-- From one state of the blockers to a later one, exactly these reason codes are added. -/
structure Records (codes : NonEmptyStr → Prop) (d d' : Dict NonEmptyStr CriticalBlocker) :
    Prop where
  sound : Sound d → Sound d'
  keys : ∀ code, code ∈ d'.map Prod.fst ↔ code ∈ d.map Prod.fst ∨ codes code

variable {codes codes' : NonEmptyStr → Prop} {d d' d'' : Dict NonEmptyStr CriticalBlocker}

theorem Records.same (h : ∀ code, codes code → code ∈ d.map Prod.fst) : Records codes d d :=
  ⟨id, fun code => ⟨Or.inl, fun hcode => hcode.elim id (h code)⟩⟩

theorem Records.set {code : NonEmptyStr} {blocker : CriticalBlocker}
    (hsound : Sound d → blocker.code = upper code ∧ blocker.severity = "critical") :
    Records (· = code) d (set code blocker d) := by
  constructor
  · intro hd item hitem
    rcases mem_set hitem with hitem | rfl
    · exact hd item hitem
    · exact hsound hd
  · intro other
    rw [mem_keys_set]
    exact Or.comm

theorem Records.trans (h : Records codes d d') (h' : Records codes' d' d'') :
    Records (fun code => codes code ∨ codes' code) d d'' := by
  refine ⟨h'.sound ∘ h.sound, fun code => ?_⟩
  rw [h'.keys, h.keys, or_assoc]

theorem Records.congr (h : Records codes d d') (hcodes : ∀ code, codes code ↔ codes' code) :
    Records codes' d d' :=
  ⟨h.sound, fun code => by rw [h.keys, hcodes]⟩

/-- A loop that cannot fail records what its rounds record. -/
theorem foldlM_records {α : Type} {step : Dict NonEmptyStr CriticalBlocker → α →
      Result (Dict NonEmptyStr CriticalBlocker)} {adds : α → NonEmptyStr → Prop} {xs : List α}
    (hstep : ∀ x ∈ xs, ∀ d, ∃ d', step d x = .ok d' ∧ Records (adds x) d d')
    (d : Dict NonEmptyStr CriticalBlocker) :
    ∃ d', xs.foldlM step d = .ok d' ∧ Records (fun code => ∃ x ∈ xs, adds x code) d d' := by
  induction xs generalizing d with
  | nil => exact ⟨d, rfl, Records.same fun code ⟨x, hx, _⟩ => absurd hx List.not_mem_nil⟩
  | cons x xs ih =>
    obtain ⟨d₁, hfirst, hrecords⟩ := hstep x List.mem_cons_self d
    obtain ⟨d₂, hrest, hrecords'⟩ := ih (fun y hy => hstep y (List.mem_cons_of_mem x hy)) d₁
    refine ⟨d₂, ?_, (hrecords.trans hrecords').congr fun code => by simp⟩
    rw [List.foldlM_cons, hfirst, ok_bind, hrest]

/-- The reason codes of the gates are registered. -/
def Registered (gates : List HardGateEvaluation) : Prop :=
  ∀ gate ∈ gates, ∃ definition, require gate.reasonCode = .ok definition

def Triggers (gate : HardGateEvaluation) (code : NonEmptyStr) : Prop :=
  gate.triggered = true ∧ gate.reasonCode = code

theorem addDatasetGate_records {gate : HardGateEvaluation}
    (hcode : ∃ definition, require gate.reasonCode = .ok definition)
    (d : Dict NonEmptyStr CriticalBlocker) :
    ∃ d', addDatasetGate d gate = .ok d' ∧ Records (Triggers gate) d d' := by
  obtain ⟨definition, hcode⟩ := hcode
  rw [addDatasetGate]
  by_cases htriggered : gate.triggered = true
  · have hblocker : criticalBlocker gate [] =
        .ok ⟨upper gate.reasonCode, "critical", definition.description, []⟩ := by
      rw [criticalBlocker, hcode, ok_bind, pure_eq]
    rw [if_pos htriggered, hblocker, ok_bind]
    refine ⟨_, rfl, ?_⟩
    split
    · next hpresent =>
      refine Records.same fun code ⟨_, heq⟩ => ?_
      rw [← heq]
      by_contra habsent
      rw [contains, get?_eq_none.mpr habsent] at hpresent
      exact absurd hpresent (by simp)
    · refine (Records.set fun _ => ⟨rfl, rfl⟩).congr fun code => ?_
      simp [Triggers, htriggered, eq_comm]
  · rw [if_neg htriggered]
    exact ⟨d, rfl, Records.same fun code ⟨h, _⟩ => absurd h htriggered⟩

theorem addObjectGate_records {gate : HardGateEvaluation}
    (hcode : ∃ definition, require gate.reasonCode = .ok definition) (refs : List EvidenceRef)
    (d : Dict NonEmptyStr CriticalBlocker) :
    ∃ d', addObjectGate refs d gate = .ok d' ∧ Records (Triggers gate) d d' := by
  obtain ⟨definition, hcode⟩ := hcode
  rw [addObjectGate]
  by_cases htriggered : gate.triggered = true
  · rw [if_pos htriggered, hcode, ok_bind]
    refine ⟨_, rfl, ?_⟩
    have hcodes : ∀ code, code = gate.reasonCode ↔ Triggers gate code := by
      simp [Triggers, htriggered, eq_comm]
    cases hget : get? gate.reasonCode d with
    | none => exact (Records.set fun _ => ⟨rfl, rfl⟩).congr hcodes
    | some existing =>
      refine (Records.set fun hd => ?_).congr hcodes
      exact hd _ (mem_of_get? hget)
  · rw [if_neg htriggered]
    exact ⟨d, rfl, Records.same fun code ⟨h, _⟩ => absurd h htriggered⟩

end Blockers

section Report

variable {F : Type} [ScoreLike F] {policy : DecisionPolicy F} {evidence : EvidenceBundle F}
  {inputs : PolicyInputEnvelope}

theorem registered_evaluateHardGates : Registered (evaluateHardGates policy inputs) := by
  intro gate hgate
  obtain ⟨rule, hrule, rfl⟩ := List.mem_map.mp hgate
  exact policy.gateCodes rule (List.mem_of_mem_filter hrule)

theorem registered_objectHardGates : Registered (objectHardGates policy evidence inputs) := by
  intro gate hgate
  obtain ⟨rule, hrule, rfl⟩ := List.mem_map.mp hgate
  exact policy.gateCodes rule hrule

theorem hardBlocked_iff :
    (evaluateObjectDecision policy evidence (some inputs)).hardBlocked = true ↔
    ∃ gate ∈ (evaluateObjectDecision policy evidence (some inputs)).hardGates,
      gate.triggered = true := by
  simp [evaluateObjectDecision]

theorem datasetGates_records {gates : List HardGateEvaluation} (h : Registered gates)
    (d : Dict NonEmptyStr CriticalBlocker) : ∃ d', gates.foldlM addDatasetGate d = .ok d' ∧
      Records (fun code => ∃ gate ∈ gates, Triggers gate code) d d' :=
  foldlM_records (fun gate hgate d => addDatasetGate_records (h gate hgate) d) d

theorem objectGates_records (policy : DecisionPolicy F) (inputs : PolicyInputEnvelope)
    (bundles : List (EvidenceBundle F)) (d : Dict NonEmptyStr CriticalBlocker) :
    ∃ d', (bundles.map fun evidence => objectContext evidence policy inputs).foldlM
        (fun blockers context => context.evaluation.hardGates.foldlM
          (addObjectGate context.evidence.evidenceRefs) blockers) d = .ok d' ∧
      Records (fun code => ∃ evidence ∈ bundles, ∃ gate ∈
        (evaluateObjectDecision policy evidence (some inputs)).hardGates, Triggers gate code)
          d d' := by
  rw [List.foldlM_map]
  apply foldlM_records
  intro evidence _ d
  apply foldlM_records
  intro gate hgate d
  exact addObjectGate_records (registered_objectHardGates gate hgate) _ d

/-- A gate evaluation of the dataset or of one of the objects triggers with this reason code. -/
def TriggeredCode (policy : DecisionPolicy F) (bundles : List (EvidenceBundle F))
    (inputs : PolicyInputEnvelope) (code : NonEmptyStr) : Prop :=
  (∃ gate ∈ evaluateHardGates policy inputs, Triggers gate code) ∨
    ∃ evidence ∈ bundles, ∃ gate ∈
      (evaluateObjectDecision policy evidence (some inputs)).hardGates, Triggers gate code

/-- The blockers are built without error, and are those of the triggered reason codes. -/
theorem criticalBlockers_spec (policy : DecisionPolicy F) (bundles : List (EvidenceBundle F))
    (inputs : PolicyInputEnvelope) :
    ∃ blockers, criticalBlockers (evaluateHardGates policy inputs)
        (bundles.map fun evidence => objectContext evidence policy inputs) = .ok blockers ∧
      (∀ code, TriggeredCode policy bundles inputs code →
        ∃ blocker ∈ blockers, blocker.code = upper code ∧ blocker.severity = "critical") ∧
      ((¬ ∃ code, TriggeredCode policy bundles inputs code) → blockers = []) := by
  have hregistered : Registered (evaluateHardGates policy inputs) := registered_evaluateHardGates
  obtain ⟨d, hdataset, hfirst⟩ := datasetGates_records hregistered []
  obtain ⟨d', hobjects, hsecond⟩ := objectGates_records policy inputs bundles d
  have hrecords := hfirst.trans hsecond
  have hsound : Sound d' := hrecords.sound fun item hitem => absurd hitem List.not_mem_nil
  have hkeys (code : NonEmptyStr) : code ∈ d'.map Prod.fst ↔
      TriggeredCode policy bundles inputs code := by
    rw [hrecords.keys, List.map_nil]
    exact ⟨fun h => h.resolve_left List.not_mem_nil, Or.inr⟩
  refine ⟨d'.map Prod.snd, ?_, fun code hcode => ?_, fun hnone => ?_⟩
  · rw [criticalBlockers, hdataset, ok_bind, hobjects, ok_bind, pure_eq]
  · obtain ⟨item, hitem, rfl⟩ := List.mem_map.mp ((hkeys code).mpr hcode)
    exact ⟨item.2, List.mem_map_of_mem hitem, hsound item hitem⟩
  · cases d' with
    | nil => rfl
    | cons item d' => exact absurd ⟨item.1, (hkeys item.1).mp (by simp)⟩ hnone

/-- A score of any request that carries the report is hard blocked. -/
def ScoreBlocked (p : Platform) (report : DecisionReport F) : Prop :=
  ∀ request : BuildDataForgeScoreRequest F, request.decisionReport = some report →
    (buildDataForgeScore p request).hardBlocked = true ∧
      (buildDataForgeScore p request).readinessStatus = .blocked

theorem scoreBlocked {p : Platform} {report : DecisionReport F}
    (h : report.readiness.status = .blocked) : ScoreBlocked p report := by
  intro request hrequest
  have hblocked : hardBlocked request.decisionReport = true := by simp [hrequest, hardBlocked, h]
  exact ⟨hblocked, if_pos hblocked⟩

/-- The report says that the dataset is blocked, with the blocker of this reason code. -/
structure Blocks (report : DecisionReport F) (code : NonEmptyStr) : Prop where
  decision : report.datasetDecision = .blocked
  readiness : report.readiness.status = .blocked
  score : report.readiness.score = Score.zero
  blocker : ∃ blocker ∈ report.criticalBlockers,
    blocker.code = upper code ∧ blocker.severity = "critical"

/-- The decision withholds the object of this evidence from export. -/
structure Withholds (decision : ObjectLevelDecision F) (evidence : EvidenceBundle F) : Prop where
  objectId : decision.objectId = evidence.objectId
  action : decision.action = .blockExport
  exportReady : ∃ blocked ∈ decision.blockedActions, blocked.action = .exportReady

/-- Triggered gates decide, whatever the scores; without one nothing is blocked. -/
theorem hard_gates_dominate (p : Platform) (policy : DecisionPolicy F)
    (bundles : List (EvidenceBundle F)) (request : BuildDecisionReportRequest)
    (inputs : Option PolicyInputEnvelope) (now : Datetime) :
    ∃ report, buildDecisionReport p bundles request policy inputs now = .ok report ∧
      (∀ code, TriggeredCode policy bundles (inputs.getD .empty) code →
        Blocks report code ∧ ScoreBlocked p report) ∧
      (∀ (i : Nat) evidence, bundles[i]? = some evidence →
        (∃ gate ∈ (evaluateObjectDecision policy evidence (some (inputs.getD .empty))).hardGates,
          gate.triggered = true) →
        ∃ decision, report.objectDecisions[i]? = some decision ∧ Withholds decision evidence) ∧
      ((¬ ∃ code, TriggeredCode policy bundles (inputs.getD .empty) code) →
        report.criticalBlockers = [] ∧
          ∀ decision ∈ report.objectDecisions, decision.action ≠ .blockExport) := by
  obtain ⟨blockers, hblockers, htriggered, hnone⟩ :=
    criticalBlockers_spec policy bundles (inputs.getD .empty)
  have hbuild : ∃ report, buildDecisionReport p bundles request policy inputs now = .ok report ∧
      report.criticalBlockers = blockers ∧
      report.objectDecisions = (bundles.map fun evidence =>
        objectContext evidence policy (inputs.getD .empty)).map ObjectDecisionContext.decision ∧
      report.readiness = readiness p blockers report.recommendedActions ∧
      report.datasetDecision = datasetDecision blockers report.recommendedActions := by
    rw [buildDecisionReport, hblockers, ok_bind]
    exact ⟨_, rfl, rfl, rfl, rfl, rfl⟩
  obtain ⟨report, hreport, rfl, hdecisions, hreadiness, hdecision⟩ := hbuild
  refine ⟨report, hreport, fun code hcode => ?_, fun i evidence hi hgate => ?_,
    fun hquiet => ⟨hnone hquiet, ?_⟩⟩
  · obtain ⟨blocker, hblocker, hcritical⟩ := htriggered code hcode
    have hne : report.criticalBlockers ≠ [] := List.ne_nil_of_mem hblocker
    rw [readiness, if_pos hne] at hreadiness
    rw [datasetDecision, if_pos hne] at hdecision
    have hstatus : report.readiness.status = .blocked := by rw [hreadiness]
    exact ⟨⟨hdecision, hstatus, by rw [hreadiness], blocker, hblocker, hcritical⟩,
      scoreBlocked hstatus⟩
  · have hblocked := hardBlocked_iff.mpr hgate
    refine ⟨(objectContext evidence policy (inputs.getD .empty)).decision, ?_, rfl,
      objectAction_eq_blockExport.mpr hblocked, exportReady_blocked hblocked⟩
    simp [hdecisions, hi]
  · intro decision hmem
    rw [hdecisions, List.map_map] at hmem
    obtain ⟨evidence, hevidence, rfl⟩ := List.mem_map.mp hmem
    intro haction
    obtain ⟨gate, hgate, htriggers⟩ := hardBlocked_iff.mp (objectAction_eq_blockExport.mp haction)
    exact hquiet ⟨gate.reasonCode, Or.inr ⟨evidence, hevidence, gate, hgate, htriggers, rfl⟩⟩

end Report

end DataForge.Kernel.GateDominance
