import DataForge.Reports.ReviewQueue

namespace DataForge.Reports.ReviewPriority

open DataForge.Foundation.Strings
open DataForge.Foundation.Numbers
open DataForge.Foundation.Scores
open DataForge.Foundation.OrderedScores
open DataForge.Domain.Common
open DataForge.Domain.Evidence
open DataForge.Reports.ReviewQueue
open FloatLike ScoreLike OrderedLike

/-- The signals whose risk has a direction. -/
inductive RiskSignal where
  | predictionMargin
  | technicalQuality
  | privacyRisk
  | duplicateScore
  | ambiguousObjectScore
  | modelUncertainty
  | probableLabelErrorScore
deriving DecidableEq

section Signals

variable {F : Type} [OrderedLike F]

namespace RiskSignal

def get (signals : EvidenceSignals F) : RiskSignal → NormalizedSignal F
  | predictionMargin => signals.predictionMargin
  | technicalQuality => signals.technicalQuality
  | privacyRisk => signals.privacyRisk
  | duplicateScore => signals.duplicateScore
  | ambiguousObjectScore => signals.ambiguousObjectScore
  | modelUncertainty => signals.modelUncertainty
  | probableLabelErrorScore => signals.probableLabelErrorScore

def put (signals : EvidenceSignals F) (signal : NormalizedSignal F) : RiskSignal → EvidenceSignals F
  | predictionMargin => { signals with predictionMargin := signal }
  | technicalQuality => { signals with technicalQuality := signal }
  | privacyRisk => { signals with privacyRisk := signal }
  | duplicateScore => { signals with duplicateScore := signal }
  | ambiguousObjectScore => { signals with ambiguousObjectScore := signal }
  | modelUncertainty => { signals with modelUncertainty := signal }
  | probableLabelErrorScore => { signals with probableLabelErrorScore := signal }

/-- A low margin and a low quality are risky, of the others the high values. -/
def Falls (kind : RiskSignal) : Prop := kind = predictionMargin ∨ kind = technicalQuality

instance (kind : RiskSignal) : Decidable kind.Falls := inferInstanceAs (Decidable (_ ∨ _))

def Riskier (kind : RiskSignal) (risky value : Score F) : Prop :=
  if kind.Falls then lt risky.1 value.1 = true else lt value.1 risky.1 = true

instance (kind : RiskSignal) (risky value : Score F) : Decidable (kind.Riskier risky value) :=
  inferInstanceAs (Decidable (ite kind.Falls _ _))

theorem get_put_self (signals : EvidenceSignals F) (signal : NormalizedSignal F)
    (kind : RiskSignal) : kind.get (kind.put signals signal) = signal := by
  cases kind <;> rfl

theorem get_put_ne (signals : EvidenceSignals F) (signal : NormalizedSignal F)
    {kind other : RiskSignal}
    (h : kind ≠ other) : other.get (kind.put signals signal) = other.get signals := by
  cases kind <;> cases other <;> first | rfl | exact absurd rfl h

theorem predictionConfidence_put (signals : EvidenceSignals F) (signal : NormalizedSignal F)
    (kind : RiskSignal) :
    (kind.put signals signal).predictionConfidence = signals.predictionConfidence := by
  cases kind <;> rfl

end RiskSignal

variable {signal signal' : NormalizedSignal F} {v v' : Score F} {x : F}

theorem below_zero (h : beq x (ofInt 0) = true) : Below x (ofInt 0) ∧ Below (ofInt 0) x := by
  obtain ⟨hx, hzero, hlow, hhigh⟩ := beq_iff.mp h
  exact ⟨⟨hx.trans hzero.symm, hhigh⟩, ⟨hzero.trans hx.symm, hlow⟩⟩

theorem valueOr_zero (h : signal.value = some v) :
    Below (valueOr signal 0) v.1 ∧ Below v.1 (valueOr signal 0) := by
  simp only [valueOr, h]
  split
  · next hzero => exact (below_zero hzero).symm
  · exact ⟨.refl _, .refl _⟩

theorem valueOr_one (h : signal.value = some v) (hzero : beq v.1 (ofInt 0) = false) :
    valueOr signal 1 = v.1 := by
  simp only [valueOr, h, hzero, Bool.false_eq_true, if_false]

theorem valueOr_one_zero (h : signal.value = some v) (hzero : beq v.1 (ofInt 0) = true) :
    valueOr signal 1 = ofInt 1 := by
  simp only [valueOr, h, hzero, if_true]

theorem inRange_valueOr (signal : NormalizedSignal F) : InRange 1 (valueOr signal 0) := by
  have hzero : InRange 1 (ofInt 0 : F) := inRange_ofInt (le_refl 0) Int.one_nonneg (by decide)
  rw [valueOr]
  split
  · exact hzero
  · next value _ =>
    split
    · exact hzero
    · exact value.2

/-- Of two values the larger one is not zero. -/
theorem beq_zero_of_lt (h : lt v'.1 v.1 = true) : beq v.1 (ofInt 0) = false := by
  rw [Bool.eq_false_iff]
  intro hzero
  have hlow : Below (ofInt 0) v'.1 := by
    refine ⟨?_, v'.2.1⟩
    rw [(Below.of_lt h).1, (below_zero hzero).1.1]
  have hnot := ((below_zero hzero).1.trans hlow).2
  rw [h] at hnot
  cases hnot

end Signals

section Values

variable {F : Type} [OrderedLike F] {queueType : ReviewQueueType} {reasonCodes : List Text}
  {signals : EvidenceSignals F} {signal : NormalizedSignal F} {kind : RiskSignal} {v v' : Score F}

/-- The queue looks at the complement of the signal, and takes a zero for a missing value. -/
def FallbackRead (kind : RiskSignal) (queueType : ReviewQueueType)
    (reasonCodes : List Text) : Prop :=
  kind = .predictionMargin ∧ queueType = .labelReview ∧ ambiguousObject ∈ reasonCodes ∨
    kind = .technicalQuality ∧ queueType = .annotationReview

/-- What else the queue takes into account beside such a signal. -/
def rivals (queueType : ReviewQueueType) (reasonCodes : List Text) (signals : EvidenceSignals F) :
    List F :=
  match queueType with
  | .labelReview => [valueOr signals.ambiguousObjectScore 0, valueOr signals.modelUncertainty 0] ++
      if probableLabelError ∈ reasonCodes then
        [valueOr signals.probableLabelErrorScore 0, valueOr signals.predictionConfidence 0]
      else []
  | _ => []

/-- The complement of the less risky value rounds to zero or to no more than a rival does
(or the first rival is no number, and then the priority is zero whatever the others are). -/
def Covered (queueType : ReviewQueueType) (reasonCodes : List Text) (signals : EvidenceSignals F)
    (v : Score F) : Prop :=
  (∃ y ∈ (rivals queueType reasonCodes signals).head?, isNan y = true) ∨
    ∃ y ∈ ofInt 0 :: rivals queueType reasonCodes signals,
      Below (roundTo 6 (complement v.1)) (roundTo 6 y)

theorem below_rising (hv : (kind.get signals).value = some v) (hv' : signal.value = some v')
    (hrisk : kind.Riskier v' v) (other : RiskSignal) (hother : ¬ other.Falls) :
    Below (valueOr (other.get signals) 0) (valueOr (other.get (kind.put signals signal)) 0) := by
  by_cases heq : kind = other
  · subst heq
    rw [RiskSignal.Riskier, if_neg hother] at hrisk
    rw [RiskSignal.get_put_self]
    exact (valueOr_zero hv).1.trans ((Below.of_lt hrisk).trans (valueOr_zero hv').2)
  · rw [RiskSignal.get_put_ne signals signal heq]
    exact .refl _

theorem below_falling (hv : (kind.get signals).value = some v) (hv' : signal.value = some v')
    (hrisk : kind.Riskier v' v) (other : RiskSignal) (hother : other.Falls)
    (hzero : kind = other → beq v'.1 (ofInt 0) = false) :
    Below (complement (valueOr (other.get signals) 1))
      (complement (valueOr (other.get (kind.put signals signal)) 1)) := by
  by_cases heq : kind = other
  · subst heq
    rw [RiskSignal.Riskier, if_pos hother] at hrisk
    rw [RiskSignal.get_put_self, valueOr_one hv (beq_zero_of_lt hrisk), valueOr_one hv' (hzero rfl)]
    exact (Below.of_lt hrisk).complement
  · rw [RiskSignal.get_put_ne signals signal heq]
    exact .refl _

/-- Where no zero is taken for a missing value, no value of the queue sinks. -/
theorem below_priorityValues (hv : (kind.get signals).value = some v) (hv' : signal.value = some v')
    (hrisk : kind.Riskier v' v)
    (hzero : FallbackRead kind queueType reasonCodes → beq v'.1 (ofInt 0) = false) :
    List.Forall₂ Below (priorityValues queueType reasonCodes signals)
      (priorityValues queueType reasonCodes (kind.put signals signal)) := by
  have hrising := below_rising hv hv' hrisk
  have hfalling := below_falling hv hv' hrisk
  cases queueType with
  | privacyReview => exact .cons (hrising .privacyRisk (by decide)) .nil
  | duplicateReview => exact .cons (hrising .duplicateScore (by decide)) .nil
  | annotationReview =>
    refine .cons (hfalling .technicalQuality (by decide) fun heq => ?_) .nil
    exact hzero (.inr ⟨heq, rfl⟩)
  | activeLearning => exact .nil
  | labelReview =>
    apply List.rel_append
    · split
      · next hambiguous =>
        refine .cons (hrising .ambiguousObjectScore (by decide))
          (.cons (hrising .modelUncertainty (by decide)) (.cons ?_ .nil))
        exact hfalling .predictionMargin (by decide) fun heq => hzero (.inl ⟨heq, rfl, hambiguous⟩)
      · exact .nil
    · split
      · refine .cons (hrising .probableLabelErrorScore (by decide)) (.cons ?_ .nil)
        rw [RiskSignal.predictionConfidence_put]
        exact .refl _
      · exact .nil

theorem lt_priority_of_not_fallback {bundle : EvidenceBundle F}
    (hv : (kind.get bundle.signals).value = some v) (hv' : signal.value = some v')
    (hrisk : kind.Riskier v' v)
    (hzero : FallbackRead kind queueType reasonCodes → beq v'.1 (ofInt 0) = false) :
    lt (priority queueType reasonCodes
          (some { bundle with signals := kind.put bundle.signals signal })).1
      (priority queueType reasonCodes (some bundle)).1 = false :=
  (below_rounded (below_maximum (below_priorityValues hv hv' hrisk hzero))).2

/-- Where a zero is taken for a missing value, the priority sinks unless a rival covers it. -/
theorem lt_priority_fallback_iff {bundle : EvidenceBundle F}
    (hv : (kind.get bundle.signals).value = some v) (hv' : signal.value = some v')
    (hrisk : kind.Riskier v' v) (hread : FallbackRead kind queueType reasonCodes)
    (hzero : beq v'.1 (ofInt 0) = true) :
    lt (priority queueType reasonCodes
          (some { bundle with signals := kind.put bundle.signals signal })).1
        (priority queueType reasonCodes (some bundle)).1 = false ↔
      Covered queueType reasonCodes bundle.signals v := by
  have hfalls : kind.Falls := hread.imp And.left And.left
  have hlt : lt v'.1 v.1 = true := by
    rw [RiskSignal.Riskier, if_pos hfalls] at hrisk
    exact hrisk
  have hless := valueOr_one hv (beq_zero_of_lt hlt)
  have hrange : InRange 1 (complement v.1) := inRange_complement v.2
  have hnumber : isNan (complement v.1) = false := by
    rw [complement, isNan_complement, ← (Below.of_lt hlt).1]
    exact (beq_iff.mp hzero).1
  have hfallback : complement (valueOr signal 1) = ofInt 0 := by
    rw [valueOr_one_zero hv' hzero, complement, complement_one]
  rcases hread with ⟨rfl, rfl, hambiguous⟩ | ⟨rfl, rfl⟩
  · let rest : List F :=
      if probableLabelError ∈ reasonCodes then
        [valueOr bundle.signals.probableLabelErrorScore 0,
          valueOr bundle.signals.predictionConfidence 0]
      else []
    let before : List F :=
      [valueOr bundle.signals.ambiguousObjectScore 0, valueOr bundle.signals.modelUncertainty 0]
    have hvalues : priorityValues .labelReview reasonCodes bundle.signals =
        before ++ complement v.1 :: rest := by
      rw [priorityValues, if_pos hambiguous]
      change [_, _, complement (valueOr bundle.signals.predictionMargin 1)] ++ rest = _
      rw [show valueOr bundle.signals.predictionMargin 1 = v.1 from hless]
      rfl
    have hzeros : priorityValues .labelReview reasonCodes
        (RiskSignal.predictionMargin.put bundle.signals signal) = before ++ ofInt 0 :: rest := by
      rw [priorityValues, if_pos hambiguous]
      change [_, _, complement (valueOr signal 1)] ++ rest = _
      rw [hfallback]
      rfl
    have hall : ∀ y ∈ before ++ rest, InRange 1 y := by
      intro y hy
      rcases List.mem_append.mp hy with hy | hy
      · simp only [before, List.mem_cons, List.not_mem_nil, or_false] at hy
        obtain rfl | rfl := hy <;> exact inRange_valueOr _
      · by_cases hprobable : probableLabelError ∈ reasonCodes
        · simp only [rest, if_pos hprobable, List.mem_cons, List.not_mem_nil, or_false] at hy
          obtain rfl | rfl := hy <;> exact inRange_valueOr _
        · simp only [rest, if_neg hprobable] at hy
          cases hy
    rw [priority, priority, hvalues, hzeros]
    exact rounded_maximum_zero_iff hrange hnumber hall
  · have hvalues : priorityValues .annotationReview reasonCodes bundle.signals =
        [] ++ complement v.1 :: [] := by
      change [complement (valueOr bundle.signals.technicalQuality 1)] = _
      rw [show valueOr bundle.signals.technicalQuality 1 = v.1 from hless]
      rfl
    have hzeros : priorityValues .annotationReview reasonCodes
        (RiskSignal.technicalQuality.put bundle.signals signal) = [] ++ ofInt 0 :: [] := by
      change [complement (valueOr signal 1)] = _
      rw [hfallback]
      rfl
    rw [priority, priority, hvalues, hzeros]
    exact rounded_maximum_zero_iff hrange hnumber (List.forall_mem_nil _)

end Values

section Queues

variable {F : Type} [OrderedLike F] {queueType : ReviewQueueType} {reasonCodes : List Text}
  {signal : NormalizedSignal F} {kind : RiskSignal} {v v' : Score F}

/-- The riskier evidence has no lower priority, and no queue shows its object behind that of the
other one, unless the priorities are equal and the ids decide. -/
structure RiskFirst (queueType : ReviewQueueType) (reasonCodes : List Text)
    (evidence risky : EvidenceBundle F) : Prop where
  priority : lt (priority queueType reasonCodes (some risky)).1
    (ReviewQueue.priority queueType reasonCodes (some evidence)).1 = false
  order : ∀ (items before middle after : List (ReviewQueueItem F)) (a b : ReviewQueueItem F),
    a.priority = ReviewQueue.priority queueType reasonCodes (some evidence) →
    b.priority = ReviewQueue.priority queueType reasonCodes (some risky) →
    queueObjects items = before ++ a :: (middle ++ b :: after) →
      lt a.priority.1 b.priority.1 = false ∧ lt b.priority.1 a.priority.1 = false ∧
        a.objectId.1 ≤ b.objectId.1

theorem riskFirst_of_priority {evidence risky : EvidenceBundle F}
    (h : lt (priority queueType reasonCodes (some risky)).1
      (priority queueType reasonCodes (some evidence)).1 = false) :
    RiskFirst queueType reasonCodes evidence risky := by
  refine ⟨h, fun items before middle after a b ha hb hqueue => ?_⟩
  rcases itemLe_of_queueObjects hqueue with hlt | ⟨hge, hid⟩
  · rw [ha, hb, h] at hlt
    cases hlt
  · exact ⟨hge, ha ▸ hb ▸ h, hid⟩

/-- Riskier evidence comes first exactly where the riskier value is no zero, or one that the queue
does not take for a missing value, or a rival covers the less risky one. -/
theorem riskFirst_iff {evidence : EvidenceBundle F}
    (hv : (kind.get evidence.signals).value = some v)
    (hv' : signal.value = some v') (hrisk : kind.Riskier v' v) :
    RiskFirst queueType reasonCodes evidence
        { evidence with signals := kind.put evidence.signals signal } ↔
      (FallbackRead kind queueType reasonCodes → beq v'.1 (ofInt 0) = true →
        Covered queueType reasonCodes evidence.signals v) := by
  constructor
  · intro h hread hzero
    exact (lt_priority_fallback_iff hv hv' hrisk hread hzero).mp h.priority
  · intro h
    apply riskFirst_of_priority
    cases hzero : beq v'.1 (ofInt 0) with
    | false => exact lt_priority_of_not_fallback hv hv' hrisk fun _ => hzero
    | true =>
      by_cases hread : FallbackRead kind queueType reasonCodes
      · exact (lt_priority_fallback_iff hv hv' hrisk hread hzero).mpr (h hread hzero)
      · exact lt_priority_of_not_fallback hv hv' hrisk fun h => absurd h hread

end Queues

section Examples

/-- Every signal is missing but the margin. -/
def marginSignals (margin : Score ℚ) : EvidenceSignals ℚ :=
  let missing : NormalizedSignal ℚ := .missing (literal "not computed")
  { technicalQuality := missing
    duplicateScore := missing
    privacyRisk := missing
    labelIssueScore := missing
    rareSegmentScore := missing
    businessImportance := missing
    modelUncertainty := missing
    predictionConfidence := missing
    predictionMargin := .available margin
    predictionEntropy := missing
    ambiguousObjectScore := missing
    probableLabelErrorScore := missing }

def marginBundle (margin : Score ℚ) : EvidenceBundle ℚ where
  evidenceBundleId := literal "bundle"
  objectId := literal "object"
  modality := .tabular
  signals := marginSignals margin
  evidenceRefs := []

theorem riskFirst_sample : RiskFirst .labelReview [ambiguousObject] (marginBundle (.fraction 2 1))
      (marginBundle (.fraction 1 1)) ↔
    (FallbackRead .predictionMargin .labelReview [ambiguousObject] →
      beq (Score.fraction (F := ℚ) 1 1).1 (ofInt 0) = true →
        Covered .labelReview [ambiguousObject] (marginSignals (.fraction 2 1)) (.fraction 2 1)) :=
  @riskFirst_iff ℚ _ .labelReview [ambiguousObject] (.available (.fraction 1 1)) .predictionMargin
    (.fraction 2 1) (.fraction 1 1) (marginBundle (.fraction 2 1)) rfl rfl (by decide +kernel)

/-- A margin of zero counts as a missing one, and the object with the margin 0.1 comes first. -/
theorem zero_margin_behind :
    RiskSignal.Riskier .predictionMargin (Score.zero (F := ℚ)) (.fraction 1 1) ∧
    ¬ RiskFirst .labelReview [ambiguousObject] (marginBundle (.fraction 1 1))
      (marginBundle .zero) := by
  refine ⟨by decide +kernel, fun h => ?_⟩
  exact absurd h.priority (by decide +kernel)

end Examples

end DataForge.Reports.ReviewPriority
