import DataForge.Foundation.Failures
import DataForge.Kernel.ActionPlanApproval
import DataForge.Kernel.AnalysisPreview

namespace DataForge.Kernel.PreviewFailures

open DataForge.Foundation.Strings
open DataForge.Foundation.Outcome
open DataForge.Foundation.Failures
open DataForge.Foundation.Dictionary
open DataForge.Domain.Common
open DataForge.Domain.Artifact
open DataForge.Domain.Decision
open DataForge.Kernel.ActionPlanPreview
open DataForge.Kernel.AnalysisPreview
open DataForge.Kernel.ActionPlanApproval

variable {p : Platform} {request : BuildActionPlanPreviewRequest}

section Stages

def IsPreviewError (e : Raised) : Prop :=
  ∃ (reasonCode message : String) (code : ErrorCode), e = previewError reasonCode message code

theorem recommendationsById_eq_ok {recommendations : List MethodRecommendation}
    {indexed : Dict NonEmptyStr MethodRecommendation} :
    recommendationsById recommendations = .ok indexed ↔
      (recommendations.map MethodRecommendation.recommendationId).Nodup ∧
        indexed = recommendations.map fun r => (r.recommendationId, r) := by
  constructor
  · intro h
    have hnodup : (recommendations.map MethodRecommendation.recommendationId).Nodup := by
      unfold recommendationsById at h
      dsimp only at h
      split at h
      · cases h
      · next hlength =>
        have hkeys : ((update [] (recommendations.map fun r => (r.recommendationId, r))).map
            Prod.fst).Nodup := nodup_keys_update (by simp) _
        have hsubset :
            (update [] (recommendations.map fun r => (r.recommendationId, r))).map Prod.fst ⊆
            recommendations.map MethodRecommendation.recommendationId := by
          intro id hid
          have hid' := mem_keys_update.mp hid
          simpa using hid'
        have hperm := (List.subperm_of_subset hkeys hsubset).perm_of_length_le (by
          rw [List.length_map, List.length_map, not_not.mp hlength])
        exact hperm.nodup_iff.mp hkeys
    rw [recommendationsById_of_nodup hnodup] at h
    exact ⟨hnodup, (Except.ok.inj h).symm⟩
  · rintro ⟨hnodup, rfl⟩
    exact recommendationsById_of_nodup hnodup

theorem recommendationsById_raises (recommendations : List MethodRecommendation) :
    RaisesOnly IsPreviewError (recommendationsById recommendations) := by
  unfold recommendationsById
  dsimp only
  split
  · exact .error ⟨_, _, _, rfl⟩
  · exact .ok _

theorem selectedRecommendation_raises (recommendations : Dict NonEmptyStr MethodRecommendation)
    (selectedId : NonEmptyStr) :
    RaisesOnly IsPreviewError (selectedRecommendation recommendations selectedId) := by
  unfold selectedRecommendation
  split
  · exact .ok _
  · exact .error ⟨_, _, _, rfl⟩

theorem selectCandidate_raises (recommendation : MethodRecommendation) (methodId : NonEmptyStr) :
    RaisesOnly IsPreviewError (selectCandidate recommendation methodId) := by
  unfold selectCandidate
  dsimp only
  split
  · exact .error ⟨_, _, _, rfl⟩
  · split
    · exact .error ⟨_, _, _, rfl⟩
    · split
      · exact .ok _
      · exact .error ⟨_, _, _, rfl⟩

theorem buildSteps_raises (selected : List MethodRecommendation) (steps : List ActionPlanStep) :
    RaisesOnly IsPreviewError (buildSteps p request selected steps) := by
  induction selected generalizing steps with
  | nil => exact .ok steps
  | cons recommendation rest ih =>
    rw [buildSteps]
    exact .bind (selectCandidate_raises _ _) fun _ _ => ih _

end Stages

section Selection

/-- The method that a selection asks for. -/
def chosenMethod (request : BuildActionPlanPreviewRequest) (recommendation : MethodRecommendation) :
    NonEmptyStr :=
  (get? recommendation.recommendationId request.selectedMethodOverrides).getD
    recommendation.recommendedMethod.methodId

/-- A method that is not blocked and whose candidate may be selected. -/
structure Selectable (recommendation : MethodRecommendation) (methodId : NonEmptyStr) : Prop where
  notBlocked : ∀ blocked ∈ recommendation.blockedMethods, blocked.methodId ≠ methodId
  candidate : ∃ candidate, candidateFor recommendation.candidateMethods methodId = some candidate ∧
    (candidate.status = .recommended ∨ candidate.status = .available) ∧
      candidate.policyStatus = .enabled

theorem get?_blocked_eq_none {recommendation : MethodRecommendation} {methodId : NonEmptyStr} :
    get? methodId (update [] (recommendation.blockedMethods.map fun b => (b.methodId, b))) = none ↔
      ∀ blocked ∈ recommendation.blockedMethods, blocked.methodId ≠ methodId := by
  rw [get?_eq_none, mem_keys_update, List.map_map]
  simp

theorem selectCandidate_eq_ok {recommendation : MethodRecommendation} {methodId : NonEmptyStr} :
    (∃ candidate, selectCandidate recommendation methodId = .ok candidate) ↔
      Selectable recommendation methodId := by
  constructor
  · rintro ⟨candidate, h⟩
    unfold selectCandidate at h
    dsimp only at h
    split at h
    · cases h
    · next hblocked =>
      split at h
      · cases h
      · next found hfound =>
        split at h
        · next hstatus => exact ⟨get?_blocked_eq_none.mp hblocked, found, hfound, hstatus⟩
        · cases h
  · rintro ⟨hblocked, candidate, hcandidate, hstatus⟩
    refine ⟨candidate, ?_⟩
    unfold selectCandidate
    dsimp only
    rw [get?_blocked_eq_none.mpr hblocked, hcandidate]
    exact if_pos hstatus

/-- The method of a selected candidate is the one that was asked for. -/
theorem methodId_of_selectCandidate {recommendation : MethodRecommendation} {methodId : NonEmptyStr}
    {candidate : MethodCandidate} (h : selectCandidate recommendation methodId = .ok candidate) :
    candidate.methodId = methodId := by
  unfold selectCandidate at h
  dsimp only at h
  split at h
  · cases h
  · split at h
    · cases h
    · next found hfound =>
      split at h
      · obtain rfl := Except.ok.inj h
        rw [candidateFor, get?_index] at hfound
        simpa using List.find?_some hfound
      · cases h

end Selection

section Steps

/-- Every step depends on the one before it, and on no other. -/
def Chained (steps : List ActionPlanStep) : Prop :=
  ∀ before step after, steps = before ++ step :: after →
    step.dependsOn = (before.getLast?.map ActionPlanStep.stepId).toList

theorem chained_append {steps : List ActionPlanStep} {step : ActionPlanStep} (h : Chained steps)
    (hstep : step.dependsOn = (steps.getLast?.map ActionPlanStep.stepId).toList) :
    Chained (steps ++ [step]) := by
  intro before other after hsteps
  rcases List.eq_nil_or_concat after with rfl | ⟨after, last, rfl⟩
  · obtain ⟨rfl, hlast⟩ := List.append_inj' hsteps rfl
    obtain rfl := List.singleton_inj.mp hlast
    exact hstep
  · have hshift : steps ++ [step] = (before ++ other :: after) ++ [last] := by
      rw [hsteps, List.concat_eq_append, List.append_assoc, List.cons_append]
    exact h before other after (List.append_inj' hshift rfl).1

def chosenStepId (p : Platform) (request : BuildActionPlanPreviewRequest)
    (recommendation : MethodRecommendation) : NonEmptyStr :=
  stepId p recommendation (chosenMethod request recommendation).1

/-- The steps of a preview, with what holds while they are built. -/
structure Built (p : Platform) (request : BuildActionPlanPreviewRequest)
    (selected : List MethodRecommendation) (steps built : List ActionPlanStep) : Prop where
  selectable : ∀ r ∈ selected, Selectable r (chosenMethod request r)
  stepIds : built.map ActionPlanStep.stepId =
    steps.map ActionPlanStep.stepId ++ selected.map (chosenStepId p request)
  closed : Closed steps → Closed built
  chained : Chained steps → Chained built

theorem built_of_buildSteps {selected : List MethodRecommendation}
    {steps built : List ActionPlanStep}
    (h : buildSteps p request selected steps = .ok built) :
    Built p request selected steps built := by
  induction selected generalizing steps with
  | nil =>
    obtain rfl := Except.ok.inj h
    exact ⟨fun _ hr => (List.not_mem_nil hr).elim, by simp, id, id⟩
  | cons recommendation rest ih =>
    rw [buildSteps] at h
    obtain ⟨candidate, hcandidate, hrest⟩ := bind_eq_ok.mp h
    have hmethod : candidate.methodId = chosenMethod request recommendation :=
      methodId_of_selectCandidate hcandidate
    obtain ⟨hselectable, hids, hclosed, hchained⟩ := ih hrest
    refine ⟨?_, ?_, ?_, ?_⟩
    · intro r hr
      rcases List.mem_cons.mp hr with rfl | hr
      · exact selectCandidate_eq_ok.mp ⟨candidate, hcandidate⟩
      · exact hselectable r hr
    · have hid : chosenStepId p request recommendation =
          stepId p recommendation candidate.methodId.1 := by
        rw [hmethod, chosenStepId]
      rw [hids, List.map_append, List.append_assoc, List.map_cons (l := rest), hid]
      rfl
    · exact fun hsteps =>
        hclosed (closed_append hsteps recommendation candidate request.inputArtifacts)
    · exact fun hsteps => hchained (chained_append hsteps rfl)

theorem exists_buildSteps {selected : List MethodRecommendation}
    (h : ∀ r ∈ selected, Selectable r (chosenMethod request r)) (steps : List ActionPlanStep) :
    ∃ built, buildSteps p request selected steps = .ok built := by
  induction selected generalizing steps with
  | nil => exact ⟨steps, rfl⟩
  | cons recommendation rest ih =>
    obtain ⟨candidate, hcandidate⟩ :=
      selectCandidate_eq_ok.mpr (h recommendation List.mem_cons_self)
    obtain ⟨built, hbuilt⟩ := ih (fun r hr => h r (List.mem_cons_of_mem _ hr))
      (steps ++ [buildStep p recommendation candidate
        (steps.getLast?.map ActionPlanStep.stepId).toList request.inputArtifacts])
    refine ⟨built, ?_⟩
    rw [buildSteps]
    exact bind_eq_ok.mpr ⟨candidate, hcandidate, hbuilt⟩

end Steps

section Outcome

/-- The recommendations that a request selects, each found under its id and with a method
that may be selected. -/
structure Selects (request : BuildActionPlanPreviewRequest) (selected : List MethodRecommendation) :
    Prop where
  distinct : (request.methodRecommendations.1.map MethodRecommendation.recommendationId).Nodup
  found : List.Forall₂ (fun id r => r ∈ request.methodRecommendations.1 ∧ r.recommendationId = id)
    request.selectedDecisionIds.1 selected
  selectable : ∀ r ∈ selected, Selectable r (chosenMethod request r)

theorem selectedRecommendation_eq_ok {recommendations : List MethodRecommendation}
    (h : (recommendations.map MethodRecommendation.recommendationId).Nodup) {id : NonEmptyStr}
    {recommendation : MethodRecommendation} :
    selectedRecommendation (recommendations.map fun r => (r.recommendationId, r)) id =
        .ok recommendation ↔
      recommendation ∈ recommendations ∧ recommendation.recommendationId = id := by
  have hkeys : ((recommendations.map fun r => (r.recommendationId, r)).map Prod.fst).Nodup := by
    rwa [List.map_map]
  rw [selectedRecommendation]
  constructor
  · intro hselected
    split at hselected
    · next found hfound =>
      obtain rfl := Except.ok.inj hselected
      obtain ⟨r, hr, hpair⟩ := List.mem_map.mp (mem_of_get? hfound)
      obtain ⟨rfl, rfl⟩ := Prod.mk.inj hpair
      exact ⟨hr, rfl⟩
    · cases hselected
  · rintro ⟨hmem, rfl⟩
    rw [get?_of_mem hkeys (List.mem_map_of_mem hmem)]

/-- The plan that a request builds before the model checks it. -/
theorem preview_of_selects {selected : List MethodRecommendation} (h : Selects request selected)
    (now : Datetime) :
    ∃ steps, Built p request selected [] steps ∧
      buildActionPlanPreview p request now = (planFields request now selected steps).validate := by
  have hselected : request.selectedDecisionIds.1.mapM (selectedRecommendation
      (request.methodRecommendations.1.map fun r => (r.recommendationId, r))) = .ok selected :=
    mapM_eq_ok_iff_forall₂.mpr
      (h.found.imp fun _ _ hfound => (selectedRecommendation_eq_ok h.distinct).mpr hfound)
  obtain ⟨steps, hsteps⟩ := @exists_buildSteps p request selected h.selectable []
  refine ⟨steps, built_of_buildSteps hsteps, ?_⟩
  rw [buildActionPlanPreview, recommendationsById_of_nodup h.distinct, ok_bind, hselected, ok_bind,
    hsteps, ok_bind]

theorem selects_of_steps {indexed : Dict NonEmptyStr MethodRecommendation}
    {selected : List MethodRecommendation} {steps : List ActionPlanStep}
    (hindexed : recommendationsById request.methodRecommendations.1 = .ok indexed)
    (hselected : request.selectedDecisionIds.1.mapM (selectedRecommendation indexed) = .ok selected)
    (hsteps : buildSteps p request selected [] = .ok steps) : Selects request selected := by
  obtain ⟨hnodup, rfl⟩ := recommendationsById_eq_ok.mp hindexed
  exact ⟨hnodup, (mapM_eq_ok_iff_forall₂.mp hselected).imp fun _ _ hfound =>
    (selectedRecommendation_eq_ok hnodup).mp hfound, (built_of_buildSteps hsteps).selectable⟩

theorem not_previewError_validation (model field : String) :
    ¬ IsPreviewError (.validation model field) := by
  rintro ⟨_, _, _, h⟩
  cases h

/-- What the caller of a preview may rely on: a chained plan with step ids of their own, or
the error of the preview. -/
def Settles (result : Result ActionPlan) : Prop :=
  (∃ plan, result = .ok plan ∧ (plan.steps.map ActionPlanStep.stepId).Nodup ∧ Chained plan.steps) ∨
    ∃ e, result = .error e ∧ IsPreviewError e

theorem settles_validate_iff {selected : List MethodRecommendation} {steps : List ActionPlanStep}
    (h : Built p request selected [] steps) (now : Datetime) :
    Settles (planFields request now selected steps).validate ↔
      (selected.map (chosenStepId p request)).Nodup := by
  have hids : steps.map ActionPlanStep.stepId = selected.map (chosenStepId p request) := h.stepIds
  rw [← hids]
  constructor
  · rintro (⟨plan, hplan, hnodup, -⟩ | ⟨e, he, hown⟩)
    · rwa [congrArg ActionPlanFields.steps (ActionPlanFields.validate_eq_ok hplan)] at hnodup
    · by_contra hrepeated
      have hrejected : (planFields request now selected steps).validate =
          .error (.validation "ActionPlan" "ActionPlan step_id values must be unique") :=
        dif_neg hrepeated
      obtain rfl := Except.error.inj (he.symm.trans hrejected)
      exact not_previewError_validation _ _ hown
  · intro hnodup
    have hclosed : Closed steps := h.closed fun _ hstep => (List.not_mem_nil hstep).elim
    have hchained : Chained steps := by
      apply h.chained
      intro before step after hnil
      simp at hnil
    refine .inl ⟨{ planFields request now selected steps with
      uniqueStepIds := hnodup, dependenciesExist := hclosed }, ?_, hnodup, hchained⟩
    exact (dif_pos hnodup).trans (dif_pos hclosed)

/-- The preview keeps to its own error exactly when the steps of what it selects have
different slugs. -/
theorem preview_settles_iff (p : Platform) (request : BuildActionPlanPreviewRequest)
    (now : Datetime) :
    Settles (buildActionPlanPreview p request now) ↔
      ∀ selected, Selects request selected → (selected.map (chosenStepId p request)).Nodup := by
  constructor
  · intro h selected hselects
    obtain ⟨steps, hbuilt, hpreview⟩ := @preview_of_selects p request selected hselects now
    rw [hpreview] at h
    exact (settles_validate_iff hbuilt now).mp h
  · intro h
    rw [buildActionPlanPreview]
    cases hindexed : recommendationsById request.methodRecommendations.1 with
    | error e => exact .inr ⟨e, rfl, recommendationsById_raises _ e hindexed⟩
    | ok indexed =>
      rw [ok_bind]
      cases hselected : request.selectedDecisionIds.1.mapM (selectedRecommendation indexed) with
      | error e =>
        refine .inr ⟨e, rfl, ?_⟩
        exact RaisesOnly.mapM (fun id _ => selectedRecommendation_raises indexed id) e hselected
      | ok selected =>
        rw [ok_bind]
        cases hsteps : buildSteps p request selected [] with
        | error e => exact .inr ⟨e, rfl, buildSteps_raises _ _ e hsteps⟩
        | ok steps =>
          rw [ok_bind]
          exact (settles_validate_iff (built_of_buildSteps hsteps) now).mpr
            (h selected (selects_of_steps hindexed hselected hsteps))

end Outcome

section Example

/-- The request of one imputation, selected twice. -/
def repeatedSelection : BuildActionPlanPreviewRequest :=
  { imputeRequest with
    selectedDecisionIds :=
      ⟨[imputeRecommendation.recommendationId, imputeRecommendation.recommendationId],
        List.cons_ne_nil _ _⟩ }

/-- A decision that is selected twice escapes as a validation error of the plan. -/
theorem repeated_selection_escapes :
    ¬ ∀ (p : Platform) (request : BuildActionPlanPreviewRequest) (now : Datetime),
      Settles (buildActionPlanPreview p request now) := by
  intro h
  have hselects : Selects repeatedSelection [imputeRecommendation, imputeRecommendation] := by
    refine ⟨List.nodup_singleton _, ?_, ?_⟩
    · have hfound : imputeRecommendation ∈ repeatedSelection.methodRecommendations.1 ∧
          imputeRecommendation.recommendationId = imputeRecommendation.recommendationId :=
        ⟨List.mem_singleton_self _, rfl⟩
      exact .cons hfound (.cons hfound .nil)
    · intro r hr
      obtain rfl : r = imputeRecommendation := by simpa using hr
      exact selectCandidate_eq_ok.mp ⟨_, selectCandidate_offered rfl⟩
  obtain ⟨steps, hbuilt, hpreview⟩ :=
    @preview_of_selects asciiPlatform repeatedSelection _ hselects ⟨0, some 0⟩
  have hsettles := h asciiPlatform repeatedSelection ⟨0, some 0⟩
  rw [hpreview, settles_validate_iff hbuilt] at hsettles
  simp at hsettles

end Example

end DataForge.Kernel.PreviewFailures
