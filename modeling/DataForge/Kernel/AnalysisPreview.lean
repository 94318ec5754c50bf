import Mathlib.Data.Set.Function
import DataForge.Kernel.MethodSelection
import DataForge.Kernel.Slugs

namespace DataForge.Kernel.AnalysisPreview

open DataForge.Foundation.Strings
open DataForge.Foundation.Scores
open DataForge.Foundation.Outcome
open DataForge.Foundation.Dictionary
open DataForge.Foundation.Json
open DataForge.Domain.Common
open DataForge.Domain.Artifact
open DataForge.Domain.Decision
open DataForge.Domain.TabularProfile
open DataForge.Kernel.ActionPlanPreview
open DataForge.Kernel.MethodSelection (BuildMethodRecommendationsRequest buildMethodRecommendations
  imputationRecommendations rareClassRecommendations imputedColumn isNumeric isSegmentDependent
  imputationMethod buildNumericImputationRecommendation buildRareClassRecommendation classWeights
  candidateFor_imputationMethod candidateFor_classWeights)
open DataForge.Kernel.Slugs

section Preview

variable {p : Platform} {request : BuildActionPlanPreviewRequest}

/-- The recommended method of a recommendation is one that may be selected. -/
def Offered (recommendation : MethodRecommendation) : Prop :=
  candidateFor recommendation.candidateMethods recommendation.recommendedMethod.methodId =
    some ⟨recommendation.recommendedMethod.methodId, .recommended, .enabled⟩

theorem selectCandidate_offered {recommendation : MethodRecommendation}
    (h : Offered recommendation) :
    selectCandidate recommendation recommendation.recommendedMethod.methodId =
      .ok ⟨recommendation.recommendedMethod.methodId, .recommended, .enabled⟩ := by
  have hblocked : get? recommendation.recommendedMethod.methodId
      (update [] (recommendation.blockedMethods.map fun b => (b.methodId, b))) = none := by
    rw [get?_eq_none, mem_keys_update]
    rintro (hmem | hmem)
    · exact absurd hmem List.not_mem_nil
    · rw [List.map_map] at hmem
      obtain ⟨b, hb, hid⟩ := List.mem_map.mp hmem
      exact recommendation.recommendedNotBlocked b hb hid
  rw [selectCandidate, hblocked]
  simp only [Offered] at h
  simp only [h]
  rfl

def recommendedStepId (p : Platform) (recommendation : MethodRecommendation) : NonEmptyStr :=
  stepId p recommendation recommendation.recommendedMethod.methodId.1

/-- The dependencies of the steps are among the steps. -/
def Closed (steps : List ActionPlanStep) : Prop :=
  ∀ step ∈ steps, ∀ d ∈ step.dependsOn, d ∈ steps.map ActionPlanStep.stepId

theorem closed_append {steps : List ActionPlanStep} (h : Closed steps)
    (recommendation : MethodRecommendation) (candidate : MethodCandidate) (inputs : List S3Uri) :
    Closed (steps ++ [buildStep p recommendation candidate
      (steps.getLast?.map ActionPlanStep.stepId).toList inputs]) := by
  intro step hstep d hd
  rw [List.map_append, List.mem_append]
  rcases List.mem_append.mp hstep with hstep | hstep
  · exact .inl (h step hstep d hd)
  · obtain rfl := List.mem_singleton.mp hstep
    obtain ⟨last, hlast, rfl⟩ := Option.map_eq_some_iff.mp (Option.mem_toList.mp hd)
    exact .inl (List.mem_map_of_mem (List.mem_of_getLast? hlast))

/-- Without overrides every offered recommendation adds the step of its own method. -/
theorem buildSteps_offered (hnone : request.selectedMethodOverrides = [])
    {recommendations : List MethodRecommendation} (hoffered : ∀ r ∈ recommendations, Offered r)
    {steps : List ActionPlanStep} (hclosed : Closed steps) :
    ∃ built, buildSteps p request recommendations steps = .ok built ∧ Closed built ∧
      built.map ActionPlanStep.stepId =
        steps.map ActionPlanStep.stepId ++ recommendations.map (recommendedStepId p) := by
  induction recommendations generalizing steps with
  | nil => exact ⟨steps, rfl, hclosed, by simp⟩
  | cons recommendation rest ih =>
    have hselect := selectCandidate_offered (hoffered _ List.mem_cons_self)
    rw [buildSteps, hnone]
    simp only [get?_nil, Option.getD_none, hselect, ok_bind]
    obtain ⟨built, hbuilt, hclosed', hids⟩ :=
      ih (fun r hr => hoffered r (List.mem_cons_of_mem _ hr))
      (closed_append hclosed _ _ _)
    refine ⟨built, hbuilt, hclosed', ?_⟩
    rw [hids, List.map_append, List.append_assoc]
    rfl

theorem recommendationsById_of_nodup {recommendations : List MethodRecommendation}
    (h : (recommendations.map MethodRecommendation.recommendationId).Nodup) :
    recommendationsById recommendations =
      .ok (recommendations.map fun r => (r.recommendationId, r)) := by
  have hkeys : ((recommendations.map fun r => (r.recommendationId, r)).map Prod.fst).Nodup := by
    rwa [List.map_map]
  have hindexed : update [] (recommendations.map fun r => (r.recommendationId, r)) =
      recommendations.map fun r => (r.recommendationId, r) :=
    update_eq_append hkeys
  rw [recommendationsById, hindexed, if_neg (by simp)]

theorem selected_all {recommendations : List MethodRecommendation}
    (h : (recommendations.map MethodRecommendation.recommendationId).Nodup) :
    (recommendations.map MethodRecommendation.recommendationId).mapM
      (selectedRecommendation (recommendations.map fun r => (r.recommendationId, r))) =
        .ok recommendations := by
  have hget : ∀ r ∈ recommendations, selectedRecommendation
      (recommendations.map fun r => (r.recommendationId, r)) r.recommendationId = .ok r := by
    intro r hr
    have hfound : get? r.recommendationId (recommendations.map fun r => (r.recommendationId, r)) =
        some r := by
      refine get?_of_mem ?_ (List.mem_map_of_mem hr)
      rwa [List.map_map]
    rw [selectedRecommendation, hfound]
  generalize (recommendations.map fun r => (r.recommendationId, r)) = indexed at hget
  clear h
  induction recommendations with
  | nil => rfl
  | cons r rest ih =>
    rw [List.map_cons, List.mapM_cons, hget r List.mem_cons_self, ok_bind,
      ih fun r hr => hget r (List.mem_cons_of_mem _ hr)]
    rfl

/-- Recommendations whose ids and whose steps' ids are distinct can be previewed together. -/
theorem preview_offered {recommendations : List MethodRecommendation}
    (hrecommendations : request.methodRecommendations.1 = recommendations)
    (hselected : request.selectedDecisionIds.1 =
      recommendations.map MethodRecommendation.recommendationId)
    (hnone : request.selectedMethodOverrides = []) (hoffered : ∀ r ∈ recommendations, Offered r)
    (hids : (recommendations.map MethodRecommendation.recommendationId).Nodup)
    (hsteps : (recommendations.map (recommendedStepId p)).Nodup) (now : Datetime) :
    ∃ plan, buildActionPlanPreview p request now = .ok plan := by
  have hempty : Closed [] := fun _ h => absurd h List.not_mem_nil
  obtain ⟨built, hbuilt, hclosed, hbuiltIds⟩ := buildSteps_offered (p := p) hnone hoffered hempty
  rw [buildActionPlanPreview, hrecommendations, recommendationsById_of_nodup hids, ok_bind,
    hselected, selected_all hids, ok_bind, hbuilt, ok_bind, ActionPlanFields.validate,
    dif_pos, dif_pos]
  · exact ⟨_, rfl⟩
  · exact hclosed
  · show (built.map ActionPlanStep.stepId).Nodup
    rw [hbuiltIds]
    exact hsteps

end Preview

section Recommendations

variable {F : Type} [ScoreLike F] {p : Platform}

/-- A column that gets a recommendation: numeric, not the target, with values missing. -/
def NeedsImputation (profile : TabularProfileReport F) (name : NonEmptyStr) : Prop :=
  ∃ diagnostics ∈ profile.missingness, some name.1 ≠ diagnostics.targetColumn ∧
    (∃ missingness ∈ diagnostics.columns, missingness.column = name ∧
      missingness.missingCount ≠ 0) ∧
    ∃ column ∈ profile.columns, column.name = name ∧ isNumeric column = true

/-- The entries of the profile that get a recommendation, each with its column. -/
def imputed (profile : TabularProfileReport F) (diagnostics : MissingnessDiagnostics F) :
    List (ColumnMissingness F × ColumnProfile) :=
  diagnostics.columns.filterMap fun missingness =>
    (imputedColumn profile diagnostics.targetColumn missingness).map fun column =>
      (missingness, column)

theorem imputedColumn_eq_some {profile : TabularProfileReport F} (h : profile.names.Nodup)
    {targetColumn : Option Text} {missingness : ColumnMissingness F} {column : ColumnProfile} :
    imputedColumn profile targetColumn missingness = some column ↔
      missingness.missingCount ≠ 0 ∧ some missingness.column.1 ≠ targetColumn ∧
        column ∈ profile.columns ∧ column.name = missingness.column ∧ isNumeric column = true := by
  have hkeys : ((profile.columns.map fun c => (c.name, c)).map Prod.fst).Nodup := by
    rw [List.map_map]
    exact h
  have hindexed : update [] (profile.columns.map fun c => (c.name, c)) =
      profile.columns.map fun c => (c.name, c) := update_eq_append hkeys
  have hget : get? missingness.column (profile.columns.map fun c => (c.name, c)) = some column ↔
      column ∈ profile.columns ∧ column.name = missingness.column := by
    constructor
    · intro hfound
      obtain ⟨c, hc, heq⟩ := List.mem_map.mp (mem_of_get? hfound)
      obtain ⟨hname, rfl⟩ := Prod.mk.inj heq
      exact ⟨hc, hname⟩
    · rintro ⟨hc, hname⟩
      exact get?_of_mem hkeys (List.mem_map.mpr ⟨column, hc, by rw [hname]⟩)
  rw [imputedColumn, hindexed]
  by_cases hzero : missingness.missingCount = 0
  · simp [hzero]
  · by_cases htarget : some missingness.column.1 = targetColumn
    · simp [htarget]
    · rw [if_neg hzero, if_neg htarget, Option.filter_eq_some_iff, hget]
      simp [hzero, htarget, and_assoc]

theorem needsImputation_of_imputed {profile : TabularProfileReport F} (h : profile.names.Nodup)
    {diagnostics : MissingnessDiagnostics F} (hsome : profile.missingness = some diagnostics)
    {entry : ColumnMissingness F × ColumnProfile} (hentry : entry ∈ imputed profile diagnostics) :
    NeedsImputation profile entry.2.name ∧ entry.2.name = entry.1.column := by
  obtain ⟨missingness, hmem, hpair⟩ := List.mem_filterMap.mp hentry
  obtain ⟨column, hcolumn, rfl⟩ := Option.map_eq_some_iff.mp hpair
  obtain ⟨hcount, htarget, hc, hname, hnumeric⟩ := (imputedColumn_eq_some h).mp hcolumn
  refine ⟨⟨diagnostics, hsome, ?_, ⟨missingness, hmem, hname.symm, hcount⟩, column, hc, rfl,
    hnumeric⟩,
    hname⟩
  rw [hname]
  exact htarget

theorem imputed_of_needsImputation {profile : TabularProfileReport F} (h : profile.names.Nodup)
    {name : NonEmptyStr} (hneeds : NeedsImputation profile name) :
    ∃ diagnostics, profile.missingness = some diagnostics ∧
      ∃ entry ∈ imputed profile diagnostics, entry.2.name = name := by
  obtain ⟨diagnostics, hsome, htarget, ⟨missingness, hmem, rfl, hcount⟩, column, hc, hname,
      hnumeric⟩ :=
    hneeds
  refine ⟨diagnostics, hsome, (missingness, column),
    List.mem_filterMap.mpr ⟨missingness, hmem, ?_⟩, hname⟩
  rw [(imputedColumn_eq_some h).mpr ⟨hcount, htarget, hc, hname, hnumeric⟩]
  rfl

theorem nodup_imputed {profile : TabularProfileReport F} (h : OfTable profile)
    {diagnostics : MissingnessDiagnostics F} (hsome : profile.missingness = some diagnostics) :
    ((imputed profile diagnostics).map fun entry => entry.2.name).Nodup := by
  have hnames : (imputed profile diagnostics).map (fun entry => entry.2.name) =
      (imputed profile diagnostics).map fun entry => entry.1.column :=
    List.map_congr_left fun entry hentry => (needsImputation_of_imputed h.distinct hsome hentry).2
  have hsublist : (imputed profile diagnostics).map (fun entry => entry.1.column) |>.Sublist
      (diagnostics.columns.map ColumnMissingness.column) := by
    rw [imputed]
    induction diagnostics.columns with
    | nil => exact List.Sublist.refl _
    | cons missingness columns ih =>
      cases hcolumn : imputedColumn profile diagnostics.targetColumn missingness with
      | none => simpa [List.filterMap_cons, hcolumn] using ih.cons _
      | some column => simpa [List.filterMap_cons, hcolumn] using ih
  rw [hnames]
  refine hsublist.nodup ?_
  rw [h.measured diagnostics hsome]
  exact h.distinct

theorem imputationRecommendations_eq {request : BuildMethodRecommendationsRequest F}
    {number : F → Value} {diagnostics : MissingnessDiagnostics F}
    (hsome : request.tabularProfile.missingness = some diagnostics) :
    imputationRecommendations p number request =
      (imputed request.tabularProfile diagnostics).map fun entry =>
        buildNumericImputationRecommendation p number entry.1 entry.2 diagnostics.targetColumn
          request.policyVersion := by
  rw [imputationRecommendations, hsome, imputed, List.map_filterMap]
  simp only [Option.map_map]
  rfl

/-- The recommendations for columns are those of the columns that need them, once each. -/
theorem exists_entries {request : BuildMethodRecommendationsRequest F}
    (h : OfTable request.tabularProfile) (number : F → Value) :
    ∃ (entries : List (ColumnMissingness F × ColumnProfile)) (targetColumn : Option Text),
      imputationRecommendations p number request = entries.map (fun entry =>
        buildNumericImputationRecommendation p number entry.1 entry.2 targetColumn
          request.policyVersion) ∧
      (entries.map fun entry => entry.2.name).Nodup ∧
      ∀ name, NeedsImputation request.tabularProfile name ↔
        name ∈ entries.map fun entry => entry.2.name := by
  cases hmissingness : request.tabularProfile.missingness with
  | none =>
    refine ⟨[], none, ?_, List.nodup_nil,
      fun name => ⟨?_, fun hmem => absurd hmem List.not_mem_nil⟩⟩
    · rw [imputationRecommendations, hmissingness]
      rfl
    · rintro ⟨diagnostics, hsome, -⟩
      rw [hmissingness] at hsome
      cases hsome
  | some diagnostics =>
    refine ⟨imputed request.tabularProfile diagnostics, diagnostics.targetColumn,
      imputationRecommendations_eq hmissingness, nodup_imputed h hmissingness, fun name => ⟨?_, ?_⟩⟩
    · intro hneeds
      obtain ⟨found, hfound, entry, hentry, rfl⟩ := imputed_of_needsImputation h.distinct hneeds
      obtain rfl := Option.some.inj (hmissingness.symm.trans hfound)
      exact List.mem_map_of_mem hentry
    · intro hmem
      obtain ⟨entry, hentry, rfl⟩ := List.mem_map.mp hmem
      exact (needsImputation_of_imputed h.distinct hmissingness hentry).1

theorem exists_labels (request : BuildMethodRecommendationsRequest F) (number : F → Value) :
    ∃ labels : List (ClassImbalanceDiagnostics F), labels.length ≤ 1 ∧
      rareClassRecommendations p number request = labels.map fun classImbalance =>
        buildRareClassRecommendation p number classImbalance request.policyVersion := by
  rw [rareClassRecommendations]
  split
  · exact ⟨[], by simp, rfl⟩
  · next classImbalance _ =>
    split
    · exact ⟨[classImbalance], by simp, rfl⟩
    · exact ⟨[], by simp, rfl⟩

end Recommendations

section Ids

variable {F : Type} [ScoreLike F] {p : Platform}

theorem isSlug_slug (value : Text) : IsSlug (MethodSelection.slug p value).1 := by
  rw [MethodSelection.slug]
  split
  · have hvalue : stripBy (· == '_') (collapse false "value".toList) = "value".toList := by decide
    show IsSlug "value".toList
    rw [← hvalue]
    exact isSlug_stripped _
  · exact isSlug_stripped _

/-- How the step of an imputation is called, up to the column. -/
def imputationOpening (segmentDependent : Bool) : Text :=
  if segmentDependent then "IMPUTE_MISSING_VALUES_group_median_issue_missing_".toList
  else "IMPUTE_MISSING_VALUES_median_issue_missing_".toList

def rareClassOpening : Text := "AUGMENT_RARE_CLASS_class_weights_issue_rare_class_".toList

theorem tidy_of_collapse {s : Text} (h : collapse false s = s) : Tidy s :=
  h ▸ (tidy_collapse false s).1

theorem stepId_imputation (number : F → Value) (missingness : ColumnMissingness F)
    (column : ColumnProfile) (targetColumn : Option Text) (policyVersion : NonEmptyStr) :
    (recommendedStepId p
      (buildNumericImputationRecommendation p number missingness column targetColumn
      policyVersion)).1 = (imputationOpening (isSegmentDependent missingness)).map Char.toLower ++
        (MethodSelection.slug p column.name.1).1 := by
  have htext :
      stepId p (buildNumericImputationRecommendation p number missingness column targetColumn
      policyVersion) (imputationMethod (isSegmentDependent missingness)).1 =
        slug p (imputationOpening (isSegmentDependent missingness) ++
          (MethodSelection.slug p column.name.1).1) := by
    cases isSegmentDependent missingness <;> rfl
  show (stepId p _ (imputationMethod (isSegmentDependent missingness)).1).1 = _
  rw [htext]
  refine slug_append ?_ (tidy_of_collapse ?_) ?_ (isSlug_slug _) (MethodSelection.slug p _).2
  all_goals cases isSegmentDependent missingness <;> decide

theorem stepId_rareClass (number : F → Value) (classImbalance : ClassImbalanceDiagnostics F)
    (policyVersion : NonEmptyStr) :
    (recommendedStepId p (buildRareClassRecommendation p number classImbalance policyVersion)).1 =
      rareClassOpening.map Char.toLower ++
        (MethodSelection.slug p classImbalance.rareClassLabel.1).1 := by
  have htext :
      recommendedStepId p (buildRareClassRecommendation p number classImbalance policyVersion) =
      slug p (rareClassOpening ++ (MethodSelection.slug p classImbalance.rareClassLabel.1).1) := rfl
  rw [htext]
  refine slug_append ?_ (tidy_of_collapse ?_) ?_ (isSlug_slug _) (MethodSelection.slug p _).2
  all_goals decide

/-- Texts agree only where their first characters do. -/
theorem append_ne_append {a b : Text} (n : Nat) (ha : n ≤ a.length) (hb : n ≤ b.length)
    (hne : a.take n ≠ b.take n) (s t : Text) : a ++ s ≠ b ++ t := by
  intro h
  apply hne
  rw [← List.take_append_of_le_length ha, h, List.take_append_of_le_length hb]

theorem imputationOpening_append_inj {b c : Bool} {s t : Text}
    (h : (imputationOpening b).map Char.toLower ++ s =
      (imputationOpening c).map Char.toLower ++ t) :
    s = t := by
  cases b <;> cases c
  · exact List.append_cancel_left h
  · exact absurd h (append_ne_append 23 (by decide) (by decide) (by decide) s t)
  · exact absurd h (append_ne_append 23 (by decide) (by decide) (by decide) s t)
  · exact List.append_cancel_left h

theorem imputation_ne_rareClass (b : Bool) (s t : Text) :
    (imputationOpening b).map Char.toLower ++ s ≠ rareClassOpening.map Char.toLower ++ t := by
  cases b <;> exact append_ne_append 1 (by decide) (by decide) (by decide) s t

end Ids

section Analysis

variable {F : Type} [ScoreLike F] {p : Platform}

/-- All of an analysis's recommendations have their own ids, and a preview that selects
all of them in order, without overrides, returns a plan. -/
structure Previewable (p : Platform) (recommendations : List MethodRecommendation) : Prop where
  ids : (recommendations.map MethodRecommendation.recommendationId).Nodup
  preview : ∀ (request : BuildActionPlanPreviewRequest) (now : Datetime),
    request.methodRecommendations.1 = recommendations →
    request.selectedDecisionIds.1 = recommendations.map MethodRecommendation.recommendationId →
    request.selectedMethodOverrides = [] → ∃ plan, buildActionPlanPreview p request now = .ok plan

theorem offered_recommendations (number : F → Value)
    (request : BuildMethodRecommendationsRequest F) :
    ∀ r ∈ buildMethodRecommendations p number request, Offered r := by
  intro r hr
  rcases List.mem_append.mp hr with hr | hr
  · rw [imputationRecommendations] at hr
    split at hr
    · exact absurd hr List.not_mem_nil
    · obtain ⟨missingness, -, hpair⟩ := List.mem_filterMap.mp hr
      obtain ⟨column, -, rfl⟩ := Option.map_eq_some_iff.mp hpair
      exact candidateFor_imputationMethod _
  · obtain ⟨labels, -, hlabels⟩ := exists_labels (p := p) request number
    rw [hlabels] at hr
    obtain ⟨classImbalance, -, rfl⟩ := List.mem_map.mp hr
    exact candidateFor_classWeights

/-- What is made of each part alone is distinct, when the parts' slugs are and no column's
image is a class's. -/
theorem nodup_recommended {α : Type} {number : F → Value}
    {request : BuildMethodRecommendationsRequest F}
    (h : OfTable request.tabularProfile) (f : MethodRecommendation → α)
    (hslugs : Set.InjOn (fun name : NonEmptyStr => MethodSelection.slug p name.1)
      {name | NeedsImputation request.tabularProfile name})
    (himpute : ∀ missingness column targetColumn missingness' column' targetColumn' version,
      f (buildNumericImputationRecommendation p number missingness column targetColumn version) =
        f (buildNumericImputationRecommendation p number missingness' column' targetColumn'
          version) →
      MethodSelection.slug p column.name.1 = MethodSelection.slug p column'.name.1)
    (hclass : ∀ missingness column targetColumn classImbalance version,
      f (buildNumericImputationRecommendation p number missingness column targetColumn version) ≠
        f (buildRareClassRecommendation p number classImbalance version)) :
    ((buildMethodRecommendations p number request).map f).Nodup := by
  obtain ⟨entries, targetColumn, hentries, hnames, hneeds⟩ := exists_entries (p := p) h number
  obtain ⟨labels, hlength, hlabels⟩ := exists_labels (p := p) request number
  rw [buildMethodRecommendations, hentries, hlabels, List.map_append, List.map_map, List.map_map]
  refine List.nodup_append.mpr ⟨?_, ?_, ?_⟩
  · rw [List.Nodup, List.pairwise_map] at hnames ⊢
    refine hnames.imp_of_mem fun {a b} ha hb hne heq => hne ?_
    exact hslugs ((hneeds _).mpr (List.mem_map_of_mem ha)) ((hneeds _).mpr (List.mem_map_of_mem hb))
      (himpute _ _ _ _ _ _ _ heq)
  · match labels, hlength with
    | [], _ => exact List.nodup_nil
    | [classImbalance], _ => exact List.nodup_singleton _
  · intro x hx y hy heq
    obtain ⟨entry, -, rfl⟩ := List.mem_map.mp hx
    obtain ⟨classImbalance, -, rfl⟩ := List.mem_map.mp hy
    exact hclass _ _ _ _ _ heq

end Analysis

/-- An analysis can be previewed exactly when no two columns that get a recommendation have
names with one slug. -/
theorem previewable_iff_distinct_slugs {F : Type} [ScoreLike F] {p : Platform} (number : F → Value)
    {request : BuildMethodRecommendationsRequest F} (h : OfTable request.tabularProfile) :
    Previewable p (buildMethodRecommendations p number request) ↔
      Set.InjOn (fun name : NonEmptyStr => MethodSelection.slug p name.1)
        {name | NeedsImputation request.tabularProfile name} := by
  constructor
  · intro hpreviewable a ha b hb heq
    obtain ⟨entries, targetColumn, hentries, -, hneeds⟩ := exists_entries (p := p) h number
    obtain ⟨first, hfirst, rfl⟩ := List.mem_map.mp ((hneeds a).mp ha)
    obtain ⟨second, hsecond, rfl⟩ := List.mem_map.mp ((hneeds b).mp hb)
    have hids := hpreviewable.ids
    rw [buildMethodRecommendations, hentries, List.map_append, List.map_map] at hids
    have hsame := List.inj_on_of_nodup_map (List.nodup_append.mp hids).1 hfirst hsecond
      (Subtype.ext (congrArg (fun s : NonEmptyStr => "method_rec_impute_".toList ++ s.1) heq))
    rw [hsame]
  · intro hslugs
    have hids : ((buildMethodRecommendations p number request).map
        MethodRecommendation.recommendationId).Nodup := by
      refine nodup_recommended h _ hslugs ?_ ?_
      · intro _ _ _ _ _ _ _ heq
        exact Subtype.ext (List.append_cancel_left (congrArg Subtype.val heq))
      · intro _ _ _ _ _ heq
        exact append_ne_append 12 (by decide) (by decide) (by decide) _ _ (congrArg Subtype.val heq)
    have hsteps :
        ((buildMethodRecommendations p number request).map (recommendedStepId p)).Nodup := by
      refine nodup_recommended h _ hslugs ?_ ?_
      · intro _ _ _ _ _ _ _ heq
        have htext := congrArg Subtype.val heq
        rw [stepId_imputation, stepId_imputation] at htext
        exact Subtype.ext (imputationOpening_append_inj htext)
      · intro _ _ _ _ _ heq
        have htext := congrArg Subtype.val heq
        rw [stepId_imputation, stepId_rareClass] at htext
        exact imputation_ne_rareClass _ _ _ htext
    exact ⟨hids, fun request' now hrecommendations hselected hnone =>
      preview_offered hrecommendations hselected hnone (offered_recommendations number request) hids
        hsteps now⟩

section Example

/-- A table of two numeric columns, each with half of its values missing. -/
def twoColumns (first second : NonEmptyStr) : BuildMethodRecommendationsRequest ℚ where
  tabularProfile :=
    { columns := [⟨first, .numericFloat⟩, ⟨second, .numericFloat⟩]
      missingness :=
        some ⟨none, [⟨first, 1, Score.fraction 5 1, none⟩, ⟨second, 1, Score.fraction 5 1, none⟩]⟩
      classImbalance := none }

theorem ofTable_twoColumns {first second : NonEmptyStr} (h : first ≠ second) :
    OfTable (twoColumns first second).tabularProfile := by
  refine ⟨by simpa [twoColumns, TabularProfileReport.names] using h,
    fun missingness hmissingness => ?_⟩
  obtain rfl := Option.some.inj hmissingness
  rfl

def half : ℚ → Value := fun _ => .num ⟨"0.5".toList, by decide, by decide⟩

theorem previewable_price_tax : Previewable asciiPlatform
    (buildMethodRecommendations asciiPlatform half
      (twoColumns (literal "price") (literal "tax"))) := by
  refine (previewable_iff_distinct_slugs half (ofTable_twoColumns (by decide))).mpr ?_
  rintro a ⟨_, -, -, -, column, hcolumn, rfl, -⟩ b ⟨_, -, -, -, column', hcolumn', rfl, -⟩ heq
  have hne : MethodSelection.slug asciiPlatform "price".toList ≠
      MethodSelection.slug asciiPlatform "tax".toList := by decide
  rcases List.mem_pair.mp hcolumn with rfl | rfl <;> rcases List.mem_pair.mp hcolumn' with rfl | rfl
  · rfl
  · exact absurd heq hne
  · exact absurd heq.symm hne
  · rfl

/-- Names without a Latin letter or a digit all have the slug `value`. -/
theorem not_previewable_nonLatin :
    OfTable (twoColumns (literal "цена") (literal "сумма")).tabularProfile ∧
    ¬ Previewable asciiPlatform (buildMethodRecommendations asciiPlatform half
      (twoColumns (literal "цена") (literal "сумма"))) ∧
    recommendationsById (buildMethodRecommendations asciiPlatform half
      (twoColumns (literal "цена") (literal "сумма"))) =
        .error (previewError "duplicate_recommendation_id"
          "Method recommendation ids must be unique.") := by
  refine ⟨ofTable_twoColumns (by decide), fun h => absurd h.ids (by decide +kernel), ?_⟩
  rw [recommendationsById]
  exact if_pos (by decide +kernel)

end Example

end DataForge.Kernel.AnalysisPreview
