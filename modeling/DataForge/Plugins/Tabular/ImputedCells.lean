import DataForge.Foundation.DecimalText
import DataForge.Plugins.Tabular.ImputationSteps

namespace DataForge.Plugins.Tabular.ImputedCells

open DataForge.Foundation.Strings
open DataForge.Foundation.Outcome
open DataForge.Foundation.Failures
open DataForge.Foundation.Dictionary
open DataForge.Foundation.Decimals
open DataForge.Foundation.DecimalText
open DataForge.Foundation.Grouping
open DataForge.Foundation.Json
open DataForge.Foundation.Tables
open DataForge.Domain.Common
open DataForge.Domain.Decision
open DataForge.Plugins.Tabular.Imputation
open DataForge.Plugins.Tabular.ImputationSteps

section Values

variable {D : Type} [DecimalLike D] {rows : List Row} {column : Text}

theorem median_ne_nil {values : List Text} {text : Text} (h : median D values = .ok text) :
    text ≠ [] := by
  rw [median] at h
  obtain ⟨parsed, -, h⟩ := bind_eq_ok.mp h
  obtain ⟨-, h⟩ := check_bind_eq_ok.mp h
  split at h
  · next shown hshown =>
    obtain rfl := Except.ok.inj h
    obtain ⟨d, -, hd⟩ := Option.bind_eq_some_iff.mp hshown
    exact formatDecimal_ne_nil hd
  · cases h

/-- The mode is one of the values. -/
theorem mode_mem {values : List Text} {value : Text} (h : mode values = .ok value) :
    value ∈ values := by
  rw [mode] at h
  split at h
  · next item items hsorted =>
    obtain rfl := Except.ok.inj h
    have hmem : item ∈ counter values := by
      rw [← List.mem_insertionSort fun a b :
        Text × Nat => b.2 < a.2 ∨ (a.2 = b.2 ∧ a.1 ≤ b.1), hsorted]
      exact List.mem_cons_self
    exact mem_keys_counter.mp (List.mem_map_of_mem hmem)
  · cases h

/-- What is filled in is never empty. -/
theorem fill_ne_nil {method : ImputationMethod} {key : Option NonEmptyStr}
    {fill : Text × Dict Text Text}
    (hmethod : method ≠ .missingnessIndicator)
    (h : fitFillValues D rows column method key = .ok fill)
    (group : Text) : (get? group fill.2).getD fill.1 ≠ [] := by
  have hnone : ∀ value : Text, value ≠ [] → (get? group ([] : Dict Text Text)).getD value ≠ [] :=
    fun value hvalue => hvalue
  cases method with
  | missingnessIndicator => exact absurd rfl hmethod
  | mode =>
    obtain ⟨value, hvalue, rfl⟩ := map_eq_ok.mp h
    apply hnone
    simpa using (List.mem_filter.mp (mode_mem hvalue)).2
  | median =>
    obtain ⟨value, hvalue, rfl⟩ := map_eq_ok.mp h
    exact hnone value (median_ne_nil hvalue)
  | groupMedian =>
    obtain ⟨value, hvalue, h⟩ := bind_eq_ok.mp h
    have hglobal := median_ne_nil hvalue
    cases key with
    | none =>
      obtain rfl := Except.ok.inj h
      exact hnone value hglobal
    | some key =>
      obtain ⟨groups, hgroups, h⟩ := bind_eq_ok.mp h
      obtain rfl := Except.ok.inj h
      cases hfound : get? group groups with
      | none => exact hglobal
      | some text =>
        have hentry := mem_of_get? hfound
        obtain ⟨item, -, hitem⟩ := exists_of_mem_mapM hgroups hentry
        obtain ⟨shown, hshown, hpair⟩ := bind_eq_ok.mp hitem
        obtain ⟨-, rfl⟩ := Prod.mk.inj (Except.ok.inj hpair)
        exact median_ne_nil hshown

end Values

section Rows

/-- A filling whose indicator is another column and that writes no empty cell. -/
structure Sound (filling : Filling) : Prop where
  indicator : filling.indicator ≠ some filling.column
  values : filling.method ≠ .missingnessIndicator →
    ∀ group, (get? group filling.groupFillValues).getD filling.fillValue ≠ []

/-- A row beside what the loop makes of it. -/
structure FilledRow (filling : Filling) (row : Row) (outcome : Row × Bool) : Prop where
  others : ∀ name, (name ≠ filling.column ∨ cell name row ≠ []) → filling.indicator ≠ some name →
    cell name outcome.1 = cell name row
  marked : ∀ name, filling.indicator = some name →
    cell name outcome.1 = if cell filling.column row = [] then "1".toList else "0".toList
  flag : outcome.2 = true ↔ cell filling.column row = [] ∧ filling.method ≠ .missingnessIndicator
  filled : filling.method ≠ .missingnessIndicator → cell filling.column outcome.1 ≠ []

variable {filling : Filling} {row : Row}

theorem cell_marked {name : Text} (h : filling.indicator = some name) :
    cell name (markRow filling row) =
      if cell filling.column row = [] then "1".toList else "0".toList := by
  rw [markRow, h]
  exact cell_set_self _

theorem filledRow (hsound : Sound filling) {outcome : Row × Bool}
    (h : imputeRow filling row = .ok outcome) : FilledRow filling row outcome := by
  have hcolumn : cell filling.column (markRow filling row) = cell filling.column row := by
    rw [cell, get?_markRow hsound.indicator, cell]
  have hothers : ∀ name, name ≠ filling.column → filling.indicator ≠ some name →
      cell name outcome.1 = cell name row := fun name => cell_imputeRow h
  rw [imputeRow] at h
  split at h
  · next hmissing =>
    split at h
    · cases h
    · next group _ =>
      obtain rfl := Except.ok.inj h
      refine ⟨fun name hname hindicator => ?_, fun name hname => ?_, ?_, fun hmethod => ?_⟩
      · refine hothers name (hname.elim id fun hcell heq => hcell ?_) hindicator
        rw [heq, hmissing.1]
      · rw [cell_set_ne (fun heq => hsound.indicator (by rw [hname, heq]))]
        exact cell_marked hname
      · exact iff_of_true rfl hmissing
      · rw [cell_set_self]
        exact hsound.values hmethod group
  · next hkept =>
    obtain rfl := Except.ok.inj h
    refine ⟨fun name _ hindicator => ?_, fun name hname => cell_marked hname, ?_, fun hmethod => ?_⟩
    · rw [cell, get?_markRow hindicator, cell]
    · exact iff_of_false Bool.false_ne_true hkept
    · rw [hcolumn]
      exact fun hmissing => hkept ⟨hmissing, hmethod⟩

variable {rows : List Row} {outcomes : List (Row × Bool)}

theorem map_cell_of_filled (h : List.Forall₂ (FilledRow filling) rows outcomes) {name : Text}
    (hcolumn : name ≠ filling.column) (hindicator : filling.indicator ≠ some name) :
    rows.map (cell name) = (outcomes.map Prod.fst).map (cell name) := by
  induction h with
  | nil => rfl
  | cons hrow _ ih =>
    rw [List.map_cons, List.map_cons, List.map_cons, ih, hrow.others name (.inl hcolumn) hindicator]

/-- Every missing cell is filled and counted. -/
theorem counts_of_filled (h : List.Forall₂ (FilledRow filling) rows outcomes)
    (hmethod : filling.method ≠ .missingnessIndicator) :
    missingCount (outcomes.map Prod.fst) filling.column = 0 ∧
      outcomes.countP Prod.snd = missingCount rows filling.column := by
  induction h with
  | nil => exact ⟨rfl, rfl⟩
  | @cons row outcome _ _ hrow _ ih =>
    obtain ⟨hafter, hcount⟩ := ih
    have hfilled : cell filling.column outcome.1 ≠ [] := hrow.filled hmethod
    have hflag : outcome.2 = true ↔ cell filling.column row = [] := by
      rw [hrow.flag]
      exact and_iff_left hmethod
    rw [missingCount] at hafter hcount ⊢
    constructor
    · rw [List.map_cons, List.countP_cons, hafter]
      simpa using hfilled
    · rw [missingCount, List.countP_cons, List.countP_cons, hcount]
      by_cases hmissing : cell filling.column row = []
      · simp [hflag.mpr hmissing, hmissing]
      · have hnot :
            outcome.2 = false := Bool.eq_false_iff.mpr fun htrue => hmissing (hflag.mp htrue)
        simp [hnot, hmissing]

end Rows

section Action

variable {D : Type} [DecimalLike D] {request : ExecuteTabularImputationRequest} {t : Table}
  {column : NonEmptyStr} {filling : Filling}

/-- A step that the executor accepts for a source, fitted: the column is there and not the
target, the indicator is new, the group key is found and the fill values are computed. -/
structure Fitted (D : Type) [DecimalLike D] (request : ExecuteTabularImputationRequest) (t : Table)
    (column : NonEmptyStr) (filling : Filling) : Prop where
  type : request.step.type.1 = imputeMissingValues
  method : resolveMethod request.step.methodId.1 = .ok filling.method
  config : requiredConfigStr request.step.config "column" = .ok column
  name : filling.column = column.1
  other : column ≠ request.targetColumn
  rows : t.records ≠ []
  found : column.1 ∈ t.columns
  target : request.targetColumn.1 ∈ t.columns
  indicator : indicatorColumn request.step.config filling.method column.1 t.columns =
    .ok filling.indicator
  groupKey : groupKeyFor request.step.config filling.method t.columns = .ok filling.groupKey
  fit : fitFillValues D t.records column.1 filling.method filling.groupKey =
    .ok (filling.fillValue, filling.groupFillValues)

theorem Fitted.action (h : Fitted D request t column filling) :
    executeTabularImputationAction D request t =
      applyFilling filling column request.targetColumn t.columns t.records := by
  have hcolumns : t.columns ≠ [] := List.ne_nil_of_mem h.found
  have hread : readCsv t = .ok t.records := by
    rw [readCsv, guardOk, if_pos hcolumns, ok_bind, guardOk, if_pos h.rows, ok_bind]
    rfl
  rw [executeTabularImputationAction]
  simp only [h.method, h.config, hread, guardOk, if_pos h.type, if_pos h.other, if_pos h.found,
    if_pos h.target, ok_bind, h.indicator, h.groupKey, h.fit]
  rw [← h.name]

theorem indicator_eq_some {config : Dict Text Value} {method : ImputationMethod}
    {columns : List Text}
    {name indicator : Text}
    (h : indicatorColumn config method name columns = .ok (some indicator)) :
    indicator = indicatorName name ∧ indicator ∉ columns := by
  rw [indicatorColumn] at h
  split at h
  · obtain ⟨found, hfound, hsome⟩ := map_eq_ok.mp h
    rw [indicatorColumnName] at hfound
    split at hfound
    · cases hfound
    · next hnew =>
      obtain rfl := Except.ok.inj hfound
      obtain rfl := Option.some.inj hsome
      exact ⟨rfl, hnew⟩
  · cases Except.ok.inj h

theorem Fitted.new (h : Fitted D request t column filling) {name : Text}
    (hindicator : filling.indicator = some name) : name ≠ [] ∧ name ∉ t.columns := by
  obtain ⟨rfl, hnew⟩ := indicator_eq_some (hindicator ▸ h.indicator)
  exact ⟨List.append_ne_nil_of_left_ne_nil column.2 _, hnew⟩

theorem Fitted.sound (h : Fitted D request t column filling) : Sound filling where
  indicator hindicator := (h.new hindicator).2 (h.name ▸ h.found)
  values hmethod := fill_ne_nil hmethod h.fit

/-- Only the group medians have a group key. -/
theorem Fitted.key (h : Fitted D request t column filling) :
    (filling.method ≠ .groupMedian → filling.groupKey = none) ∧
      (filling.method = .groupMedian → ∃ key, filling.groupKey = some key ∧ key.1 ∈ t.columns) := by
  have hkey := h.groupKey
  rw [groupKeyFor] at hkey
  split at hkey
  · next hmethod =>
    refine ⟨fun hne => absurd hmethod hne, fun _ => ?_⟩
    obtain ⟨key, hfound, hsome⟩ := map_eq_ok.mp hkey
    refine ⟨key, hsome.symm, ?_⟩
    rw [Imputation.groupKey] at hfound
    split at hfound
    · split at hfound
      · next hmem =>
        obtain rfl := Except.ok.inj hfound
        exact hmem
      · cases hfound
    · cases hfound
  · next hmethod =>
    exact ⟨fun _ => (Except.ok.inj hkey).symm, fun hsome => absurd hsome hmethod⟩

/-- The loop gets through when it groups, only marks, or has nothing to fill. -/
theorem Fitted.rows_iff (h : Fitted D request t column filling) :
    (∃ outcomes, t.records.mapM (imputeRow filling) = .ok outcomes) ↔
      filling.method = .groupMedian ∨ filling.method = .missingnessIndicator ∨
        ∀ row ∈ t.records, cell column.1 row ≠ [] := by
  constructor
  · rintro ⟨outcomes, houtcomes⟩
    by_contra hnone
    simp only [not_or, not_forall, not_not] at hnone
    obtain ⟨hgroup, hmethod, row, hrow, hmissing⟩ := hnone
    have hunnamed : filling.indicator ≠ some [] := fun hindicator => (h.new hindicator).1 rfl
    have hrowError := imputeRow_median hmethod (h.key.1 hgroup) hunnamed (h.name ▸ hmissing)
      fun hnil => nil_notMem_columns t ((keys_record hrow []).mp hnil)
    obtain ⟨e, he⟩ := exists_mapM_error hrow ⟨_, hrowError⟩
    rw [he] at houtcomes
    cases houtcomes
  · intro hcase
    apply exists_mapM_ok
    intro row hrow
    rcases hcase with hgroup | hmethod | hkept
    · obtain ⟨key, hkey, hmem⟩ := h.key.2 hgroup
      exact imputeRow_group hkey ((keys_record hrow _).mpr hmem)
    · exact imputeRow_indicator hmethod
    · rw [imputeRow, if_neg fun hmissing => hkept row hrow (h.name ▸ hmissing.1)]
      exact ⟨_, rfl⟩

/-- The candidate and the report of an imputation: the rows in their order with every cell
that is not filled, the indicator at the missing cells, and counts that agree. -/
structure FillsExactly (t : Table) (column : NonEmptyStr) (filling : Filling)
    (result : ExecuteTabularImputationResult) : Prop where
  columns : result.candidate.columns = t.columns ++ filling.indicator.toList
  length : result.candidate.records.length = t.records.length
  cells : ∀ (i : Nat) (row out : Row), t.records[i]? = some row →
    result.candidate.records[i]? = some out →
      (∀ name ∈ t.columns, (name ≠ column.1 ∨ cell name row ≠ []) → cell name out = cell name row) ∧
        ∀ name, filling.indicator = some name →
          cell name out = if cell column.1 row = [] then "1".toList else "0".toList
  before : result.report.beforeMissingCount = missingCount t.records column.1
  after : result.report.afterMissingCount = missingCount result.candidate.records column.1
  filled : filling.method ≠ .missingnessIndicator → result.report.afterMissingCount = 0 ∧
    result.report.imputedCount = result.report.beforeMissingCount
  groups : filling.method = .groupMedian →
    (result.report.groupImputedCounts.map Prod.snd).sum = result.report.beforeMissingCount

/-- The result of the loop's outcomes. -/
def resultOf (t : Table) (column : NonEmptyStr) (filling : Filling) (outcomes : List (Row × Bool)) :
    ExecuteTabularImputationResult where
  report := columnReport t.records (outcomes.map Prod.fst) filling column outcomes
  candidate := Table.write (t.columns ++ filling.indicator.toList) (outcomes.map Prod.fst)

variable {outcomes : List (Row × Bool)}

theorem Fitted.outcomes_spec (h : Fitted D request t column filling)
    (houtcomes : t.records.mapM (imputeRow filling) = .ok outcomes) :
    List.Forall₂ (FilledRow filling) t.records outcomes :=
  (mapM_eq_ok_iff_forall₂.mp houtcomes).imp fun _ _ hrow => filledRow h.sound hrow

theorem Fitted.action_eq_ok (h : Fitted D request t column filling)
    (houtcomes : t.records.mapM (imputeRow filling) = .ok outcomes) :
    executeTabularImputationAction D request t = .ok (resultOf t column filling outcomes) := by
  have htarget : t.records.map (cell request.targetColumn.1) =
      (outcomes.map Prod.fst).map (cell request.targetColumn.1) :=
    map_cell_of_filled (h.outcomes_spec houtcomes)
      (fun heq => h.other (Subtype.ext (h.name.symm.trans heq.symm)))
      fun hindicator => (h.new hindicator).2 h.target
  rw [h.action, applyFilling, houtcomes, ok_bind]
  exact check_bind_eq_ok.mpr ⟨if_pos htarget, rfl⟩

theorem Fitted.records (h : Fitted D request t column filling) :
    (resultOf t column filling outcomes).candidate.columns = t.columns ++ filling.indicator.toList ∧
      (resultOf t column filling outcomes).candidate.records =
        (outcomes.map Prod.fst).map fun row =>
        rowOf (t.columns ++ filling.indicator.toList) fun name => cell name row := by
  have hnil : [] ∉ t.columns ++ filling.indicator.toList := by
    rw [List.mem_append, not_or]
    refine ⟨nil_notMem_columns t, fun hindicator => ?_⟩
    exact (h.new (Option.mem_toList.mp hindicator)).1 rfl
  have hne : t.columns ++ filling.indicator.toList ≠ [] :=
    List.ne_nil_of_mem (List.mem_append_left _ h.found)
  exact ⟨columns_write hnil, records_write hne hnil⟩

theorem Fitted.fillsExactly (h : Fitted D request t column filling)
    (houtcomes : t.records.mapM (imputeRow filling) = .ok outcomes) :
    FillsExactly t column filling (resultOf t column filling outcomes) := by
  have hspec := h.outcomes_spec houtcomes
  obtain ⟨hcolumns, hrecords⟩ := @Fitted.records _ _ _ _ _ _ outcomes h
  have hafter : missingCount (resultOf t column filling outcomes).candidate.records column.1 =
      missingCount (outcomes.map Prod.fst) column.1 := by
    rw [hrecords, missingCount, missingCount, List.countP_map]
    apply List.countP_congr
    intro row _
    rw [Function.comp_apply, cell_rowOf (List.mem_append_left _ h.found)]
  refine ⟨hcolumns, ?_, ?_, rfl, hafter.symm, ?_, ?_⟩
  · rw [hrecords, List.length_map, List.length_map, hspec.length_eq]
  · intro i row out hrow hout
    rw [hrecords, List.getElem?_map, List.getElem?_map, Option.map_map] at hout
    obtain ⟨outcome, houtcome, rfl⟩ := Option.map_eq_some_iff.mp hout
    have hfilled : FilledRow filling row outcome := by
      obtain ⟨hi, rfl⟩ := List.getElem?_eq_some_iff.mp hrow
      obtain ⟨hj, rfl⟩ := List.getElem?_eq_some_iff.mp houtcome
      exact hspec.get hi hj
    refine ⟨fun name hname hkept => ?_, fun name hindicator => ?_⟩
    · rw [Function.comp_apply, cell_rowOf (List.mem_append_left _ hname)]
      exact hfilled.others name (h.name ▸ hkept) fun hindicator => (h.new hindicator).2 hname
    · rw [Function.comp_apply,
        cell_rowOf (List.mem_append_right _ (Option.mem_toList.mpr hindicator)),
        hfilled.marked name hindicator, h.name]
  · intro hmethod
    have hcounts := counts_of_filled hspec hmethod
    rw [h.name] at hcounts
    exact hcounts
  · intro hmethod
    obtain ⟨key, hkey, -⟩ := h.key.2 hmethod
    have hcounts := (counts_of_filled hspec (by rw [hmethod]; decide)).2
    show ((groupImputedCounts filling.groupKey outcomes).map Prod.snd).sum =
        missingCount t.records column.1
    rw [hkey, groupImputedCounts, sum_counter, List.length_map,
      ← List.countP_eq_length_filter, hcounts, h.name]

/-- A fitted imputation fills exactly the missing cells, unless it is a median or a mode and
there is something to fill. -/
theorem imputation_fills_iff (h : Fitted D request t column filling) :
    (∃ result, executeTabularImputationAction D request t = .ok result ∧
      FillsExactly t column filling result) ↔
        filling.method = .groupMedian ∨ filling.method = .missingnessIndicator ∨
          ∀ row ∈ t.records, cell column.1 row ≠ [] := by
  rw [← h.rows_iff]
  constructor
  · rintro ⟨result, hresult, -⟩
    rw [h.action, applyFilling] at hresult
    obtain ⟨outcomes, houtcomes, -⟩ := bind_eq_ok.mp hresult
    exact ⟨outcomes, houtcomes⟩
  · rintro ⟨outcomes, houtcomes⟩
    exact ⟨_, h.action_eq_ok houtcomes, h.fillsExactly houtcomes⟩

end Action

section Example

def amount : NonEmptyStr := literal "amount"

def segment : NonEmptyStr := literal "segment"

def label : NonEmptyStr := literal "label"

/-- A step that fills the amounts by a method, with medians by segment where it groups. -/
def amountStep (method : ImputationMethod) : ActionPlanStep where
  stepId := literal "impute"
  type := literal "IMPUTE_MISSING_VALUES"
  dependsOn := []
  idempotencyKey := zeroDigest
  methodId := ⟨method.value, by cases method <;> decide⟩
  pluginId := literal "dataforge.tabular"
  pluginVersion := literal "0.1.0"
  configHash := zeroDigest
  policyVersion := literal "method_policy_v0"
  validationGates := []
  preconditions := [literal "target_column_not_used_for_imputation"]
  inputArtifacts := []
  outputArtifactKind := literal "CANDIDATE_DATASET_VERSION"
  config := [("column".toList, .str amount.1), ("group_key".toList, .str segment.1)]
  randomSeed := none
  retryPolicy := ⟨⟨1, one_attempt⟩, []⟩
  onFailure := literal "fail_plan_keep_artifacts_unpromoted"
  promotionScope := literal "candidate_only"

def amounts : Table where
  header := [amount.1, segment.1, label.1]
  lines := [[[], "a".toList, "1".toList], ["3".toList, "a".toList, "0".toList]]

def groupFilling : Filling :=
  ⟨amount.1, .groupMedian, none, some segment, "3".toList, [("a".toList, "3".toList)]⟩

theorem fitted_groupFilling :
    Fitted Decimal ⟨amountStep .groupMedian, label⟩ amounts amount groupFilling where
  type := rfl
  method := by decide +kernel
  config := rfl
  name := rfl
  other := by decide
  rows := by decide
  found := by decide
  target := by decide
  indicator := rfl
  groupKey := by decide +kernel
  fit := by decide +kernel

theorem imputation_fills_amounts :
    (∃ result, executeTabularImputationAction Decimal ⟨amountStep .groupMedian, label⟩ amounts =
      .ok result ∧ FillsExactly amounts amount groupFilling result) ↔
        groupFilling.method = .groupMedian ∨ groupFilling.method = .missingnessIndicator ∨
          ∀ row ∈ amounts.records, cell amount.1 row ≠ [] :=
  imputation_fills_iff fitted_groupFilling

def medianFilling : Filling := ⟨amount.1, .median, none, none, "3".toList, []⟩

theorem fitted_medianFilling :
    Fitted Decimal ⟨amountStep .median, label⟩ amounts amount medianFilling where
  type := rfl
  method := by decide +kernel
  config := rfl
  name := rfl
  other := by decide
  rows := by decide
  found := by decide
  target := by decide
  indicator := rfl
  groupKey := rfl
  fit := by decide +kernel

/-- A fitted median leaves its one missing amount unfilled: the group is looked up without a key. -/
theorem median_raises : ¬ ∀ (request : ExecuteTabularImputationRequest) (t : Table)
    (column : NonEmptyStr) (filling : Filling), Fitted Decimal request t column filling →
      ∃ result, executeTabularImputationAction Decimal request t = .ok result ∧
        FillsExactly t column filling result := by
  intro h
  obtain ⟨result, hresult, -⟩ := h _ _ _ _ fitted_medianFilling
  rw [fitted_medianFilling.action, applyFilling] at hresult
  obtain ⟨outcomes, houtcomes, -⟩ := bind_eq_ok.mp hresult
  rcases fitted_medianFilling.rows_iff.mp ⟨outcomes, houtcomes⟩ with hmethod | hmethod | hkept
  · cases hmethod
  · cases hmethod
  · exact absurd hkept (by decide)

end Example

end DataForge.Plugins.Tabular.ImputedCells
