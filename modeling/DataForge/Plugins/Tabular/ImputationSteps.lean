import DataForge.Foundation.Failures
import DataForge.Plugins.Tabular.Imputation

namespace DataForge.Plugins.Tabular.ImputationSteps

open DataForge.Foundation.Strings
open DataForge.Foundation.Outcome
open DataForge.Foundation.Failures
open DataForge.Foundation.Dictionary
open DataForge.Foundation.Decimals
open DataForge.Foundation.Grouping
open DataForge.Foundation.Json
open DataForge.Foundation.Tables
open DataForge.Domain.Common
open DataForge.Domain.Decision
open DataForge.Plugins.Tabular.Imputation

section Rows

variable {filling : Filling} {row : Row}

theorem get?_markRow {name : Text} (h : filling.indicator ≠ some name) :
    get? name (markRow filling row) = get? name row := by
  rw [markRow]
  cases hi : filling.indicator with
  | none => rfl
  | some indicator =>
    have hne : indicator ≠ name := fun he => h (by rw [hi, he])
    exact get?_set_ne hne _ _

theorem mem_keys_markRow {name : Text} (h : name ∈ row.map Prod.fst) :
    name ∈ (markRow filling row).map Prod.fst := by
  rw [markRow]
  cases filling.indicator with
  | none => exact h
  | some indicator => exact mem_keys_set.mpr (.inr h)

/-- A filled row differs from its source in the column and in the indicator only. -/
theorem cell_imputeRow {outcome : Row × Bool} (h : imputeRow filling row = .ok outcome)
    {name : Text} (hcolumn : name ≠ filling.column) (hindicator : filling.indicator ≠ some name) :
    cell name outcome.1 = cell name row := by
  have hmarked : cell name (markRow filling row) = cell name row := by
    rw [cell, get?_markRow hindicator, cell]
  rw [imputeRow] at h
  split at h
  · split at h
    · cases h
    · obtain rfl := Except.ok.inj h
      rw [cell_set_ne (Ne.symm hcolumn)]
      exact hmarked
  · obtain rfl := Except.ok.inj h
    exact hmarked

theorem imputeRow_error {e : Raised} (h : imputeRow filling row = .error e) :
    e = .plain "KeyError" "''" := by
  rw [imputeRow] at h
  split at h
  · split at h
    · exact (Except.error.inj h).symm
    · cases h
  · cases h

/-- Without a group key the lookup of a missing cell's group fails. -/
theorem imputeRow_median (hmethod : filling.method ≠ .missingnessIndicator)
    (hkey : filling.groupKey = none) (hindicator : filling.indicator ≠ some [])
    (hmissing : cell filling.column row = []) (hname : [] ∉ row.map Prod.fst) :
    imputeRow filling row = .error (.plain "KeyError" "''") := by
  have hlookup : get? [] (markRow filling row) = none := by
    rw [get?_markRow hindicator]
    exact get?_eq_none.mpr hname
  rw [imputeRow, if_pos ⟨hmissing, hmethod⟩, hkey]
  simp only [Option.map_none, Option.getD_none, hlookup]

theorem imputeRow_indicator (hmethod : filling.method = .missingnessIndicator) :
    ∃ outcome, imputeRow filling row = .ok outcome := by
  rw [imputeRow, if_neg (by simp [hmethod])]
  exact ⟨_, rfl⟩

theorem imputeRow_group {key : NonEmptyStr} (hkey : filling.groupKey = some key)
    (hmem : key.1 ∈ row.map Prod.fst) : ∃ outcome, imputeRow filling row = .ok outcome := by
  rw [imputeRow]
  split
  · rw [hkey]
    simp only [Option.map_some, Option.getD_some]
    split
    · next hnone => exact absurd (mem_keys_markRow hmem) (get?_eq_none.mp hnone)
    · exact ⟨_, rfl⟩
  · exact ⟨_, rfl⟩

end Rows

section Refusals

/-- The reason codes of a step that asks for what the runtime or the source does not have. -/
def refusalCodes : List String :=
  ["unsupported_action_plan_step", "target_column_not_found", "imputation_column_not_found",
    "group_key_not_found"]

def Refusal : Raised → Prop
  | .reasoned _ reasonCode _ _ _ => reasonCode ∈ refusalCodes
  | _ => False

instance (e : Raised) : Decidable (Refusal e) := by
  cases e <;> unfold Refusal <;> infer_instance

abbrev NoRefusal {α : Type} (x : Result α) : Prop := RaisesOnly (fun e => ¬ Refusal e) x

end Refusals

section Fit

variable (D : Type) [DecimalLike D] {rows : List Row} {column : Text}

/-- The medians of a column and of its groups can be taken. -/
def Fittable (rows : List Row) (column : Text) (key : NonEmptyStr) : Prop :=
  ∃ fill, fitFillValues D rows column .groupMedian (some key) = .ok fill

variable {D}

theorem noRefusal_parseDecimal (value : Text) : NoRefusal (parseDecimal D value) := by
  rw [parseDecimal]
  split
  · exact .error (by decide)
  · split
    · exact .ok _
    · exact .error (by decide)

theorem noRefusal_median (values : List Text) : NoRefusal (median D values) := by
  refine .bind (.mapM fun value _ => noRefusal_parseDecimal value) fun parsed _ => ?_
  refine .bind (.guard _ (by decide)) fun _ _ => ?_
  split
  · exact .ok _
  · exact .error (by decide)

theorem noRefusal_fit (method : ImputationMethod) (key : Option NonEmptyStr) :
    NoRefusal (fitFillValues D rows column method key) := by
  cases method with
  | median => exact (noRefusal_median _).map _
  | mode =>
    refine RaisesOnly.map ?_ _
    rw [mode]
    split
    · exact .ok _
    · exact .error (by decide)
  | groupMedian =>
    refine (noRefusal_median _).bind fun globalMedian _ => ?_
    cases key with
    | none => exact .ok _
    | some key =>
      refine .bind (.mapM fun group _ => ?_) fun groups _ => .ok _
      exact (noRefusal_median _).bind fun value _ => .ok _
  | missingnessIndicator => exact .ok _

end Fit

section Steps

variable {D : Type} [DecimalLike D] {step : ActionPlanStep} {column targetColumn : NonEmptyStr}
  {method : ImputationMethod} {t : Table}

def customerSegment : NonEmptyStr := literal "customer_segment"

/-- A step that fills a column by a method, marks its missing cells and groups by the
customer segment if at all. -/
structure Imputes (step : ActionPlanStep) (column : NonEmptyStr) (method : ImputationMethod) :
    Prop where
  type : step.type.1 = imputeMissingValues
  methodId : step.methodId.1 = method.value
  column : requiredConfigStr step.config "column" = .ok column
  indicator : shouldAddIndicator step.config method = true
  group : (get? "group_key".toList step.config).getD (.str "customer_segment".toList) =
    .str customerSegment.1

/-- A source that holds the column, which is not the target. -/
structure Holds (t : Table) (column targetColumn : NonEmptyStr) : Prop where
  rows : t.records ≠ []
  found : column.1 ∈ t.columns
  other : column ≠ targetColumn

theorem Imputes.resolved (h : Imputes step column method) :
    resolveMethod step.methodId.1 = .ok method := by
  have hfind : [ImputationMethod.median, .mode, .groupMedian, .missingnessIndicator].find?
      (fun m => decide (m.value = method.value)) = some method := by
    cases method <;> decide +kernel
  simp only [resolveMethod, h.methodId, hfind]

theorem groupKey_of_str {config : Dict Text Value} {key : NonEmptyStr}
    (h : (get? "group_key".toList config).getD (.str "customer_segment".toList) = .str key.1)
    (columns : List Text) :
    groupKey config columns = if key.1 ∈ columns then .ok key else .error groupKeyError := by
  rw [groupKey, h]
  obtain ⟨name, hname⟩ := key
  cases name with
  | nil => exact absurd rfl hname
  | cons c s => rfl

theorem action_eq (h : Imputes step column method) (ht : Holds t column targetColumn) :
    executeTabularImputationAction D ⟨step, targetColumn⟩ t = (do
      guardOk (targetColumn.1 ∈ t.columns) (imputationError "target_column_not_found"
        "Target column is not present in source CSV.")
      let indicator ← (indicatorColumnName column.1 t.columns).map some
      let key ← groupKeyFor step.config method t.columns
      let fill ← fitFillValues D t.records column.1 method key
      applyFilling ⟨column.1, method, indicator, key, fill.1, fill.2⟩ column targetColumn t.columns
        t.records) := by
  have hcolumns : t.columns ≠ [] := List.ne_nil_of_mem ht.found
  have hread : readCsv t = .ok t.records := by
    rw [readCsv, guardOk, if_pos hcolumns, ok_bind, guardOk, if_pos ht.rows, ok_bind]
    rfl
  have hindicator : indicatorColumn step.config method column.1 t.columns =
      (indicatorColumnName column.1 t.columns).map some := by
    rw [indicatorColumn, if_pos h.indicator]
  rw [executeTabularImputationAction]
  simp only [h.resolved, h.column, hread, hindicator, guardOk, if_pos h.type, if_pos ht.other,
    if_pos ht.found, ok_bind]

theorem refused_without_target (h : Imputes step column method) (ht : Holds t column targetColumn)
    (htarget : targetColumn.1 ∉ t.columns) :
    ∃ e, executeTabularImputationAction D ⟨step, targetColumn⟩ t = .error e ∧ Refusal e := by
  rw [action_eq h ht, guardOk, if_neg htarget, error_bind]
  exact ⟨_, rfl, by decide⟩

theorem halted_by_indicator (h : Imputes step column method) (ht : Holds t column targetColumn)
    (htarget : targetColumn.1 ∈ t.columns) (hindicator : indicatorName column.1 ∈ t.columns) :
    ∃ e, executeTabularImputationAction D ⟨step, targetColumn⟩ t = .error e ∧ ¬ Refusal e := by
  rw [action_eq h ht, guardOk, if_pos htarget, ok_bind, indicatorColumnName, if_pos hindicator]
  exact ⟨_, rfl, by decide⟩

/-- What is left of the action once the target is found and the indicator is new. -/
theorem action_of_new_indicator (h : Imputes step column method) (ht : Holds t column targetColumn)
    (htarget : targetColumn.1 ∈ t.columns) (hindicator : indicatorName column.1 ∉ t.columns) :
    executeTabularImputationAction D ⟨step, targetColumn⟩ t = (do
      let key ← groupKeyFor step.config method t.columns
      let fill ← fitFillValues D t.records column.1 method key
      applyFilling ⟨column.1, method, some (indicatorName column.1), key, fill.1, fill.2⟩ column
        targetColumn t.columns t.records) := by
  rw [action_eq h ht, guardOk, if_pos htarget, ok_bind, indicatorColumnName, if_neg hindicator]
  rfl

theorem refused_without_segment (h : Imputes step column .groupMedian)
    (ht : Holds t column targetColumn)
    (htarget : targetColumn.1 ∈ t.columns) (hindicator : indicatorName column.1 ∉ t.columns)
    (hsegment : customerSegment.1 ∉ t.columns) :
    ∃ e, executeTabularImputationAction D ⟨step, targetColumn⟩ t = .error e ∧ Refusal e := by
  rw [action_of_new_indicator h ht htarget hindicator, groupKeyFor, if_pos rfl,
    groupKey_of_str h.group, if_neg hsegment]
  exact ⟨groupKeyError, rfl, by decide⟩

theorem keys_record {row : Row} (h : row ∈ t.records) (name : Text) :
    name ∈ row.map Prod.fst ↔ name ∈ t.columns := by
  obtain ⟨line, -, rfl⟩ := List.mem_map.mp h
  exact mem_keys_rowOf

theorem noRefusal_applyFilling (filling : Filling) (columns : List Text) (rows : List Row) :
    NoRefusal (applyFilling filling column targetColumn columns rows) := by
  refine .bind (.mapM fun row _ e he => ?_) fun outcomes _ => ?_
  · rw [imputeRow_error he]
    exact id
  · exact .bind (.guard _ (by decide)) fun _ _ => .ok _

/-- A median is not filled in: the cells that lack a value have no group to look up. -/
theorem halted_by_median (h : Imputes step column .median) (ht : Holds t column targetColumn)
    (htarget : targetColumn.1 ∈ t.columns) (hindicator : indicatorName column.1 ∉ t.columns)
    (hmissing : ∃ row ∈ t.records, cell column.1 row = []) :
    ∃ e, executeTabularImputationAction D ⟨step, targetColumn⟩ t = .error e ∧ ¬ Refusal e := by
  rw [action_of_new_indicator h ht htarget hindicator, groupKeyFor, if_neg (by decide), ok_bind]
  cases hfit : fitFillValues D t.records column.1 .median none with
  | error e => exact ⟨e, rfl, noRefusal_fit _ _ e hfit⟩
  | ok fill =>
    rw [ok_bind]
    obtain ⟨row, hrow, hcell⟩ := hmissing
    have hrowError :
        imputeRow ⟨column.1, .median, some (indicatorName column.1), none, fill.1, fill.2⟩ row =
        .error (.plain "KeyError" "''") :=
      imputeRow_median (by simp) rfl (by simp [indicatorName]) hcell
        fun hnil => nil_notMem_columns t ((keys_record hrow []).mp hnil)
    obtain ⟨e, he⟩ := exists_mapM_error hrow ⟨_, hrowError⟩
    have hfilling :
        applyFilling ⟨column.1, .median, some (indicatorName column.1), none, fill.1, fill.2⟩
        column targetColumn t.columns t.records = .error e := by
      rw [applyFilling, he, error_bind]
    exact ⟨e, hfilling, noRefusal_applyFilling _ _ _ e hfilling⟩

theorem halted_by_values (h : Imputes step column .groupMedian) (ht : Holds t column targetColumn)
    (htarget : targetColumn.1 ∈ t.columns) (hindicator : indicatorName column.1 ∉ t.columns)
    (hsegment : customerSegment.1 ∈ t.columns)
    (hvalues : ¬ Fittable D t.records column.1 customerSegment) :
    ∃ e, executeTabularImputationAction D ⟨step, targetColumn⟩ t = .error e ∧ ¬ Refusal e := by
  rw [action_of_new_indicator h ht htarget hindicator, groupKeyFor, if_pos rfl,
    groupKey_of_str h.group, if_pos hsegment]
  show ∃ e, (fitFillValues D t.records column.1 .groupMedian (some customerSegment) >>= _) =
      .error e ∧ _
  cases hfit : fitFillValues D t.records column.1 .groupMedian (some customerSegment) with
  | error e => exact ⟨e, rfl, noRefusal_fit _ _ e hfit⟩
  | ok fill => exact absurd ⟨fill, hfit⟩ hvalues

/-- The candidate of a step: one more column, the filled one, and the others unchanged. -/
structure Continues (t t' : Table) (column : NonEmptyStr) : Prop where
  columns : t'.columns = t.columns ++ [indicatorName column.1]
  length : t'.records.length = t.records.length
  cells : ∀ name ∈ t.columns, name ≠ column.1 →
    t'.records.map (cell name) = t.records.map (cell name)

theorem continues_of_rows {filling : Filling} (hcolumn : filling.column = column.1)
    (hindicator : filling.indicator = some (indicatorName column.1))
    (ht : Holds t column targetColumn)
    (hnew : indicatorName column.1 ∉ t.columns) (htarget : targetColumn.1 ∈ t.columns)
    (hrows : ∀ row ∈ t.records, ∃ outcome, imputeRow filling row = .ok outcome) :
    ∃ result, applyFilling filling column targetColumn t.columns t.records = .ok result ∧
      Continues t result.candidate column := by
  obtain ⟨outcomes, houtcomes⟩ := exists_mapM_ok hrows
  have hcells : ∀ name ∈ t.columns, name ≠ column.1 →
      (outcomes.map Prod.fst).map (cell name) = t.records.map (cell name) := by
    intro name hname hne
    rw [List.map_map]
    refine map_of_mapM (fun row outcome houtcome => ?_) houtcomes
    refine cell_imputeRow houtcome (hcolumn ▸ hne) ?_
    rw [hindicator]
    rintro heq
    exact hnew (Option.some.inj heq ▸ hname)
  have htargetCells : t.records.map (cell targetColumn.1) =
      (outcomes.map Prod.fst).map (cell targetColumn.1) :=
    (hcells _ htarget fun he => ht.other (Subtype.ext he.symm)).symm
  have hresult : applyFilling filling column targetColumn t.columns t.records = .ok
      ⟨columnReport t.records (outcomes.map Prod.fst) filling column outcomes,
        Table.write (t.columns ++ filling.indicator.toList) (outcomes.map Prod.fst)⟩ := by
    rw [applyFilling, houtcomes, ok_bind]
    exact check_bind_eq_ok.mpr ⟨if_pos htargetCells, rfl⟩
  refine ⟨_, hresult, ?_⟩
  have hnil : [] ∉ t.columns ++ filling.indicator.toList := by
    rw [hindicator]
    simp [nil_notMem_columns t, indicatorName]
  have hne : t.columns ++ filling.indicator.toList ≠ [] := by
    rw [hindicator]
    simp
  refine ⟨?_, ?_, ?_⟩
  · rw [columns_write hnil, hindicator]
    rfl
  · rw [records_write hne hnil, List.length_map, List.length_map, length_mapM houtcomes]
  · intro name hname hother
    rw [records_write hne hnil, List.map_map, ← hcells name hname hother]
    refine List.map_congr_left fun row _ => ?_
    exact cell_rowOf (List.mem_append_left _ hname)

theorem continues_by_indicator (h : Imputes step column .missingnessIndicator)
    (ht : Holds t column targetColumn) (htarget : targetColumn.1 ∈ t.columns)
    (hindicator : indicatorName column.1 ∉ t.columns) :
    ∃ result, executeTabularImputationAction D ⟨step, targetColumn⟩ t = .ok result ∧
      Continues t result.candidate column := by
  rw [action_of_new_indicator h ht htarget hindicator, groupKeyFor, if_neg (by decide), ok_bind]
  exact continues_of_rows rfl rfl ht hindicator htarget fun row _ => imputeRow_indicator rfl

theorem continues_by_group (h : Imputes step column .groupMedian) (ht : Holds t column targetColumn)
    (htarget : targetColumn.1 ∈ t.columns) (hindicator : indicatorName column.1 ∉ t.columns)
    (hsegment : customerSegment.1 ∈ t.columns)
    (hvalues : Fittable D t.records column.1 customerSegment) :
    ∃ result, executeTabularImputationAction D ⟨step, targetColumn⟩ t = .ok result ∧
      Continues t result.candidate column := by
  rw [action_of_new_indicator h ht htarget hindicator, groupKeyFor, if_pos rfl,
    groupKey_of_str h.group, if_pos hsegment]
  show ∃ result, (fitFillValues D t.records column.1 .groupMedian (some customerSegment) >>= _) =
    .ok result ∧ _
  obtain ⟨fill, hfit⟩ := hvalues
  rw [hfit, ok_bind]
  exact continues_of_rows rfl rfl ht hindicator htarget fun row hrow =>
    imputeRow_group rfl ((keys_record hrow _).mpr hsegment)

end Steps

end DataForge.Plugins.Tabular.ImputationSteps
