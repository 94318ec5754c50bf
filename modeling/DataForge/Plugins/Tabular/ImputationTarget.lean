import DataForge.Plugins.Tabular.ImputedCells

namespace DataForge.Plugins.Tabular.ImputationTarget

open DataForge.Foundation.Strings
open DataForge.Foundation.Outcome
open DataForge.Foundation.Failures
open DataForge.Foundation.Dictionary
open DataForge.Foundation.Decimals
open DataForge.Foundation.DecimalText
open DataForge.Foundation.Grouping
open DataForge.Foundation.Json
open DataForge.Foundation.Tables
open DataForge.Domain.Common
open DataForge.Domain.Decision
open DataForge.Plugins.Tabular.Imputation
open DataForge.Plugins.Tabular.ImputationSteps
open DataForge.Plugins.Tabular.ImputedCells

section Fit

variable (D : Type) [DecimalLike D] {rows rows' : List Row} {column : Text}

/-- Two rows that agree in a column, and in the group key where there is one. -/
def FitAlike (column : Text) (groupKey : Option NonEmptyStr) (row row' : Row) : Prop :=
  cell column row = cell column row' ∧ ∀ key, groupKey = some key → cell key.1 row = cell key.1 row'

variable {groupKey : Option NonEmptyStr}

theorem present_congr (h : List.Forall₂ (FitAlike column groupKey) rows rows') :
    present rows column = present rows' column := by
  rw [present, present]
  congr 1
  induction h with
  | nil => rfl
  | cons hrow _ ih => rw [List.map_cons, List.map_cons, ih, hrow.1]

theorem groupMedians_congr {key : NonEmptyStr}
    (h : List.Forall₂ (FitAlike column (some key)) rows rows') :
    groupMedians D rows column key.1 = groupMedians D rows' column key.1 := by
  have hpairs : (rows.filter fun row => cell column row ≠ []).map
      (fun row => (cell key.1 row, cell column row)) =
        (rows'.filter fun row => cell column row ≠ []).map
          fun row => (cell key.1 row, cell column row) := by
    induction h with
    | nil => rfl
    | cons hrow _ ih =>
      rw [List.filter_cons, List.filter_cons, hrow.1]
      split
      · rw [List.map_cons, List.map_cons, ih, hrow.1, hrow.2 key rfl]
      · exact ih
  rw [groupMedians, groupMedians, hpairs]

/-- The fill values are read off the column and the group key. -/
theorem fitFillValues_congr (method : ImputationMethod)
    (h : List.Forall₂ (FitAlike column groupKey) rows rows') :
    fitFillValues D rows column method groupKey = fitFillValues D rows' column method groupKey := by
  cases method with
  | missingnessIndicator => rfl
  | mode => rw [fitFillValues, fitFillValues, present_congr h]
  | median => rw [fitFillValues, fitFillValues, present_congr h]
  | groupMedian =>
    rw [fitFillValues, fitFillValues, present_congr h]
    cases groupKey with
    | none => rfl
    | some key =>
      simp only []
      rw [groupMedians_congr D h]

end Fit

section Runs

variable {D : Type} [DecimalLike D] {request : ExecuteTabularImputationRequest} {t t' : Table}
  {column : NonEmptyStr} {filling : Filling} {outcomes : List (Row × Bool)}
  {result result' : ExecuteTabularImputationResult}

/-- An accepted step is a fitted one whose loop got through. -/
theorem fitted_of_ok (h : executeTabularImputationAction D request t = .ok result) :
    ∃ column filling outcomes, Fitted D request t column filling ∧
      t.records.mapM (imputeRow filling) = .ok outcomes ∧
      result = resultOf t column filling outcomes := by
  rw [executeTabularImputationAction] at h
  obtain ⟨htype, h⟩ := check_bind_eq_ok.mp h
  obtain ⟨method, hmethod, h⟩ := bind_eq_ok.mp h
  obtain ⟨column, hcolumn, h⟩ := bind_eq_ok.mp h
  obtain ⟨hother, h⟩ := check_bind_eq_ok.mp h
  obtain ⟨rows, hread, h⟩ := bind_eq_ok.mp h
  obtain ⟨hfound, h⟩ := check_bind_eq_ok.mp h
  obtain ⟨htarget, h⟩ := check_bind_eq_ok.mp h
  obtain ⟨indicator, hindicator, h⟩ := bind_eq_ok.mp h
  obtain ⟨key, hkey, h⟩ := bind_eq_ok.mp h
  obtain ⟨fill, hfit, h⟩ := bind_eq_ok.mp h
  rw [readCsv] at hread
  obtain ⟨-, hread⟩ := check_bind_eq_ok.mp hread
  obtain ⟨hrows, hread⟩ := check_bind_eq_ok.mp hread
  obtain rfl := Except.ok.inj hread
  rw [applyFilling] at h
  obtain ⟨outcomes, houtcomes, h⟩ := bind_eq_ok.mp h
  obtain ⟨-, h⟩ := check_bind_eq_ok.mp h
  refine ⟨column, ⟨column.1, method, indicator, key, fill.1, fill.2⟩, outcomes, ?_, houtcomes, ?_⟩
  · exact ⟨guardOk_eq_ok.mp htype, hmethod, hcolumn, rfl, guardOk_eq_ok.mp hother,
      guardOk_eq_ok.mp hrows, guardOk_eq_ok.mp hfound, guardOk_eq_ok.mp htarget, hindicator, hkey,
      hfit⟩
  · exact (Except.ok.inj h).symm

/-- The cell of the filled column. -/
def filledCell (filling : Filling) (row : Row) : Text :=
  if cell filling.column row = [] ∧ filling.method = .groupMedian then
    (get? (cell ((filling.groupKey.map Subtype.val).getD []) row) filling.groupFillValues).getD
      filling.fillValue
  else cell filling.column row

theorem cell_filled {row : Row} {outcome : Row × Bool} (hsound : Sound filling)
    (hkey : filling.indicator ≠ some ((filling.groupKey.map Subtype.val).getD []))
    (hgroup : filling.method = .groupMedian ∨ filling.method = .missingnessIndicator ∨
      cell filling.column row ≠ [])
    (h : imputeRow filling row = .ok outcome) :
    cell filling.column outcome.1 = filledCell filling row := by
  have hkept : cell filling.column (markRow filling row) = cell filling.column row := by
    rw [cell, get?_markRow hsound.indicator, cell]
  rw [imputeRow] at h
  rw [filledCell]
  split at h
  · next hmissing =>
    have hmethod : filling.method = .groupMedian :=
      (hgroup.resolve_right fun hcase => hcase.elim hmissing.2 fun hcell => hcell hmissing.1)
    rw [if_pos ⟨hmissing.1, hmethod⟩]
    split at h
    · cases h
    · next group hlookup =>
      obtain rfl := Except.ok.inj h
      rw [get?_markRow hkey] at hlookup
      rw [cell_set_self, cell.eq_def ((filling.groupKey.map Subtype.val).getD []), hlookup,
        Option.getD_some]
  · next hpresent =>
    obtain rfl := Except.ok.inj h
    rw [hkept, if_neg fun hmissing => hpresent ⟨hmissing.1, by rw [hmissing.2]; decide⟩]

/-- The filled column of an accepted step, row by row. -/
theorem filledColumn (h : Fitted D request t column filling)
    (houtcomes : t.records.mapM (imputeRow filling) = .ok outcomes) :
    (resultOf t column filling outcomes).candidate.records.map (cell column.1) =
      t.records.map (filledCell filling) := by
  have hcase := h.rows_iff.mp ⟨outcomes, houtcomes⟩
  have hunnamed : filling.indicator ≠ some ((filling.groupKey.map Subtype.val).getD []) := by
    intro hindicator
    by_cases hmethod : filling.method = .groupMedian
    · obtain ⟨key, hkey, hmem⟩ := h.key.2 hmethod
      rw [hkey] at hindicator
      exact (h.new hindicator).2 hmem
    · rw [h.key.1 hmethod] at hindicator
      exact (h.new hindicator).1 rfl
  have hcells : outcomes.map (fun outcome => cell filling.column outcome.1) =
      t.records.map (filledCell filling) := by
    refine map_of_mapM_mem (fun row hrow outcome hout => ?_) houtcomes
    refine cell_filled h.sound hunnamed ?_ hout
    exact hcase.imp_right fun hcase => hcase.imp_right fun hkept => h.name ▸ hkept row hrow
  rw [h.records.2, List.map_map, List.map_map, ← hcells]
  refine List.map_congr_left fun outcome _ => ?_
  rw [Function.comp_apply, Function.comp_apply, cell_rowOf (List.mem_append_left _ h.found), h.name]

end Runs

section Blindness

variable {request : ExecuteTabularImputationRequest} {t t' : Table} {column column' : NonEmptyStr}
  {filling filling' : Filling}

/-- Two sources under one header that differ in the cells of the target column only. -/
structure SameButTarget (target : Text) (t t' : Table) : Prop where
  columns : t'.columns = t.columns
  rows : List.Forall₂ (fun row row' => ∀ name, name ≠ target → cell name row = cell name row')
    t.records t'.records

/-- No cell of the filled column tells two such sources apart. -/
def TargetBlind (request : ExecuteTabularImputationRequest) : Prop :=
  ∀ (t t' : Table) (result result' : ExecuteTabularImputationResult) (column : NonEmptyStr),
    requiredConfigStr request.step.config "column" = .ok column →
    SameButTarget request.targetColumn.1 t t' →
    executeTabularImputationAction Decimal request t = .ok result →
    executeTabularImputationAction Decimal request t' = .ok result' →
    result.candidate.records.map (cell column.1) = result'.candidate.records.map (cell column.1)

/-- A step of group medians whose group key is the target, and that has no other quarrel
with the executor. -/
structure GroupsByTarget (request : ExecuteTabularImputationRequest) (column : NonEmptyStr) :
    Prop where
  type : request.step.type.1 = imputeMissingValues
  method : resolveMethod request.step.methodId.1 = .ok .groupMedian
  config : requiredConfigStr request.step.config "column" = .ok column
  other : column ≠ request.targetColumn
  key : (get? "group_key".toList request.step.config).getD (.str "customer_segment".toList) =
    .str request.targetColumn.1
  indicator : shouldAddIndicator request.step.config .groupMedian = true →
    indicatorName column.1 ≠ request.targetColumn.1

theorem groupKey_name {config : Dict Text Value} {columns : List Text} {key : NonEmptyStr}
    (h : groupKey config columns = .ok key) :
    (get? "group_key".toList config).getD (.str "customer_segment".toList) = .str key.1 := by
  rw [groupKey] at h
  split at h
  · next hname =>
    split at h
    · obtain rfl := Except.ok.inj h
      exact hname
    · cases h
  · cases h

/-- A fitted step that groups by the target is one that the condition describes. -/
theorem groupsByTarget_of_key {D : Type} [DecimalLike D] (h : Fitted D request t column filling)
    (hkey : filling.groupKey = some request.targetColumn) : GroupsByTarget request column := by
  have hmethod : filling.method = .groupMedian := by
    by_contra hne
    rw [h.key.1 hne] at hkey
    cases hkey
  refine ⟨h.type, hmethod ▸ h.method, h.config, h.other, ?_, fun hadd heq => ?_⟩
  · have hfound := h.groupKey
    rw [groupKeyFor, if_pos hmethod, hkey] at hfound
    obtain ⟨key, hname, hsome⟩ := map_eq_ok.mp hfound
    obtain rfl := Option.some.inj hsome
    exact groupKey_name hname
  · have hindicator := h.indicator
    rw [hmethod, indicatorColumn, if_pos hadd, indicatorColumnName,
      if_pos (heq ▸ h.target)] at hindicator
    cases hindicator

/-- Two fittings of one step over such sources are the same, where it does not group by the
target. -/
theorem filling_unique {D : Type} [DecimalLike D]
    (hsame : SameButTarget request.targetColumn.1 t t')
    (h : Fitted D request t column filling) (h' : Fitted D request t' column' filling')
    (hkey : filling.groupKey ≠ some request.targetColumn) : filling' = filling := by
  obtain rfl := Except.ok.inj (h.config.symm.trans h'.config)
  have hmethod : filling'.method = filling.method := Except.ok.inj (h'.method.symm.trans h.method)
  have hindicator : filling'.indicator = filling.indicator := by
    have heq := h'.indicator
    rw [hsame.columns, hmethod, h.indicator] at heq
    exact (Except.ok.inj heq).symm
  have hgroup : filling'.groupKey = filling.groupKey := by
    have heq := h'.groupKey
    rw [hsame.columns, hmethod, h.groupKey] at heq
    exact (Except.ok.inj heq).symm
  have halike : List.Forall₂ (FitAlike column.1 filling.groupKey) t.records t'.records := by
    refine hsame.rows.imp fun row row' hrow => ⟨hrow _ fun heq => h.other (Subtype.ext heq), ?_⟩
    intro key hsome
    exact hrow _ fun heq => hkey (by rw [hsome, Subtype.ext heq])
  have hfit := h'.fit
  rw [hmethod, hgroup, ← fitFillValues_congr D filling.method halike, h.fit] at hfit
  obtain ⟨hvalue, hvalues⟩ := Prod.mk.inj (Except.ok.inj hfit)
  have hname : filling'.column = filling.column := h'.name.trans h.name.symm
  cases filling
  cases filling'
  simp only [Filling.mk.injEq]
  exact ⟨hname, hmethod, hindicator, hgroup, hvalue.symm, hvalues.symm⟩

theorem blind_of_not_groupsByTarget (h : ¬ ∃ column, GroupsByTarget request column) :
    TargetBlind request := by
  intro t t' result result' column hcolumn hsame hresult hresult'
  obtain ⟨column₁, filling, outcomes, hfitted, houtcomes, rfl⟩ := fitted_of_ok hresult
  obtain ⟨column₂, filling', outcomes', hfitted', houtcomes', rfl⟩ := fitted_of_ok hresult'
  obtain rfl := Except.ok.inj (hcolumn.symm.trans hfitted.config)
  obtain rfl := Except.ok.inj (hcolumn.symm.trans hfitted'.config)
  have hkey : filling.groupKey ≠ some request.targetColumn :=
    fun hkey => h ⟨column, groupsByTarget_of_key hfitted hkey⟩
  obtain rfl := filling_unique hsame hfitted hfitted' hkey
  rw [filledColumn hfitted houtcomes, filledColumn hfitted' houtcomes']
  have hcolumnCell :
      ∀ row row', (∀ name, name ≠ request.targetColumn.1 → cell name row = cell name row') →
      filledCell filling' row = filledCell filling' row' := by
    intro row row' hrow
    have hcell : cell filling'.column row = cell filling'.column row' :=
      hrow _ fun heq => hfitted.other (Subtype.ext (hfitted.name.symm.trans heq))
    rw [filledCell, filledCell, hcell]
    refine if_ctx_congr Iff.rfl (fun hmissing => ?_) fun _ => rfl
    obtain ⟨key, hsome, -⟩ := hfitted.key.2 hmissing.2
    rw [hsome, Option.map_some, Option.getD_some,
      hrow key.1 fun heq => hkey (by rw [hsome, Subtype.ext heq])]
  have hrows := hsame.rows
  generalize t.records = rows at hrows
  generalize t'.records = rows' at hrows
  induction hrows with
  | nil => rfl
  | cons hrow _ ih => rw [List.map_cons, List.map_cons, hcolumnCell _ _ hrow, ih]

end Blindness

section Leak

variable {request : ExecuteTabularImputationRequest} {column target : NonEmptyStr}

/-- Two groups of one value each and a missing value in the group of its label. -/
def labelled (column target : NonEmptyStr) (group : Text) : Table where
  header := [column.1, target.1]
  lines := [["1".toList, "a".toList], ["3".toList, "b".toList], [[], group]]

def labelledRow (column target : NonEmptyStr) (value group : Text) : Row :=
  rowOf [column.1, target.1] fun name => if name = column.1 then value else group

theorem columns_labelled (group : Text) :
    (labelled column target group).columns = [column.1, target.1] := by
  rw [Table.columns, labelled, List.filter_eq_self.mpr]
  intro name hname
  rcases List.mem_pair.mp hname with rfl | rfl
  · simpa using column.2
  · simpa using target.2

theorem records_labelled (hne : column ≠ target) (group : Text) :
    (labelled column target group).records = [labelledRow column target "1".toList "a".toList,
      labelledRow column target "3".toList "b".toList, labelledRow column target [] group] := by
  have hvalue : ∀ value label : Text, rowOf (labelled column target group).columns
      ((labelled column target group).value [value, label]) =
        labelledRow column target value label := by
    intro value label
    rw [columns_labelled, labelledRow]
    refine rowOf_congr fun name hname => ?_
    have hother : column.1 ≠ target.1 := fun heq => hne (Subtype.ext heq)
    rcases List.mem_pair.mp hname with rfl | rfl
    · show cell column.1 (update [] [(column.1, value), (target.1, label)]) = _
      rw [update_cons, update_cons, if_pos rfl]
      exact (cell_set_ne hother.symm _).trans (cell_set_self _)
    · show cell target.1 (update [] [(column.1, value), (target.1, label)]) = _
      rw [update_cons, update_cons, if_neg hother.symm]
      exact cell_set_self _
  rw [Table.records, ← hvalue "1".toList, ← hvalue "3".toList, ← hvalue []]
  rfl

theorem cell_column_labelledRow (value group : Text) :
    cell column.1 (labelledRow column target value group) = value := by
  rw [labelledRow, cell_rowOf List.mem_cons_self, if_pos rfl]

theorem cell_target_labelledRow (hne : column ≠ target) (value group : Text) :
    cell target.1 (labelledRow column target value group) = group := by
  rw [labelledRow, cell_rowOf (List.mem_cons_of_mem _ List.mem_cons_self),
    if_neg fun heq => hne (Subtype.ext heq.symm)]

theorem labelledRow_agree (value group group' : Text) {name : Text} (hname : name ≠ target.1) :
    cell name (labelledRow column target value group) =
      cell name (labelledRow column target value group') := by
  by_cases hcolumn : name = column.1
  · rw [hcolumn, cell_column_labelledRow, cell_column_labelledRow]
  · have hnot : name ∉ [column.1, target.1] := by simp [hcolumn, hname]
    rw [labelledRow, labelledRow, cell_rowOf_of_notMem hnot, cell_rowOf_of_notMem hnot]

theorem sameButTarget_labelled (hne : column ≠ target) (group group' : Text) :
    SameButTarget target.1 (labelled column target group) (labelled column target group') := by
  refine ⟨by rw [columns_labelled, columns_labelled], ?_⟩
  rw [records_labelled hne, records_labelled hne]
  exact .cons (fun name => labelledRow_agree _ _ _) (.cons (fun name => labelledRow_agree _ _ _)
    (.cons (fun name => labelledRow_agree _ _ _) .nil))

def labelFilling (request : ExecuteTabularImputationRequest) (column : NonEmptyStr) : Filling where
  column := column.1
  method := .groupMedian
  indicator := if shouldAddIndicator request.step.config .groupMedian then
    some (indicatorName column.1) else none
  groupKey := some request.targetColumn
  fillValue := "2".toList
  groupFillValues := [("a".toList, "1".toList), ("b".toList, "3".toList)]

theorem fit_labelled (hne : column ≠ target) (group : Text) :
    fitFillValues Decimal (labelled column target group).records column.1 .groupMedian
      (some target) =
      .ok ("2".toList, [("a".toList, "1".toList), ("b".toList, "3".toList)]) := by
  have hpresent : present (labelled column target group).records column.1 =
      ["1".toList, "3".toList] := by
    rw [present, records_labelled hne]
    simp [cell_column_labelledRow]
  have hgroups : groupMedians Decimal (labelled column target group).records column.1 target.1 =
      .ok [("a".toList, "1".toList), ("b".toList, "3".toList)] := by
    have hpairs :
        (((labelled column target group).records.filter fun row => cell column.1 row ≠ []).map
        fun row => (cell target.1 row, cell column.1 row)) =
          [("a".toList, "1".toList), ("b".toList, "3".toList)] := by
      rw [records_labelled hne]
      simp [cell_column_labelledRow, cell_target_labelledRow hne]
    rw [groupMedians, hpairs]
    decide +kernel
  have hglobal : median Decimal ["1".toList, "3".toList] = .ok "2".toList := by decide +kernel
  rw [fitFillValues, hpresent, hglobal, ok_bind]
  simp only [hgroups, ok_bind]
  rfl

theorem fitted_labelled (h : GroupsByTarget request column) (group : Text) :
    Fitted Decimal request (labelled column request.targetColumn group) column
      (labelFilling request column) := by
  have htarget : request.targetColumn.1 ∈ [column.1, request.targetColumn.1] :=
    List.mem_cons_of_mem _ List.mem_cons_self
  refine ⟨h.type, h.method, h.config, rfl, h.other, ?_, ?_, ?_, ?_, ?_, fit_labelled h.other group⟩
  · rw [records_labelled h.other]
    exact List.cons_ne_nil _ _
  · rw [columns_labelled]
    exact List.mem_cons_self
  · rw [columns_labelled]
    exact htarget
  · rw [columns_labelled, indicatorColumn, labelFilling]
    by_cases hadd : shouldAddIndicator request.step.config .groupMedian = true
    · have hnew : indicatorName column.1 ∉ [column.1, request.targetColumn.1] := by
        intro hmem
        rcases List.mem_pair.mp hmem with heq | heq
        · simpa [indicatorName] using congrArg List.length heq
        · exact h.indicator hadd heq
      rw [if_pos hadd, if_pos hadd, indicatorColumnName, if_neg hnew]
      rfl
    · rw [if_neg hadd, if_neg hadd]
  · rw [columns_labelled, groupKeyFor, labelFilling, if_pos rfl, groupKey_of_str h.key,
      if_pos htarget]
    rfl

theorem leaks_of_groupsByTarget (h : GroupsByTarget request column) : ¬ TargetBlind request := by
  intro hblind
  have hrun : ∀ group, ∃ result, executeTabularImputationAction Decimal request
      (labelled column request.targetColumn group) = .ok result ∧
        result.candidate.records.map (cell column.1) =
          ["1".toList, "3".toList,
            (get? group [("a".toList, "1".toList), ("b".toList, "3".toList)]).getD "2".toList] := by
    intro group
    have hfitted := fitted_labelled h group
    obtain ⟨outcomes, houtcomes⟩ := hfitted.rows_iff.mpr (.inl rfl)
    refine ⟨_, hfitted.action_eq_ok houtcomes, ?_⟩
    rw [filledColumn hfitted houtcomes, records_labelled h.other]
    simp [filledCell, labelFilling, cell_column_labelledRow, cell_target_labelledRow h.other]
  obtain ⟨result, hresult, hcells⟩ := hrun "a".toList
  obtain ⟨result', hresult', hcells'⟩ := hrun "b".toList
  have hsame :=
    hblind _ _ _ _ column h.config (sameButTarget_labelled h.other "a".toList "b".toList)
    hresult hresult'
  rw [hcells, hcells'] at hsame
  exact absurd hsame (by decide)

/-- The imputed values are blind to the target exactly where the step does not group its
medians by it. -/
theorem target_blind_iff :
    TargetBlind request ↔ ¬ ∃ column, GroupsByTarget request column := by
  constructor
  · rintro hblind ⟨column, h⟩
    exact leaks_of_groupsByTarget h hblind
  · exact blind_of_not_groupsByTarget

/-- A step whose target is the segment that it groups the amounts by. -/
theorem groupsByTarget_segment : GroupsByTarget ⟨amountStep .groupMedian, segment⟩ amount where
  type := rfl
  method := by decide +kernel
  config := rfl
  other := by decide
  key := rfl
  indicator hadd := absurd hadd (by decide)

theorem target_leaks : ¬ ∀ request : ExecuteTabularImputationRequest, TargetBlind request := by
  intro h
  exact leaks_of_groupsByTarget groupsByTarget_segment (h _)

end Leak

end DataForge.Plugins.Tabular.ImputationTarget
