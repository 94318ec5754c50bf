import DataForge.Domain.Decision
import DataForge.Foundation.Canonical
import DataForge.Foundation.DecimalText
import DataForge.Foundation.Grouping
import DataForge.Foundation.Tables

namespace DataForge.Plugins.Tabular.Imputation

open DataForge.Foundation.Strings
open DataForge.Foundation.Outcome
open DataForge.Foundation.Canonical
open DataForge.Foundation.Decimals
open DataForge.Foundation.Dictionary
open DataForge.Foundation.Grouping
open DataForge.Foundation.Json
open DataForge.Foundation.Tables
open DataForge.Domain.Common
open DataForge.Domain.Decision
open DecimalLike

inductive ImputationMethod where
  | median
  | mode
  | groupMedian
  | missingnessIndicator
deriving DecidableEq

def ImputationMethod.value : ImputationMethod → Text
  | .median => "median".toList
  | .mode => "mode".toList
  | .groupMedian => "group_median".toList
  | .missingnessIndicator => "missingness_indicator".toList

def imputationError (reasonCode message : String)
    (code : ErrorCode := .actionPlanPreconditionFailed) : Raised :=
  .reasoned "ImputationExecutionError" reasonCode code none message

structure ExecuteTabularImputationRequest where
  step : ActionPlanStep
  targetColumn : NonEmptyStr

structure ImputationColumnReport where
  column : NonEmptyStr
  method : ImputationMethod
  indicatorColumn : Option Text
  groupKey : Option NonEmptyStr
  beforeMissingCount : Nat
  afterMissingCount : Nat
  imputedCount : Nat
  totalCount : Nat
  fillValue : Option Text
  groupImputedCounts : Dict Text Nat

structure ExecuteTabularImputationResult where
  report : ImputationColumnReport
  candidate : Table

section Config

def resolveMethod (methodId : Text) : Result ImputationMethod :=
  match [ImputationMethod.median, .mode, .groupMedian, .missingnessIndicator].find? fun method =>
    decide (method.value = methodId) with
  | some method => .ok method
  | none => .error (imputationError "unsupported_imputation_method"
      "Unsupported imputation method for MVP executor.")

def requiredConfigStr (config : Dict Text Value) (key : String) : Result NonEmptyStr :=
  match get? key.toList config with
  | some (.str (c :: s)) => .ok ⟨c :: s, List.cons_ne_nil c s⟩
  | _ => .error (imputationError "invalid_imputation_config"
      "Imputation step config is missing a required string field.")

def shouldAddIndicator (config : Dict Text Value) (method : ImputationMethod) : Bool :=
  method = .missingnessIndicator || match get? "add_missingness_indicator".toList config with
    | some (.bool true) => true
    | _ => false

def indicatorName (column : Text) : Text := column ++ "_was_missing".toList

def indicatorColumnName (column : Text) (columns : List Text) : Result Text :=
  if indicatorName column ∈ columns then
    .error (imputationError "indicator_column_already_exists"
      "Missingness indicator column already exists in source CSV.")
  else .ok (indicatorName column)

def indicatorColumn (config : Dict Text Value) (method : ImputationMethod) (column : Text)
    (columns : List Text) : Result (Option Text) :=
  if shouldAddIndicator config method then (indicatorColumnName column columns).map some
  else .ok none

def groupKeyError : Raised :=
  imputationError "group_key_not_found" "group_median requires an existing group_key column."

def groupKey (config : Dict Text Value) (columns : List Text) : Result NonEmptyStr :=
  match (get? "group_key".toList config).getD (.str "customer_segment".toList) with
  | .str (c :: s) =>
    if c :: s ∈ columns then .ok ⟨c :: s, List.cons_ne_nil c s⟩ else .error groupKeyError
  | _ => .error groupKeyError

def groupKeyFor (config : Dict Text Value) (method : ImputationMethod) (columns : List Text) :
    Result (Option NonEmptyStr) :=
  if method = .groupMedian then (groupKey config columns).map some else .ok none

end Config

section Fit

variable (D : Type) [DecimalLike D]

def parseDecimal (value : Text) : Result D :=
  match (parse value : Option D) with
  | none => .error (imputationError "non_numeric_imputation_value"
      "Median imputation can only be fitted on numeric values.")
  | some d =>
    if isFinite d then .ok d
    else .error (imputationError "non_numeric_imputation_value"
      "Median imputation can only be fitted on finite numeric values.")

/-- What the decimal context raises on a number that is too large for it. -/
def overflow : Raised := .plain "Overflow" "[<class 'decimal.Overflow'>]"

def median (values : List Text) : Result Text := do
  let parsed ← values.mapM (parseDecimal D)
  guardOk (parsed.length ≠ 0) (imputationError "no_non_missing_numeric_values"
    "Median imputation requires at least one non-missing numeric value.")
  match (middle (sortedDecimals parsed)).bind formatDecimal with
  | some text => .ok text
  | none => .error overflow

/-- The most frequent value, the least of those where several are. -/
def mode (values : List Text) : Result Text :=
  match (counter values).insertionSort fun a b => b.2 < a.2 ∨ (a.2 = b.2 ∧ a.1 ≤ b.1) with
  | item :: _ => .ok item.1
  | [] => .error (imputationError "no_non_missing_values"
      "Mode imputation requires at least one non-missing value.")

/-- The values of a column, without the empty cells. -/
def present (rows : List Row) (column : Text) : List Text :=
  (rows.map fun row => cell column row).filter (· ≠ [])

def groupMedians (rows : List Row) (column groupKey : Text) : Result (Dict Text Text) :=
  (groupItems ((rows.filter fun row => cell column row ≠ []).map fun row =>
    (cell groupKey row, cell column row))).mapM fun group => do
      let value ← median D group.2
      pure (group.1, value)

def fitFillValues (rows : List Row) (column : Text) (method : ImputationMethod)
    (groupKey : Option NonEmptyStr) : Result (Text × Dict Text Text) :=
  match method with
  | .missingnessIndicator => .ok ([], [])
  | .mode => (mode (present rows column)).map fun value => (value, [])
  | .median => (median D (present rows column)).map fun value => (value, [])
  | .groupMedian => do
    let globalMedian ← median D (present rows column)
    match groupKey with
    | none => pure (globalMedian, [])
    | some key =>
      let groups ← groupMedians D rows column key.1
      pure (globalMedian, groups)

end Fit

section Rows

/-- What the loop over the rows works with. -/
structure Filling where
  column : Text
  method : ImputationMethod
  indicator : Option Text
  groupKey : Option NonEmptyStr
  fillValue : Text
  groupFillValues : Dict Text Text

def markRow (filling : Filling) (row : Row) : Row :=
  match filling.indicator with
  | none => row
  | some name => set name (if cell filling.column row = [] then "1".toList else "0".toList) row

/-- One row, and whether its cell was filled. The group is looked up under the empty name
where there is no group key. -/
def imputeRow (filling : Filling) (row : Row) : Result (Row × Bool) :=
  if cell filling.column row = [] ∧ filling.method ≠ .missingnessIndicator then
    match get? ((filling.groupKey.map Subtype.val).getD []) (markRow filling row) with
    | none => .error (.plain "KeyError" "''")
    | some group =>
      .ok (set filling.column ((get? group filling.groupFillValues).getD filling.fillValue)
        (markRow filling row), true)
  else .ok (markRow filling row, false)

def missingCount (rows : List Row) (column : Text) : Nat :=
  rows.countP fun row => cell column row = []

def groupImputedCounts (groupKey : Option NonEmptyStr) (outcomes : List (Row × Bool)) :
    Dict Text Nat :=
  match groupKey with
  | none => []
  | some key => counter ((outcomes.filter Prod.snd).map fun outcome => cell key.1 outcome.1)

end Rows

section Execution

variable (D : Type) [DecimalLike D]

def imputeMissingValues : Text := "IMPUTE_MISSING_VALUES".toList

def readCsv (t : Table) : Result (List Row) := do
  guardOk (t.columns ≠ [])
    (imputationError "empty_tabular_source" "Source CSV has no header columns.")
  guardOk (t.records ≠ []) (imputationError "empty_tabular_source" "Source CSV has no data rows.")
  pure t.records

def columnReport (rows after : List Row) (filling : Filling) (column : NonEmptyStr)
    (outcomes : List (Row × Bool)) : ImputationColumnReport where
  column := column
  method := filling.method
  indicatorColumn := filling.indicator
  groupKey := filling.groupKey
  beforeMissingCount := missingCount rows column.1
  afterMissingCount := missingCount after column.1
  imputedCount := outcomes.countP Prod.snd
  totalCount := rows.length
  fillValue := if filling.method = .groupMedian then none else some filling.fillValue
  groupImputedCounts := groupImputedCounts filling.groupKey outcomes

/-- The rows of a source with the filled column, under its columns and the indicator. -/
def applyFilling (filling : Filling) (column targetColumn : NonEmptyStr) (columns : List Text)
    (rows : List Row) : Result ExecuteTabularImputationResult := do
  let outcomes ← rows.mapM (imputeRow filling)
  let after := outcomes.map Prod.fst
  guardOk (rows.map (cell targetColumn.1) = after.map (cell targetColumn.1))
    (imputationError "target_column_changed" "Imputation attempted to modify target values."
      .policyBlocked)
  pure
    { report := columnReport rows after filling column outcomes
      candidate := Table.write (columns ++ filling.indicator.toList) after }

def executeTabularImputationAction (request : ExecuteTabularImputationRequest) (t : Table) :
    Result ExecuteTabularImputationResult := do
  guardOk (request.step.type.1 = imputeMissingValues)
    (imputationError "unsupported_action_step_type"
    "Only IMPUTE_MISSING_VALUES steps can be executed by the imputation executor.")
  let method ← resolveMethod request.step.methodId.1
  let column ← requiredConfigStr request.step.config "column"
  guardOk (column ≠ request.targetColumn) (imputationError "target_column_auto_imputation_forbidden"
    "Target column auto-imputation is blocked by policy." .policyBlocked)
  let rows ← readCsv t
  guardOk (column.1 ∈ t.columns) (imputationError "imputation_column_not_found"
    "Imputation column is not present in source CSV.")
  guardOk (request.targetColumn.1 ∈ t.columns) (imputationError "target_column_not_found"
    "Target column is not present in source CSV.")
  let indicator ← indicatorColumn request.step.config method column.1 t.columns
  let key ← groupKeyFor request.step.config method t.columns
  let fill ← fitFillValues D rows column.1 method key
  applyFilling ⟨column.1, method, indicator, key, fill.1, fill.2⟩ column request.targetColumn
    t.columns rows

end Execution

end DataForge.Plugins.Tabular.Imputation
