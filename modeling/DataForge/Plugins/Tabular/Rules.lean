import DataForge.Domain.Evidence
import DataForge.Foundation.Grouping
import DataForge.Foundation.Scores
import DataForge.Foundation.Tables

namespace DataForge.Plugins.Tabular.Rules

open DataForge.Foundation.Strings
open DataForge.Foundation.Outcome
open DataForge.Foundation.Dictionary
open DataForge.Foundation.Grouping
open DataForge.Foundation.Numbers
open DataForge.Foundation.Scores
open DataForge.Foundation.Tables
open DataForge.Domain.Common
open DataForge.Domain.Passport (scoreField)
open FloatLike

inductive FieldOp where
  | gte
  | gt
  | lte
  | lt
  | eq
  | ne
  | isIn
  | notIn
deriving DecidableEq

def FieldOp.value : FieldOp → String
  | .gte => "gte"
  | .gt => "gt"
  | .lte => "lte"
  | .lt => "lt"
  | .eq => "eq"
  | .ne => "ne"
  | .isIn => "in"
  | .notIn => "not_in"

/-- The value of a check, with the text that `str` makes of it. An integer can be
beyond every float. -/
inductive RuleValue (F : Type) where
  | number (value : Option F) (typeName : String) (str : Text)
  | text (value : Text)
  | choices (values : List Text) (str : Text)

def RuleValue.str {F : Type} : RuleValue F → Text
  | .number _ _ str => str
  | .text value => value
  | .choices _ str => str

def RuleValue.typeName {F : Type} : RuleValue F → String
  | .number _ typeName _ => typeName
  | .text _ => "str"
  | .choices _ _ => "tuple"

structure RuleFieldCheck (F : Type) where
  field : NonEmptyStr
  op : FieldOp
  value : RuleValue F

inductive BusinessRuleSeverity where
  | critical
  | warning
  | info
deriving DecidableEq

structure BusinessRule (F : Type) where
  ruleId : NonEmptyStr
  description : Option NonEmptyStr
  severity : BusinessRuleSeverity
  columns : List NonEmptyStr
  checks : { checks : List (RuleFieldCheck F) // checks ≠ [] }
  allowMissing : Bool
  message : Option NonEmptyStr

variable {F : Type} [MetricLike F]

section Evaluation

def compare (op : FieldOp) (actual expected : F) : Bool :=
  match op with
  | .gte => ScoreLike.le expected actual
  | .gt => FloatLike.lt expected actual
  | .lte => ScoreLike.le actual expected
  | _ => FloatLike.lt actual expected

/-- `float(value)`, or of a text that it may not read. -/
def expectedNumber : RuleValue F → Result (Option F)
  | .number (some value) _ _ => .ok (some value)
  | .number none _ _ => .error (.plain "OverflowError" "int too large to convert to float")
  | value => .ok (MetricLike.parse value.str)

def checkNumber (raw : Text) (check : RuleFieldCheck F) : Result Bool :=
  match (MetricLike.parse raw : Option F) with
  | none => .ok false
  | some actual => do
    match ← expectedNumber check.value with
    | none => pure false
    | some expected => pure (compare check.op actual expected)

def checkMember (raw : Text) (check : RuleFieldCheck F) : Result Bool :=
  match check.value with
  | .choices values _ =>
    .ok (if check.op = .isIn then decide (raw ∈ values) else decide (raw ∉ values))
  | value => .error (.plain "ValueError"
      ("rule operator '" ++ check.op.value ++ "' requires a list value, got " ++ value.typeName))

def checkValue (raw : Text) (check : RuleFieldCheck F) : Result Bool :=
  match check.op with
  | .gte | .gt | .lte | .lt => checkNumber raw check
  | .eq => .ok (decide (raw = check.value.str))
  | .ne => .ok (decide (raw ≠ check.value.str))
  | .isIn | .notIn => checkMember raw check

/-- What `_evaluate_rule` returns, with the first check that failed. -/
structure Verdict (F : Type) where
  evaluated : Bool
  passed : Bool
  failedCheck : Option (RuleFieldCheck F)

def evaluateChecks (allowMissing : Bool) (row : Row) : List (RuleFieldCheck F) → Result (Verdict F)
  | [] => .ok ⟨true, true, none⟩
  | check :: checks => do
    let raw := cell check.field.1 row
    if raw = [] then
      if allowMissing then evaluateChecks allowMissing row checks
      else pure ⟨true, false, some check⟩
    else if ← checkValue raw check then evaluateChecks allowMissing row checks
    else pure ⟨true, false, some check⟩

def evaluateRule (rule : BusinessRule F) (row : Row) : Result (Verdict F) :=
  evaluateChecks rule.allowMissing row rule.checks.1

end Evaluation

section Evaluator

structure RuleCounters where
  evaluated : Nat := 0
  violations : Nat := 0

def RuleCounters.observe (counters : RuleCounters) (passed : Bool) : RuleCounters :=
  ⟨counters.evaluated + 1, counters.violations + if passed then 0 else 1⟩

structure BusinessRuleViolation where
  ruleId : NonEmptyStr
  objectId : Option NonEmptyStr
  column : Option Text
  message : Option NonEmptyStr

/-- The counters by rule id; rules of one id count together. -/
structure BusinessRuleEvaluator where
  counters : Dict Text RuleCounters
  sampleViolations : List BusinessRuleViolation

def defaultSampleLimit : Nat := 50

def BusinessRuleEvaluator.init (rules : List (BusinessRule F)) : BusinessRuleEvaluator :=
  ⟨update [] (rules.map fun rule => (rule.ruleId.1, {})), []⟩

def violation (objectId : Option Text) (rule : BusinessRule F) (verdict : Verdict F) :
    BusinessRuleViolation where
  ruleId := rule.ruleId
  objectId := objectId.bind nonEmpty
  column := verdict.failedCheck.map fun check => check.field.1
  message := rule.message

def BusinessRuleEvaluator.count (objectId : Option Text) (evaluator : BusinessRuleEvaluator)
    (rule : BusinessRule F) (verdict : Verdict F) : BusinessRuleEvaluator :=
  if verdict.evaluated = false then evaluator
  else
    { counters :=
        updateKey {} RuleCounters.observe evaluator.counters (rule.ruleId.1, verdict.passed)
      sampleViolations :=
        if verdict.passed = false ∧ evaluator.sampleViolations.length < defaultSampleLimit then
          evaluator.sampleViolations ++ [violation objectId rule verdict]
        else evaluator.sampleViolations }

def observeRule (row : Row) (objectId : Option Text) (evaluator : BusinessRuleEvaluator)
    (rule : BusinessRule F) : Result BusinessRuleEvaluator := do
  let verdict ← evaluateRule rule row
  pure (evaluator.count objectId rule verdict)

/-- A row with the object id that comes along. -/
def observeRow (rules : List (BusinessRule F)) (evaluator : BusinessRuleEvaluator)
    (item : Row × Option Text) : Result BusinessRuleEvaluator :=
  rules.foldlM (observeRule item.1 item.2) evaluator

structure BusinessRuleSummary (F : Type) [ScoreLike F] where
  ruleId : NonEmptyStr
  severity : BusinessRuleSeverity
  description : Option NonEmptyStr
  columns : List NonEmptyStr
  violationCount : Nat
  evaluatedCount : Nat
  passRate : Score F

structure BusinessRulesReport (F : Type) [ScoreLike F] where
  rules : List (BusinessRuleSummary F)
  sampleViolations : List BusinessRuleViolation
  blockerCandidateRuleIds : List NonEmptyStr

def RuleCounters.passRate (counters : RuleCounters) : F :=
  if 0 < counters.evaluated then
    div (ofInt ((counters.evaluated : Int) - counters.violations)) (ofInt counters.evaluated)
  else ofInt 1

def BusinessRuleEvaluator.countersOf (evaluator : BusinessRuleEvaluator) (rule : BusinessRule F) :
    RuleCounters :=
  (get? rule.ruleId.1 evaluator.counters).getD {}

def summarize (evaluator : BusinessRuleEvaluator) (rule : BusinessRule F) :
    Result (BusinessRuleSummary F) := do
  let counters := evaluator.countersOf rule
  let passRate ← scoreField "BusinessRuleSummary" "pass_rate" counters.passRate
  pure ⟨rule.ruleId, rule.severity, rule.description, rule.columns, counters.violations,
    counters.evaluated, passRate⟩

def buildReport (rules : List (BusinessRule F)) (evaluator : BusinessRuleEvaluator) :
    Result (BusinessRulesReport F) := do
  let summaries ← rules.mapM (summarize evaluator)
  let blockers := rules.filter fun rule =>
    rule.severity = .critical ∧ 0 < (evaluator.countersOf rule).violations
  pure ⟨summaries, evaluator.sampleViolations, blockers.map BusinessRule.ruleId⟩

def evaluateRules (rules : List (BusinessRule F)) (rows : List (Row × Option Text)) :
    Result (BusinessRulesReport F) := do
  let evaluator ← rows.foldlM (observeRow rules) (.init rules)
  buildReport rules evaluator

end Evaluator

end DataForge.Plugins.Tabular.Rules
