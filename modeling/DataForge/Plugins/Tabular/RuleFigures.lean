import DataForge.Foundation.Failures
import DataForge.Plugins.Tabular.Rules

namespace DataForge.Plugins.Tabular.RuleFigures

open DataForge.Foundation.Strings
open DataForge.Foundation.Outcome
open DataForge.Foundation.Failures
open DataForge.Foundation.Dictionary
open DataForge.Foundation.Grouping
open DataForge.Foundation.Numbers
open DataForge.Foundation.Scores
open DataForge.Foundation.Tables
open DataForge.Domain.Common
open DataForge.Domain.Passport (scoreField scoreField_eq_ok)
open DataForge.Plugins.Tabular.Rules
open FloatLike

section Sharing

variable {F : Type}

/-- The rules that count under the id of a rule. -/
def sharing (rules : List (BusinessRule F)) (rule : BusinessRule F) : List (BusinessRule F) :=
  rules.filter fun other => other.ruleId.1 = rule.ruleId.1

theorem sharing_of_nodup {rules : List (BusinessRule F)} {rule : BusinessRule F}
    (h : (rules.map BusinessRule.ruleId).Nodup) (hrule : rule ∈ rules) :
    sharing rules rule = [rule] := by
  induction rules with
  | nil => cases hrule
  | cons first rules ih =>
    obtain ⟨hfirst, hrest⟩ := List.nodup_cons.mp h
    rw [sharing, List.filter_cons]
    rcases List.mem_cons.mp hrule with rfl | hmem
    · have hnone : rules.filter (fun other => other.ruleId.1 = rule.ruleId.1) = [] :=
        List.filter_eq_nil_iff.mpr fun other hother => by
          simpa using fun heq => hfirst (List.mem_map.mpr ⟨other, hother, Subtype.ext heq⟩)
      simp [hnone]
    · have hne : first.ruleId.1 ≠ rule.ruleId.1 := fun heq =>
        hfirst (List.mem_map.mpr ⟨rule, hmem, Subtype.ext heq.symm⟩)
      rw [if_neg (by simpa using hne)]
      exact ih hrest hmem

theorem nodup_of_sharing {rules : List (BusinessRule F)}
    (h : ∀ rule ∈ rules, (sharing rules rule).length = 1) :
    (rules.map BusinessRule.ruleId).Nodup := by
  rw [List.nodup_iff_count_le_one]
  intro id
  by_cases hid : id ∈ rules.map BusinessRule.ruleId
  · obtain ⟨rule, hrule, rfl⟩ := List.mem_map.mp hid
    rw [List.count_eq_countP, List.countP_map, List.countP_eq_length_filter]
    apply (le_of_eq · |>.trans (h rule hrule).le)
    congr 1
    apply List.filter_congr
    intro other _
    exact Bool.eq_iff_iff.mpr (by simp)
  · rw [List.count_eq_zero.mpr hid]
    exact Nat.zero_le 1

end Sharing

variable {F : Type} [MetricLike F]

section Checks

def IsTooLarge (value : RuleValue F) : Prop := ∃ typeName str, value = .number none typeName str

def IsList (value : RuleValue F) : Prop := ∃ values str, value = .choices values str

/-- A value that the check's operator has no meaning for: membership in what is no list,
or the comparison of a number with an integer beyond every float. -/
def IllTyped (raw : Text) (check : RuleFieldCheck F) : Prop :=
  check.op ∈ [.isIn, .notIn] ∧ ¬ IsList check.value ∨
    check.op ∈ [.gte, .gt, .lte, .lt] ∧ (MetricLike.parse raw : Option F) ≠
      none ∧ IsTooLarge check.value

theorem ok_expectedNumber (value : RuleValue F) :
    (∃ expected, expectedNumber value = .ok expected) ↔ ¬ IsTooLarge value := by
  match value with
  | .number none typeName str => simp [expectedNumber, IsTooLarge]
  | .number (some value) typeName str => simp [expectedNumber, IsTooLarge]
  | .text value => simp [expectedNumber, IsTooLarge]
  | .choices values str => simp [expectedNumber, IsTooLarge]

theorem ok_checkNumber (raw : Text) (check : RuleFieldCheck F) :
    (∃ passed, checkNumber raw check = .ok passed) ↔
      ¬ ((MetricLike.parse raw : Option F) ≠ none ∧ IsTooLarge check.value) := by
  rw [checkNumber]
  cases (MetricLike.parse raw : Option F) with
  | none => simp
  | some actual =>
    rw [not_and, ← ok_expectedNumber]
    constructor
    · rintro ⟨passed, h⟩ -
      obtain ⟨expected, hexpected, -⟩ := bind_eq_ok.mp h
      exact ⟨expected, hexpected⟩
    · intro h
      obtain ⟨expected, hexpected⟩ := h (by simp)
      rw [hexpected]
      cases expected with
      | none => exact ⟨false, rfl⟩
      | some expected => exact ⟨compare check.op actual expected, rfl⟩

omit [MetricLike F] in
theorem ok_checkMember (raw : Text) (check : RuleFieldCheck F) :
    (∃ passed, checkMember raw check = .ok passed) ↔ IsList check.value := by
  rw [checkMember]
  cases check.value <;> simp [IsList]

/-- A check is read without an error unless it is ill typed for the cell. -/
theorem ok_checkValue (raw : Text) (check : RuleFieldCheck F) :
    (∃ passed, checkValue raw check = .ok passed) ↔ ¬ IllTyped raw check := by
  have hnumber := ok_checkNumber raw check
  have hmember := ok_checkMember raw check
  rw [checkValue, IllTyped]
  cases check.op with
  | gte | gt | lte | lt => simpa using hnumber
  | eq | ne => simp [em]
  | isIn | notIn => simpa using hmember

/-- Whether a cell passes a check, an empty one where the rule allows it. -/
def passes (allowMissing : Bool) (row : Row) (check : RuleFieldCheck F) : Bool :=
  if cell check.field.1 row = [] then allowMissing
  else (checkValue (cell check.field.1 row) check).toOption.getD false

/-- All checks of the rule have to pass. -/
def violates (rule : BusinessRule F) (row : Row) : Bool :=
  !(rule.checks.1.all (passes rule.allowMissing row))

/-- A check that the row comes to after it passed the ones before is ill typed. -/
def MeetsIllTyped (allowMissing : Bool) (row : Row) (checks : List (RuleFieldCheck F)) : Prop :=
  ∃ before check after, checks = before ++ check :: after ∧
    (∀ earlier ∈ before, passes allowMissing row earlier = true) ∧
    cell check.field.1 row ≠ [] ∧ IllTyped (cell check.field.1 row) check

theorem meetsIllTyped_cons {allowMissing : Bool} {row : Row} {check : RuleFieldCheck F}
    {checks : List (RuleFieldCheck F)} :
    MeetsIllTyped allowMissing row (check :: checks) ↔
      cell check.field.1 row ≠ [] ∧ IllTyped (cell check.field.1 row) check ∨
        passes allowMissing row check = true ∧ MeetsIllTyped allowMissing row checks := by
  constructor
  · rintro ⟨before, bad, after, hsplit, hbefore, hbad⟩
    match before, hsplit with
    | [], hsplit =>
      obtain ⟨rfl, rfl⟩ := List.cons.inj hsplit
      exact .inl hbad
    | first :: before, hsplit =>
      obtain ⟨rfl, rfl⟩ := List.cons.inj hsplit
      rw [List.forall_mem_cons] at hbefore
      exact .inr ⟨hbefore.1, before, bad, after, rfl, hbefore.2, hbad⟩
  · rintro (hbad | ⟨hpass, before, bad, after, rfl, hbefore, hbad⟩)
    · exact ⟨[], check, checks, rfl, by simp, hbad⟩
    · exact ⟨check :: before, bad, after, rfl, List.forall_mem_cons.mpr ⟨hpass, hbefore⟩, hbad⟩

/-- The rule's verdict, where the evaluation comes to one. -/
theorem evaluateChecks_eq_ok {allowMissing : Bool} {row : Row} {checks : List (RuleFieldCheck F)}
    {verdict : Verdict F} : evaluateChecks allowMissing row checks = .ok verdict ↔
      ¬ MeetsIllTyped allowMissing row checks ∧
        verdict = ⟨true, checks.all (passes allowMissing row),
          checks.find? fun check => !passes allowMissing row check⟩ := by
  induction checks with
  | nil =>
    have hnone : ¬ MeetsIllTyped allowMissing row ([] : List (RuleFieldCheck F)) := by
      rintro ⟨before, check, after, h, -⟩
      simp at h
    simp [evaluateChecks, hnone, eq_comm (a := verdict)]
  | cons check checks ih =>
    rw [meetsIllTyped_cons, List.all_cons, List.find?_cons, evaluateChecks]
    by_cases hempty : cell check.field.1 row = []
    · have hpasses : passes allowMissing row check = allowMissing := by rw [passes, if_pos hempty]
      rw [if_pos hempty, hpasses]
      cases allowMissing with
      | true => simp [ih, hempty]
      | false => simp [hempty, eq_comm (a := verdict), pure, Except.pure]
    · rw [if_neg hempty]
      have hvalue := ok_checkValue (cell check.field.1 row) check
      cases hcheck : checkValue (cell check.field.1 row) check with
      | error e =>
        have hill : IllTyped (cell check.field.1 row) check := by
          by_contra hne
          obtain ⟨passed, hpassed⟩ := hvalue.mpr hne
          cases hcheck.symm.trans hpassed
        simp [hempty, hill]
      | ok passed =>
        have hwell : ¬ IllTyped (cell check.field.1 row) check := hvalue.mp ⟨passed, hcheck⟩
        have hpasses : passes allowMissing row check = passed := by
          rw [passes, if_neg hempty, hcheck]
          rfl
        rw [hpasses, ok_bind]
        cases passed with
        | true => simp [ih, hwell]
        | false => simp [hwell, eq_comm (a := verdict), pure, Except.pure]

theorem evaluateRule_eq_ok {rule : BusinessRule F} {row : Row} {verdict : Verdict F} :
    evaluateRule rule row = .ok verdict ↔ ¬ MeetsIllTyped rule.allowMissing row rule.checks.1 ∧
      verdict = ⟨true, !violates rule row,
        rule.checks.1.find? fun check => !passes rule.allowMissing row check⟩ := by
  rw [evaluateRule, evaluateChecks_eq_ok, violates, Bool.not_not]

end Checks

section Run

/-- The verdict on a row that meets no ill-typed check. -/
def verdictOf (rule : BusinessRule F) (row : Row) : Verdict F :=
  ⟨true, !violates rule row, rule.checks.1.find? fun check => !passes rule.allowMissing row check⟩

/-- No row comes to an ill-typed check of a rule. -/
def WellTyped (rules : List (BusinessRule F)) (rows : List (Row × Option Text)) : Prop :=
  ∀ item ∈ rows, ∀ rule ∈ rules, ¬ MeetsIllTyped rule.allowMissing item.1 rule.checks.1

def afterRow (rules : List (BusinessRule F)) (evaluator : BusinessRuleEvaluator)
    (item : Row × Option Text) : BusinessRuleEvaluator :=
  rules.foldl (fun evaluator rule => evaluator.count item.2 rule (verdictOf rule item.1)) evaluator

def afterRows (rules : List (BusinessRule F)) (rows : List (Row × Option Text)) :
    BusinessRuleEvaluator :=
  rows.foldl (afterRow rules) (.init rules)

theorem observeRow_eq_ok {rules : List (BusinessRule F)} {evaluator next : BusinessRuleEvaluator}
    {item : Row × Option Text} : observeRow rules evaluator item = .ok next ↔
      (∀ rule ∈ rules, ¬ MeetsIllTyped rule.allowMissing item.1 rule.checks.1) ∧
        next = afterRow rules evaluator item := by
  apply foldlM_eq_ok_iff
  intro evaluator rule next
  rw [observeRule, bind_eq_ok]
  constructor
  · rintro ⟨verdict, hverdict, h⟩
    obtain ⟨hwell, rfl⟩ := evaluateRule_eq_ok.mp hverdict
    exact ⟨hwell, (Except.ok.inj h).symm⟩
  · rintro ⟨hwell, rfl⟩
    exact ⟨verdictOf rule item.1, evaluateRule_eq_ok.mpr ⟨hwell, rfl⟩, rfl⟩

theorem observeRows_eq_ok {rules : List (BusinessRule F)} {rows : List (Row × Option Text)}
    {evaluator : BusinessRuleEvaluator} :
    rows.foldlM (observeRow rules) (.init rules) = .ok evaluator ↔
      WellTyped rules rows ∧ evaluator = afterRows rules rows := by
  apply foldlM_eq_ok_iff
  intro evaluator item next
  exact observeRow_eq_ok

/-- Each row's outcomes, under the ids of the rules. -/
def outcomes (rules : List (BusinessRule F)) (rows : List (Row × Option Text)) :
    List (Text × Bool) :=
  rows.flatMap fun item => rules.map fun rule => (rule.ruleId.1, !violates rule item.1)

theorem counters_afterRow (rules : List (BusinessRule F)) (evaluator : BusinessRuleEvaluator)
    (item : Row × Option Text) : (afterRow rules evaluator item).counters =
      (rules.map fun rule => (rule.ruleId.1, !violates rule item.1)).foldl
        (updateKey {} RuleCounters.observe) evaluator.counters := by
  rw [afterRow, List.foldl_map]
  exact (List.foldl_hom BusinessRuleEvaluator.counters fun _ _ => rfl).symm

theorem counters_afterRows (rules : List (BusinessRule F)) (rows : List (Row × Option Text)) :
    (afterRows rules rows).counters =
      (outcomes rules rows).foldl (updateKey {} RuleCounters.observe)
        (BusinessRuleEvaluator.init rules).counters := by
  rw [afterRows, outcomes, List.foldl_flatMap]
  exact (List.foldl_hom BusinessRuleEvaluator.counters fun evaluator item =>
    (counters_afterRow rules evaluator item).symm).symm

theorem foldl_observe (flags : List Bool) (counters : RuleCounters) :
    flags.foldl RuleCounters.observe counters =
      ⟨counters.evaluated + flags.length, counters.violations + flags.countP (! ·)⟩ := by
  induction flags generalizing counters with
  | nil => rfl
  | cons passed flags ih =>
    rw [List.foldl_cons, ih, RuleCounters.observe, List.length_cons, List.countP_cons]
    cases passed
    · simp
      omega
    · simp
      omega

omit [MetricLike F] in
theorem get?_init (rules : List (BusinessRule F)) (k : Text) :
    (get? k (BusinessRuleEvaluator.init rules).counters).getD {} = {} := by
  have hfold : ∀ d : Dict Text RuleCounters, (get? k d).getD {} = {} →
      (get? k (update d (rules.map fun rule => (rule.ruleId.1, {})))).getD {} = {} := by
    induction rules with
    | nil => exact fun d hd => hd
    | cons rule rules ih =>
      intro d hd
      rw [List.map_cons, update_cons]
      apply ih
      rw [get?_set]
      split
      · rfl
      · exact hd
  exact hfold [] rfl

/-- What is counted under the id of a rule: the outcomes of all rules that share it. -/
def flagsOf (rules : List (BusinessRule F)) (rows : List (Row × Option Text))
    (rule : BusinessRule F) : List Bool :=
  rows.flatMap fun item => (sharing rules rule).map fun other => !violates other item.1

theorem countersOf_afterRows (rules : List (BusinessRule F)) (rows : List (Row × Option Text))
    (rule : BusinessRule F) : (afterRows rules rows).countersOf rule =
      ⟨(flagsOf rules rows rule).length, (flagsOf rules rows rule).countP (! ·)⟩ := by
  have hflags : ((outcomes rules rows).filter fun item => item.1 = rule.ruleId.1).map Prod.snd =
      flagsOf rules rows rule := by
    simp [outcomes, flagsOf, sharing, List.filter_flatMap, List.map_flatMap, List.filter_map,
      Function.comp_def]
  rw [BusinessRuleEvaluator.countersOf, counters_afterRows, getD_get?_foldl_updateKey, get?_init,
    foldl_observe, hflags]
  simp

theorem evaluated_afterRows (rules : List (BusinessRule F)) (rows : List (Row × Option Text))
    (rule : BusinessRule F) :
    ((afterRows rules rows).countersOf rule).evaluated =
      rows.length * (sharing rules rule).length := by
  rw [countersOf_afterRows]
  simp [flagsOf]

/-- Where no other rule has its id, the rows alone are counted. -/
theorem countersOf_of_sharing {rules : List (BusinessRule F)} {rule : BusinessRule F}
    (h : sharing rules rule = [rule]) (rows : List (Row × Option Text)) :
    (afterRows rules rows).countersOf rule =
      ⟨rows.length, rows.countP fun item => violates rule item.1⟩ := by
  have hflags : flagsOf rules rows rule = rows.map fun item => !violates rule item.1 := by
    rw [flagsOf, h]
    exact List.map_eq_flatMap.symm
  rw [countersOf_afterRows, hflags, List.length_map, List.countP_map]
  simp [Function.comp_def]

end Run

section Figures

/-- The figures of a rule's own, over the rows. -/
structure Figures (rows : List (Row × Option Text)) (rule : BusinessRule F)
    (summary : BusinessRuleSummary F) : Prop where
  ruleId : summary.ruleId = rule.ruleId
  severity : summary.severity = rule.severity
  violationCount : summary.violationCount = rows.countP fun item => violates rule item.1
  passRate : summary.passRate.1 =
    if rows = [] then ofInt 1
    else div (ofInt ((rows.countP fun item => !violates rule item.1 : Nat) : Int))
      (ofInt (rows.length : Int))

/-- Each position has the figures of its own rule, which a run of the rule alone has too,
and the blockers are the critical rules that a row violates. -/
structure Specified (rules : List (BusinessRule F)) (rows : List (Row × Option Text))
    (report : BusinessRulesReport F) : Prop where
  figures : List.Forall₂ (Figures rows) rules report.rules
  alone : List.Forall₂ (fun rule summary =>
    ∃ single, evaluateRules [rule] rows = .ok single ∧ single.rules = [summary]) rules report.rules
  blockers : ∀ id, id ∈ report.blockerCandidateRuleIds ↔ ∃ rule ∈ rules, rule.ruleId = id ∧
    rule.severity = .critical ∧ ∃ item ∈ rows, violates rule item.1 = true

theorem inRange_passRate {counters : RuleCounters} (h : counters.violations ≤ counters.evaluated) :
    InRange 1 (counters.passRate : F) := by
  rw [RuleCounters.passRate]
  split
  · next hpos =>
    rw [← Nat.cast_sub h]
    exact ScoreLike.inRange_ratio (Nat.sub_le _ _) hpos
  · exact inRange_ofInt zero_le_one (le_refl 1) (by decide)

theorem violations_le (rules : List (BusinessRule F)) (rows : List (Row × Option Text))
    (rule : BusinessRule F) : ((afterRows rules rows).countersOf rule).violations ≤
      ((afterRows rules rows).countersOf rule).evaluated := by
  rw [countersOf_afterRows]
  exact List.countP_le_length

theorem summarize_eq_ok {evaluator : BusinessRuleEvaluator} {rule : BusinessRule F}
    {summary : BusinessRuleSummary F} (h : summarize evaluator rule = .ok summary) :
    summary.ruleId = rule.ruleId ∧ summary.severity = rule.severity ∧
      summary.violationCount = (evaluator.countersOf rule).violations ∧
      summary.evaluatedCount = (evaluator.countersOf rule).evaluated ∧
      summary.passRate.1 = (evaluator.countersOf rule).passRate := by
  obtain ⟨passRate, hrate, h⟩ := bind_eq_ok.mp h
  obtain rfl := Except.ok.inj h
  exact ⟨rfl, rfl, rfl, rfl, scoreField_eq_ok.mp hrate⟩

theorem exists_summarize (rules : List (BusinessRule F)) (rows : List (Row × Option Text))
    (rule : BusinessRule F) : ∃ summary, summarize (afterRows rules rows) rule = .ok summary := by
  have hrate := inRange_passRate (F := F) (violations_le rules rows rule)
  exact ⟨_, bind_eq_ok.mpr ⟨⟨_, hrate⟩, scoreField_eq_ok.mpr rfl, rfl⟩⟩

/-- The report, where no row meets an ill-typed check. -/
theorem evaluateRules_eq_ok {rules : List (BusinessRule F)} {rows : List (Row × Option Text)}
    {report : BusinessRulesReport F} : evaluateRules rules rows = .ok report ↔
      WellTyped rules rows ∧ buildReport rules (afterRows rules rows) = .ok report := by
  rw [evaluateRules, bind_eq_ok]
  constructor
  · rintro ⟨evaluator, hrun, h⟩
    obtain ⟨hwell, rfl⟩ := observeRows_eq_ok.mp hrun
    exact ⟨hwell, h⟩
  · rintro ⟨hwell, h⟩
    exact ⟨_, observeRows_eq_ok.mpr ⟨hwell, rfl⟩, h⟩

theorem buildReport_eq_ok {rules : List (BusinessRule F)} {evaluator : BusinessRuleEvaluator}
    {report : BusinessRulesReport F} (h : buildReport rules evaluator = .ok report) :
    List.Forall₂ (fun rule summary => summarize evaluator rule = .ok summary) rules report.rules ∧
      report.blockerCandidateRuleIds = (rules.filter fun rule =>
        rule.severity = .critical ∧ 0 < (evaluator.countersOf rule).violations).map
          BusinessRule.ruleId := by
  obtain ⟨summaries, hsummaries, h⟩ := bind_eq_ok.mp h
  obtain rfl := Except.ok.inj h
  exact ⟨mapM_eq_ok_iff_forall₂.mp hsummaries, rfl⟩

theorem exists_buildReport (rules : List (BusinessRule F)) (rows : List (Row × Option Text)) :
    ∃ report, buildReport rules (afterRows rules rows) = .ok report := by
  obtain ⟨summaries, hsummaries⟩ :=
    exists_mapM_ok fun rule (_ : rule ∈ rules) => exists_summarize rules rows rule
  exact ⟨_, bind_eq_ok.mpr ⟨summaries, hsummaries, rfl⟩⟩

theorem figures_of_summarize {rules : List (BusinessRule F)} {rows : List (Row × Option Text)}
    {rule : BusinessRule F} {summary : BusinessRuleSummary F}
    (hcounters : (afterRows rules rows).countersOf rule =
      ⟨rows.length, rows.countP fun item => violates rule item.1⟩)
    (h : summarize (afterRows rules rows) rule = .ok summary) : Figures rows rule summary := by
  obtain ⟨hid, hseverity, hviolations, -, hrate⟩ := summarize_eq_ok h
  rw [hcounters] at hviolations hrate
  refine ⟨hid, hseverity, hviolations, ?_⟩
  rw [hrate, RuleCounters.passRate]
  by_cases hrows : rows = []
  · rw [if_pos hrows, if_neg (by simp [hrows])]
  · have hlength := List.length_eq_countP_add_countP (fun item => violates rule item.1) (l := rows)
    simp only [Bool.not_eq_true, Bool.decide_eq_false] at hlength
    have hpassed : (rows.length : Int) - (rows.countP fun item => violates rule item.1 : Nat) =
        (rows.countP fun item => !violates rule item.1 : Nat) := by omega
    rw [if_neg hrows, if_pos (List.length_pos_iff.mpr hrows), hpassed]

theorem summarize_congr {evaluator other : BusinessRuleEvaluator} {rule : BusinessRule F}
    (h : evaluator.countersOf rule = other.countersOf rule) :
    summarize evaluator rule = summarize other rule := by
  rw [summarize, summarize, h]

/-- A rule whose figures are those of a run of its own shares its id with no other rule. -/
theorem length_sharing_of_alone {rules : List (BusinessRule F)} {rows : List (Row × Option Text)}
    (hrows : rows ≠ []) {rule : BusinessRule F} {summary : BusinessRuleSummary F}
    {single : BusinessRulesReport F} (h : summarize (afterRows rules rows) rule = .ok summary)
    (hsingle : evaluateRules [rule] rows = .ok single) (halone : single.rules = [summary]) :
    (sharing rules rule).length = 1 := by
  have hown := (buildReport_eq_ok (evaluateRules_eq_ok.mp hsingle).2).1
  rw [halone] at hown
  obtain ⟨hown, -⟩ := List.forall₂_cons.mp hown
  obtain ⟨-, -, -, hevaluated, -⟩ := summarize_eq_ok h
  obtain ⟨-, -, -, hlength, -⟩ := summarize_eq_ok hown
  rw [evaluated_afterRows] at hevaluated hlength
  have hself : (sharing [rule] rule).length = 1 := by simp [sharing]
  rw [hself, hevaluated] at hlength
  exact Nat.eq_of_mul_eq_mul_left (List.length_pos_iff.mpr hrows) hlength

theorem specified_of_counters {rules : List (BusinessRule F)} {rows : List (Row × Option Text)}
    {report : BusinessRulesReport F} (h : evaluateRules rules rows = .ok report)
    (hcounters : ∀ rule ∈ rules, (afterRows rules rows).countersOf rule =
      ⟨rows.length, rows.countP fun item => violates rule item.1⟩) :
        Specified rules rows report := by
  obtain ⟨hwell, hreport⟩ := evaluateRules_eq_ok.mp h
  obtain ⟨hsummaries, hblockers⟩ := buildReport_eq_ok hreport
  have hmembers :=
    (List.forall₂_and_left _ _).mpr ⟨fun rule (hrule : rule ∈ rules) => hrule, hsummaries⟩
  refine ⟨hmembers.imp fun rule summary hs => figures_of_summarize (hcounters rule hs.1) hs.2,
    hmembers.imp fun rule summary hs => ?_, ?_⟩
  · obtain ⟨single, hsingle⟩ := exists_buildReport [rule] rows
    have hwell' : WellTyped [rule] rows := fun item hitem other hother =>
      List.mem_singleton.mp hother ▸ hwell item hitem rule hs.1
    refine ⟨single, evaluateRules_eq_ok.mpr ⟨hwell', hsingle⟩, ?_⟩
    obtain ⟨own, rest, hown, hrest, hrules⟩ :=
      List.forall₂_cons_left_iff.mp (buildReport_eq_ok hsingle).1
    have hsame :
        (afterRows [rule] rows).countersOf rule = (afterRows rules rows).countersOf rule := by
      rw [hcounters rule hs.1]
      exact countersOf_of_sharing (by simp [sharing]) rows
    rw [summarize_congr hsame, hs.2] at hown
    rw [hrules, List.forall₂_nil_left_iff.mp hrest, Except.ok.inj hown]
  · intro id
    rw [hblockers, List.mem_map]
    constructor
    · rintro ⟨rule, hrule, rfl⟩
      obtain ⟨hrule, hcritical⟩ := List.mem_filter.mp hrule
      obtain ⟨hcritical, hpos⟩ := of_decide_eq_true hcritical
      rw [hcounters rule hrule] at hpos
      exact ⟨rule, hrule, rfl, hcritical, List.countP_pos_iff.mp hpos⟩
    · rintro ⟨rule, hrule, rfl, hcritical, hviolated⟩
      refine ⟨rule, List.mem_filter.mpr ⟨hrule, decide_eq_true ⟨hcritical, ?_⟩⟩, rfl⟩
      rw [hcounters rule hrule]
      exact List.countP_pos_iff.mpr hviolated

theorem nodup_of_specified {rules : List (BusinessRule F)} {rows : List (Row × Option Text)}
    {report : BusinessRulesReport F} (h : evaluateRules rules rows = .ok report)
    (hspecified : Specified rules rows report) (hrows : rows ≠ []) :
    (rules.map BusinessRule.ruleId).Nodup := by
  obtain ⟨-, hreport⟩ := evaluateRules_eq_ok.mp h
  have hlengths : List.Forall₂ (fun rule summary => (sharing rules rule).length = 1 ∧
      summarize (afterRows rules rows) rule = .ok summary) rules report.rules :=
    List.Forall₂.mp (fun rule summary hs ⟨single, hsingle, halone⟩ =>
      ⟨length_sharing_of_alone hrows hs hsingle halone, hs⟩) (buildReport_eq_ok hreport).1
        hspecified.alone
  exact nodup_of_sharing ((List.forall₂_and_left _ _).mp hlengths).1

/-- The evaluation is what it says exactly where no row meets an ill-typed check and no two
rules that see a row share an id. -/
theorem evaluateRules_specified_iff (rules : List (BusinessRule F))
    (rows : List (Row × Option Text)) :
    (∃ report, evaluateRules rules rows = .ok report ∧ Specified rules rows report) ↔
      WellTyped rules rows ∧ ((rules.map BusinessRule.ruleId).Nodup ∨ rows = []) := by
  constructor
  · rintro ⟨report, h, hspecified⟩
    refine ⟨(evaluateRules_eq_ok.mp h).1, ?_⟩
    by_cases hrows : rows = []
    · exact .inr hrows
    · exact .inl (nodup_of_specified h hspecified hrows)
  · rintro ⟨hwell, hrules⟩
    obtain ⟨report, hreport⟩ := exists_buildReport rules rows
    have h := evaluateRules_eq_ok.mpr ⟨hwell, hreport⟩
    refine ⟨report, h, specified_of_counters h fun rule hrule => ?_⟩
    rcases hrules with hnodup | rfl
    · exact countersOf_of_sharing (sharing_of_nodup hnodup hrule) rows
    · rw [countersOf_afterRows]
      rfl

/-- A rule on one column of the sample row. -/
def sampleRule (field : NonEmptyStr) (op : FieldOp) (value : RuleValue ℚ) : BusinessRule ℚ where
  ruleId := literal "customers.adult"
  description := none
  severity := .critical
  columns := []
  checks := ⟨[⟨field, op, value⟩], by simp⟩
  allowMissing := false
  message := none

def sampleRows : List (Row × Option Text) :=
  [([("age".toList, "17".toList), ("country".toList, "DE".toList)], some "o1".toList)]

/-- Two steps that bring a rule of one id, and a membership in a text. -/
theorem evaluateRules_not_specified :
    (¬ ∃ report,
      evaluateRules [sampleRule (literal "age") .gte (.number (some 18) "int" "18".toList),
        sampleRule (literal "country") .eq (.text "DE".toList)] sampleRows = .ok report ∧
      Specified [sampleRule (literal "age") .gte (.number (some 18) "int" "18".toList),
        sampleRule (literal "country") .eq (.text "DE".toList)] sampleRows report) ∧
      evaluateRules [sampleRule (literal "country") .isIn (.text "DE".toList)] sampleRows =
        .error (.plain "ValueError" "rule operator 'in' requires a list value, got str") := by
  constructor
  · rintro ⟨report, h, hspecified⟩
    exact absurd (nodup_of_specified h hspecified (by decide)) (by decide)
  · rfl

end Figures

end DataForge.Plugins.Tabular.RuleFigures
