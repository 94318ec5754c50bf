import DataForge.Domain.ModelError
import DataForge.Ingestion.ManifestValidation

namespace DataForge.Ingestion.Predictions

open DataForge.Foundation.Strings
open DataForge.Foundation.Lines
open DataForge.Foundation.Dictionary
open DataForge.Foundation.Grouping
open DataForge.Foundation.Canonical
open DataForge.Foundation.Sha256
open DataForge.Foundation.Outcome
open DataForge.Foundation.Failures
open DataForge.Foundation.Runs
open DataForge.Foundation.Numbers
open DataForge.Foundation.Scores
open DataForge.Foundation.Json
open DataForge.Foundation.JsonErrors
open DataForge.Foundation.JsonSchema
open DataForge.Foundation.JsonModels
open DataForge.Domain.Common
open DataForge.Domain.Artifact
open DataForge.Domain.Splits
open DataForge.Domain.PredictionChecks
open DataForge.Adapters.ObjectStorage
open DataForge.Adapters.ArtifactRegistry
open DataForge.Adapters.RegistryRuns
open DataForge.Adapters.HonestStore
open DataForge.Adapters.PlatformMetadata
open DataForge.Ingestion.ManifestRows
open DataForge.Ingestion.ManifestTotals
open DataForge.Ingestion.JsonlContract
open DataForge.Ingestion.ValidationAudit
open DataForge.Ingestion.ManifestValidation
open FloatLike ScoreLike

section Model

variable (F : Type) [ScoreLike F]

/-- What the JSON and the model library make of numbers and dates; the type of an error where
a value is refused. -/
structure Readers where
  number : NumberToken → F
  float : Value → Except String F
  datetime : Value → Except String Datetime
  json : F → Value

/-- The fields of a row, before its own validator. -/
structure PredictionFields where
  objectId : NonEmptyStr
  trueLabel : NonEmptyStr
  predictedLabel : NonEmptyStr
  predictedProba : Dict NonEmptyStr (Score F)
  confidence : Score F
  split : DataSplit
  modelId : NonEmptyStr
  modelVersion : NonEmptyStr
  inferenceTimestamp : Datetime

/-- A row with what the analysis leaves out. -/
structure PredictionRow extends DataForge.Domain.ModelError.PredictionRow F where
  confidence : Score F
  split : DataSplit
  modelId : NonEmptyStr
  modelVersion : NonEmptyStr
  inferenceTimestamp : Datetime

variable {F} (readers : Readers F)

def checked {α : Type} (read : Value → Except String α) : Check α := fun v =>
  (read v).mapError fun type => ⟨[], .builtin type⟩

def score : Check (Score F) := fun v => do
  let x ← checked readers.float v
  if h : InRange 1 x then pure ⟨x, h⟩
  else if lt (ofInt 1) x then fail "less_than_equal"
  else fail "greater_than_equal"

def classLabel (s : Text) : Except ModelError NonEmptyStr := nonEmptyStr (.str s)

def predictionFields : List Text :=
  ["object_id".toList, "true_label".toList, "predicted_label".toList, "predicted_proba".toList,
    "confidence".toList, "split".toList, "model_id".toList, "model_version".toList,
    "inference_timestamp".toList]

def readFields (ms : Dict Text Value) : Except ModelError (PredictionFields F) := do
  let objectId ← requiredField ms "object_id".toList nonEmptyStr
  let trueLabel ← requiredField ms "true_label".toList nonEmptyStr
  let predictedLabel ← requiredField ms "predicted_label".toList nonEmptyStr
  let predictedProba ← requiredField ms "predicted_proba".toList
    (mapping classLabel (score readers))
  let confidence ← requiredField ms "confidence".toList (score readers)
  let split ← requiredField ms "split".toList (choice splits DataSplit.value)
  let modelId ← requiredField ms "model_id".toList nonEmptyStr
  let modelVersion ← requiredField ms "model_version".toList nonEmptyStr
  let inferenceTimestamp ← requiredField ms "inference_timestamp".toList
    (checked readers.datetime)
  forbidExtra ms predictionFields
  pure ⟨objectId, trueLabel, predictedLabel, predictedProba, confidence, split, modelId,
    modelVersion, inferenceTimestamp⟩

/-- An error of the row's own validator, which is about no field. -/
def invariantError : Raised → ModelError
  | .validation _ message | .coded _ _ message | .reasoned _ _ _ _ message | .plain _ message =>
    ⟨[], .value message⟩

def noProbabilities : String := "predicted_proba must contain at least one class probability"

theorem map_ne_nil {α β : Type} {f : α → β} {xs : List α} (h : xs ≠ []) : xs.map f ≠ [] := by
  simpa using h

def PredictionFields.row (fields : PredictionFields F) (h : fields.predictedProba ≠ []) :
    PredictionRow F where
  objectId := fields.objectId
  trueLabel := fields.trueLabel
  predictedLabel := fields.predictedLabel
  predictedProba := ⟨fields.predictedProba.map fun item => (item.1.1, item.2), map_ne_nil h⟩
  confidence := fields.confidence
  split := fields.split
  modelId := fields.modelId
  modelVersion := fields.modelVersion
  inferenceTimestamp := fields.inferenceTimestamp

/-- `validate_probabilities`. -/
def PredictionFields.validated (fields : PredictionFields F) :
    Except ModelError (PredictionRow F) :=
  if h : fields.predictedProba ≠ [] then do
    (validateProbabilities (fields.row h).toPredictionRow fields.confidence).mapError invariantError
    pure (fields.row h)
  else .error (invariantError (predictionError noProbabilities))

def PredictionRow.modelValidate (ms : Dict Text Value) : Except ModelError (PredictionRow F) := do
  let fields ← readFields readers ms
  fields.validated

end Model

section Contract

variable {F : Type} [ScoreLike F] (readers : Readers F) (p : Platform)

def scoreSchema : Schema :=
  keywords [type ["number"], onNumber "minimum" fun token => !lt (readers.number token) (ofInt 0),
    onNumber "maximum" fun token => !lt (ofInt 1) (readers.number token)]

def probabilitiesSchema : Schema :=
  keywords [type ["object"], minProperties 1, additionalProperties [] (scoreSchema readers)]

def predictionProperties : List (Text × Schema) :=
  [("object_id".toList, textSchema), ("true_label".toList, textSchema),
    ("predicted_label".toList, textSchema),
    ("predicted_proba".toList, probabilitiesSchema readers),
    ("confidence".toList, scoreSchema readers),
    ("split".toList, keywords [type ["string"], enum (splits.map (some ∘ DataSplit.value))]),
    ("model_id".toList, textSchema), ("model_version".toList, textSchema),
    ("inference_timestamp".toList, keywords [type ["string"]])]

/-- `prediction_manifest_row.schema.json`; nothing checks its date format. -/
def predictionRowSchema : Schema :=
  keywords [type ["object"], required predictionFields, closed predictionFields,
    properties (predictionProperties readers)]

def logicReport (reasonCode : String) : Report :=
  ⟨reasonCode, "PredictionValidationError", .predictionValidationFailed⟩

/-- The phrases that the messages of the row's validator are recognised by. -/
def phrases : List (Text × String) :=
  [("predicted_proba values must sum to".toList, "probability_sum_invalid"),
    ("predicted_label must match argmax".toList, "argmax_mismatch"),
    ("confidence must equal max".toList, "confidence_mismatch"),
    ("predicted_proba must contain at least one class probability".toList,
      "empty_probability_map")]

/-- `_classify_pydantic_error`. -/
def classifyPydanticError (message : Text) : Report :=
  ((phrases.find? fun phrase => decide (phrase.1 <:+: p.lower message)).map fun phrase =>
    logicReport phrase.2).getD
      ⟨"pydantic_violation", "PredictionContractValidationError", .contractValidationFailed⟩

def predictionContract : Contract (PredictionRow F) where
  noun := "prediction".toList
  schemaName := "prediction_manifest_row".toList
  schema := predictionRowSchema readers
  requiredFields := predictionFields
  modelValidate := PredictionRow.modelValidate readers
  error := "PredictionContractValidationError"
  emptyReason := "empty_predictions"
  mismatchMessage := "raw prediction artifact hash does not match registry record".toList
  classify := classifyPydanticError p

structure PredictionRowsValidationReport where
  rowCount : Nat
  rowsBySplit : Dict Text Nat
  classesSeen : List Text
  inputHash : Sha256Digest

def rowsBySplit (rows : List (PredictionRow F)) : Dict Text Nat :=
  counter (rows.map fun row => row.split.value)

def validatePredictionsJsonl (json : JsonModule Raised) (wording : Wording) (data : Bytes) :
    Except Failure (PredictionRowsValidationReport × List (PredictionRow F)) :=
  (validateJsonl json wording (predictionContract readers p) data).map fun rows =>
    (⟨rows.length, rowsBySplit rows,
      sortedSet (rows.flatMap fun row => row.predictedProba.1.map Prod.fst), sha256Digest data⟩,
      rows)

end Contract

section Coverage

variable {F : Type} [ScoreLike F]

structure PredictionCoverageReport (F : Type) where
  manifestRowCount : Nat
  predictionRowCount : Nat
  matchedObjectIds : List Text
  unmatchedPredictionObjectIds : List Text
  missingPredictionObjectIds : List Text
  coverageRatio : F

def computePredictionCoverage (manifestObjectIds : List Text) (rows : List (PredictionRow F)) :
    PredictionCoverageReport F :=
  let manifest : List Text := sortedSet manifestObjectIds
  let predicted : List Text := sortedSet (rows.map fun row => row.objectId.1)
  let matched := manifest.filter fun id => decide (id ∈ predicted)
  { manifestRowCount := manifest.length
    predictionRowCount := predicted.length
    matchedObjectIds := matched
    unmatchedPredictionObjectIds := predicted.filter fun id => decide (id ∉ manifest)
    missingPredictionObjectIds := manifest.filter fun id => decide (id ∉ predicted)
    coverageRatio := if manifest = [] then ofInt 0
      else div (ofInt matched.length) (ofInt manifest.length) }

end Coverage

section Publication

variable {F : Type} [ScoreLike F] (readers : Readers F) (p : Platform)

def cannotCompare : Raised :=
  .plain "TypeError" "can't compare offset-naive and offset-aware datetimes"

/-- `t > u`. -/
def later (t u : Datetime) : Result Bool :=
  match t.offset, u.offset with
  | none, none => .ok (decide (u.micros < t.micros))
  | some a, some b => .ok (decide (u.micros - b < t.micros - a))
  | _, _ => .error cannotCompare

/-- The loop of `max`. -/
def latestFrom : Datetime → List Datetime → Result Datetime
  | t, [] => .ok t
  | t, u :: us => do
    let replace ← later u t
    latestFrom (if replace then u else t) us

def latest : List Datetime → Result Datetime
  | [] => .error (.plain "ValueError" "max() iterable argument is empty")
  | t :: ts => latestFrom t ts

structure PredictionRequest where
  modelId : Text
  modelVersion : Text
  taskType : Text := "classification".toList
  manifestObjectIds : Option (List Text) := none

def coverageMetadata (coverage : PredictionCoverageReport F) : List (Text × Value) :=
  [("manifest_row_count".toList, countValue coverage.manifestRowCount),
    ("prediction_row_count".toList, countValue coverage.predictionRowCount),
    ("coverage_ratio".toList, readers.json coverage.coverageRatio),
    ("unmatched_prediction_count".toList, countValue coverage.unmatchedPredictionObjectIds.length),
    ("missing_prediction_count".toList, countValue coverage.missingPredictionObjectIds.length)]

/-- How `build_validated_predictions` saves and what it tells the platform. -/
def predictionPublication (request : PredictionRequest) : Publication (PredictionRow F) where
  contract := predictionContract readers p
  kind := "prediction_manifest".toList
  schemaVersion := "prediction_manifest_row.v1".toList
  eventType := .predictionsValidated
  saveMetadata _ rows := do
    let timestamp ← latest (rows.map PredictionRow.inferenceTimestamp)
    pure [("model-id".toList, request.modelId), ("model-version".toList, request.modelVersion),
      ("task-type".toList, request.taskType),
      ("inference-timestamp".toList, p.isoformat timestamp)]
  rowMetadata rows := do
    let timestamp ← latest (rows.map PredictionRow.inferenceTimestamp)
    pure ([("rows_by_split".toList,
        .obj ((rowsBySplit rows).map fun item => (item.1, countValue item.2))),
      ("model_id".toList, .str request.modelId),
      ("model_version".toList, .str request.modelVersion),
      ("task_type".toList, .str request.taskType),
      ("inference_timestamp".toList, .str (p.isoformat timestamp))] ++
      (request.manifestObjectIds.map fun ids =>
        coverageMetadata readers (computePredictionCoverage ids rows)).getD [])

end Publication

section Classification

variable {F : Type} [ScoreLike F] {readers : Readers F} {p : Platform} {wording : Wording}

/-- The only errors are the model library's own. -/
def OnlyBuiltin {α : Type} (x : Except ModelError α) : Prop :=
  ∀ e, x = .error e → ∃ type, e.problem = .builtin type

theorem onlyBuiltin_ok {α : Type} (a : α) : OnlyBuiltin (.ok a) := fun e h => by cases h

theorem onlyBuiltin_fail {α : Type} (type : String) : OnlyBuiltin (fail type : Except _ α) := by
  intro e h
  obtain rfl := Except.error.inj h
  exact ⟨type, rfl⟩

theorem OnlyBuiltin.bind {α β : Type} {x : Except ModelError α} {f : α → Except ModelError β}
    (hx : OnlyBuiltin x) (hf : ∀ a, OnlyBuiltin (f a)) : OnlyBuiltin (x >>= f) := by
  cases x with
  | error e => exact fun found h => hx found (congrArg Except.error (Except.error.inj h))
  | ok a => exact hf a

theorem OnlyBuiltin.mapError {α : Type} {x : Except ModelError α} {f : ModelError → ModelError}
    (hx : OnlyBuiltin x) (hf : ∀ e, (f e).problem = e.problem) : OnlyBuiltin (x.mapError f) := by
  cases x with
  | error e =>
    intro found h
    obtain rfl := Except.error.inj h
    rw [hf]
    exact hx e rfl
  | ok a => exact onlyBuiltin_ok a

theorem onlyBuiltin_requiredField {α : Type} {check : Check α} (h : ∀ v, OnlyBuiltin (check v))
    (ms : Dict Text Value) (name : Text) : OnlyBuiltin (requiredField ms name check) := by
  rw [requiredField]
  cases get? name ms with
  | none =>
    intro e he
    obtain rfl := Except.error.inj he
    exact ⟨"missing", rfl⟩
  | some v => exact (h v).mapError fun _ => rfl

theorem onlyBuiltin_constrained {q : Text → Prop} [DecidablePred q] (type : String) (v : Value) :
    OnlyBuiltin (constrained q type v) := by
  cases v with
  | str s =>
    rw [constrained]
    split
    · exact onlyBuiltin_ok _
    · exact onlyBuiltin_fail _
  | _ => exact onlyBuiltin_fail _

theorem onlyBuiltin_choice {α : Type} (members : List α) (name : α → Text) (v : Value) :
    OnlyBuiltin (choice members name v) := by
  cases v with
  | str s =>
    rw [choice]
    cases members.find? fun a => decide (name a = s) with
    | none => exact onlyBuiltin_fail _
    | some a => exact onlyBuiltin_ok a
  | _ => exact onlyBuiltin_fail _

theorem onlyBuiltin_checked {α : Type} (read : Value → Except String α) (v : Value) :
    OnlyBuiltin (checked read v) := by
  rw [checked]
  cases read v with
  | error type => exact onlyBuiltin_fail type
  | ok a => exact onlyBuiltin_ok a

theorem onlyBuiltin_score (v : Value) : OnlyBuiltin (score readers v) := by
  refine (onlyBuiltin_checked _ v).bind fun x => ?_
  split
  · exact onlyBuiltin_ok _
  · split
    · exact onlyBuiltin_fail _
    · exact onlyBuiltin_fail _

theorem onlyBuiltin_mapM {α β : Type} {f : α → Except ModelError β}
    (hf : ∀ a, OnlyBuiltin (f a)) (xs : List α) : OnlyBuiltin (xs.mapM f) := by
  induction xs with
  | nil => exact onlyBuiltin_ok []
  | cons x xs ih =>
    rw [List.mapM_cons]
    exact (hf x).bind fun b => ih.bind fun bs => onlyBuiltin_ok _

theorem onlyBuiltin_mapping {κ α : Type} {checkKey : Text → Except ModelError κ} {check : Check α}
    (hkey : ∀ s, OnlyBuiltin (checkKey s)) (h : ∀ v, OnlyBuiltin (check v)) (v : Value) :
    OnlyBuiltin (mapping checkKey check v) := by
  cases v with
  | obj ms =>
    refine onlyBuiltin_mapM (fun m => ?_) ms
    rw [mappingItem]
    refine OnlyBuiltin.bind (OnlyBuiltin.mapError (hkey m.1) ?_) fun k =>
      OnlyBuiltin.bind (OnlyBuiltin.mapError (h m.2) ?_) fun a => onlyBuiltin_ok _
    · exact fun _ => rfl
    · exact fun _ => rfl
  | _ => exact onlyBuiltin_fail _

theorem onlyBuiltin_forbidExtra (ms : Dict Text Value) (known : List Text) :
    OnlyBuiltin (forbidExtra ms known) := by
  rw [forbidExtra]
  split
  · exact onlyBuiltin_ok ()
  · intro e h
    obtain rfl := Except.error.inj h
    exact ⟨"extra_forbidden", rfl⟩

theorem onlyBuiltin_readFields (ms : Dict Text Value) : OnlyBuiltin (readFields readers ms) := by
  have htext := fun name => onlyBuiltin_requiredField (onlyBuiltin_constrained (q := (· ≠ []))
    "string_too_short") ms name
  refine (htext _).bind fun _ => (htext _).bind fun _ => (htext _).bind fun _ => ?_
  refine (onlyBuiltin_requiredField (onlyBuiltin_mapping
    (fun s => onlyBuiltin_constrained _ (.str s)) onlyBuiltin_score) ms _).bind fun _ => ?_
  refine (onlyBuiltin_requiredField onlyBuiltin_score ms _).bind fun _ => ?_
  refine (onlyBuiltin_requiredField (onlyBuiltin_choice _ _) ms _).bind fun _ => ?_
  refine (htext _).bind fun _ => (htext _).bind fun _ => ?_
  refine (onlyBuiltin_requiredField (onlyBuiltin_checked _) ms _).bind fun _ => ?_
  exact (onlyBuiltin_forbidExtra ms _).bind fun _ => onlyBuiltin_ok _

/-- The library's own messages hold none of the phrases. -/
def Neutral (p : Platform) (wording : Wording) : Prop :=
  ∀ type loc, ∀ phrase ∈ phrases, ¬ phrase.1 <:+: p.lower (wording.modelMessage type loc)

theorem classify_builtin (hneutral : Neutral p wording) {e : ModelError} {type : String}
    (h : e.problem = .builtin type) : classifyPydanticError p (modelMessage wording e) =
      ⟨"pydantic_violation", "PredictionContractValidationError", .contractValidationFailed⟩ := by
  have hnone : (phrases.find? fun phrase =>
      decide (phrase.1 <:+: p.lower (wording.modelMessage type e.loc))) = none := by
    rw [List.find?_eq_none]
    exact fun phrase hphrase => by simpa using hneutral type e.loc phrase hphrase
  rw [modelMessage, h, classifyPydanticError, hnone]
  rfl

/-- The messages of the row's validator with their reason codes. -/
def invariantReasons : List (String × String) :=
  [("predicted_proba values must sum to 1.0", "probability_sum_invalid"),
    ("predicted_label must match argmax(predicted_proba)", "argmax_mismatch"),
    ("confidence must equal max(predicted_proba)", "confidence_mismatch"),
    (noProbabilities, "empty_probability_map")]

theorem classify_invariant {e : ModelError} {message reasonCode : String}
    (h : (message, reasonCode) ∈ invariantReasons) (he : e.problem = .value message) :
    classifyPydanticError p (modelMessage wording e) = logicReport reasonCode := by
  have hall : ∀ reason ∈ invariantReasons,
      (("Value error, ".toList ++ reason.1.toList).all fun c => decide (c.toNat < 128)) = true ∧
      (phrases.find? fun phrase => decide (phrase.1 <:+:
        ("Value error, ".toList ++ reason.1.toList).map Char.toLower)).map Prod.snd =
          some reason.2 := by
    decide +kernel
  obtain ⟨hascii, hfind⟩ := hall _ h
  have hlower := p.lower_ascii ("Value error, ".toList ++ message.toList) (by simpa using hascii)
  rw [modelMessage, he, classifyPydanticError, hlower]
  obtain ⟨phrase, hphrase, hcode⟩ := Option.map_eq_some_iff.mp hfind
  rw [hphrase, Option.map_some, Option.getD_some, hcode]

end Classification

section Invariants

variable {F : Type} [ScoreLike F] {readers : Readers F} {p : Platform} {wording : Wording}

def SumsToOne (row : PredictionRow F) : Prop :=
  lt (decimal 1 6) (abs (sub (FloatLike.sum (weights row.toPredictionRow)) (ofInt 1))) = false

def NearTop (row : PredictionRow F) : Prop :=
  lt (decimal 1 6) (abs (sub row.confidence.1 (topClass row.toPredictionRow).2.1)) = false

/-- Which invariant of a row is the first that fails, by reason code. -/
inductive Broken (row : PredictionRow F) : String → Prop
  | sum (h : ¬ SumsToOne row) : Broken row "probability_sum_invalid"
  | label (hsum : SumsToOne row) (h : row.predictedLabel.1 ≠ (topClass row.toPredictionRow).1) :
      Broken row "argmax_mismatch"
  | confidence (hsum : SumsToOne row)
      (hlabel : row.predictedLabel.1 = (topClass row.toPredictionRow).1) (h : ¬ NearTop row) :
      Broken row "confidence_mismatch"

theorem guardOk_error {ε : Type} {q : Prop} [Decidable q] {e e' : ε}
    (h : guardOk q e = .error e') : ¬ q ∧ e' = e := by
  by_cases hq : q
  · rw [guardOk, if_pos hq] at h
    cases h
  · rw [guardOk, if_neg hq] at h
    exact ⟨hq, (Except.error.inj h).symm⟩

theorem guardOk_bind_error {ε α : Type} {q : Prop} [Decidable q] {e e' : ε}
    {f : Unit → Except ε α} (h : (guardOk q e >>= f) = .error e') :
    ¬ q ∧ e' = e ∨ q ∧ f () = .error e' := by
  by_cases hq : q
  · rw [guardOk, if_pos hq] at h
    exact .inr ⟨hq, h⟩
  · rw [guardOk, if_neg hq] at h
    exact .inl ⟨hq, (Except.error.inj h).symm⟩

theorem validateProbabilities_error {row : PredictionRow F} {e : Raised}
    (h : validateProbabilities row.toPredictionRow row.confidence = .error e) :
    ∃ message reasonCode, e = predictionError message ∧
      (message, reasonCode) ∈ invariantReasons ∧ Broken row reasonCode := by
  obtain ⟨hsum, rfl⟩ | ⟨hsum, h⟩ := guardOk_bind_error h
  · exact ⟨_, "probability_sum_invalid", rfl, by simp [invariantReasons], .sum hsum⟩
  obtain ⟨hlabel, rfl⟩ | ⟨hlabel, h⟩ := guardOk_bind_error h
  · exact ⟨_, "argmax_mismatch", rfl, by simp [invariantReasons], .label hsum hlabel⟩
  obtain ⟨hnear, rfl⟩ := guardOk_error h
  exact ⟨_, "confidence_mismatch", rfl, by simp [invariantReasons],
    .confidence hsum hlabel hnear⟩

theorem validated_eq_ok {fields : PredictionFields F} {row : PredictionRow F} :
    fields.validated = .ok row ↔ ∃ h : fields.predictedProba ≠ [], row = fields.row h ∧
      validateProbabilities row.toPredictionRow row.confidence = .ok () := by
  rw [PredictionFields.validated]
  split
  · next hne =>
    simp only [bind_eq_ok, mapError_eq_ok, pure_eq, Except.ok.injEq]
    constructor
    · rintro ⟨u, hu, rfl⟩
      exact ⟨hne, rfl, hu⟩
    · rintro ⟨_, rfl, hu⟩
      exact ⟨(), hu, rfl⟩
  · next hempty =>
    simp only [reduceCtorEq, false_iff]
    rintro ⟨hne, -⟩
    exact hempty hne

theorem validated_error {fields : PredictionFields F} {found : ModelError}
    (h : fields.validated = .error found) :
    ∃ message reasonCode, found = ⟨[], .value message⟩ ∧
      (message, reasonCode) ∈ invariantReasons ∧
      (fields.predictedProba = [] ∨ ∃ hne, Broken (fields.row hne) reasonCode) := by
  rw [PredictionFields.validated] at h
  split at h
  · next hne =>
    cases hcheck : validateProbabilities (fields.row hne).toPredictionRow fields.confidence with
    | ok u =>
      rw [hcheck] at h
      cases h
    | error e =>
      rw [hcheck] at h
      obtain rfl := Except.error.inj h
      obtain ⟨message, reasonCode, rfl, hreason, hbroken⟩ :=
        @validateProbabilities_error F _ (fields.row hne) _ hcheck
      exact ⟨message, reasonCode, rfl, hreason, .inr ⟨hne, hbroken⟩⟩
  · next hempty =>
    obtain rfl := Except.error.inj h
    exact ⟨noProbabilities, "empty_probability_map", rfl, by simp [invariantReasons],
      .inl (not_not.mp hempty)⟩

/-- The schema leaves no row without a probability to the model. -/
theorem predictedProba_ne_nil {ms : Dict Text Value} {fields : PredictionFields F}
    (hschema : predictionRowSchema readers (.obj ms) = [])
    (h : readFields readers ms = .ok fields) : fields.predictedProba ≠ [] := by
  simp only [readFields, bind_eq_ok, pure_eq, Except.ok.injEq] at h
  obtain ⟨_, -, _, -, _, -, proba, hproba, _, -, _, -, _, -, _, -, _, -, _, -, rfl⟩ := h
  obtain ⟨v, hget, hmapping⟩ := requiredField_eq_ok.mp hproba
  obtain ⟨-, -, hproperties⟩ := closedObject_eq_nil.mp hschema
  have hproperty := hproperties ("predicted_proba".toList, probabilitiesSchema readers)
    (by simp [predictionProperties])
  have hleast := keywords_eq_nil.mp (property_eq_nil.mp hproperty v hget) (minProperties 1)
    (by simp)
  cases v with
  | obj members =>
    have hlength := (mapping_eq_ok.mp hmapping).length_eq
    have hmembers := minProperties_eq_nil.mp hleast
    exact List.ne_nil_of_length_pos (hlength ▸ hmembers)
  | _ => simp [mapping, fail] at hmapping

/-- What is reported where the model refuses what the schema has accepted: a field that it
cannot read, or else the first invariant of the row that fails. -/
theorem modelValidate_reported (hneutral : Neutral p wording) {ms : Dict Text Value}
    (hschema : predictionRowSchema readers (.obj ms) = []) {found : ModelError}
    (h : PredictionRow.modelValidate readers ms = .error found) :
    ((∃ e, readFields readers ms = .error e) ∧
      classifyPydanticError p (modelMessage wording found) =
        ⟨"pydantic_violation", "PredictionContractValidationError", .contractValidationFailed⟩) ∨
    ∃ fields reasonCode, readFields readers ms = .ok fields ∧
      (∃ hne, Broken (fields.row hne) reasonCode) ∧
      classifyPydanticError p (modelMessage wording found) = logicReport reasonCode := by
  rw [PredictionRow.modelValidate] at h
  cases hfields : readFields readers ms with
  | error e =>
    rw [hfields] at h
    obtain rfl := Except.error.inj h
    obtain ⟨type, htype⟩ := onlyBuiltin_readFields ms e hfields
    exact .inl ⟨⟨e, rfl⟩, classify_builtin hneutral htype⟩
  | ok fields =>
    rw [hfields] at h
    obtain ⟨message, reasonCode, rfl, hreason, hempty | hbroken⟩ := validated_error h
    · exact absurd hempty (predictedProba_ne_nil hschema hfields)
    · exact .inr ⟨fields, reasonCode, rfl, hbroken, classify_invariant hreason rfl⟩

end Invariants

section Timestamps

variable {t u : Datetime} {ts : List Datetime}

/-- The reading of a clock, in universal time if it has a zone. -/
def instant (t : Datetime) : Int := t.micros - t.offset.getD 0

def Comparable (t u : Datetime) : Prop := t.offset.isSome = u.offset.isSome

/-- Some of the readings have a zone and some have none. -/
def Mixed (ts : List Datetime) : Prop := ∃ t ∈ ts, ∃ u ∈ ts, ¬ Comparable t u

theorem later_of_comparable (h : Comparable t u) :
    later t u = .ok (decide (instant u < instant t)) := by
  obtain ⟨micros, offset⟩ := t
  obtain ⟨micros', offset'⟩ := u
  cases offset with
  | none =>
    cases offset' with
    | none => simp [later, instant]
    | some b => cases h
  | some a =>
    cases offset' with
    | none => cases h
    | some b => exact congrArg Except.ok (decide_eq_decide.mpr Iff.rfl)

theorem later_of_not_comparable (h : ¬ Comparable t u) : later t u = .error cannotCompare := by
  obtain ⟨micros, offset⟩ := t
  obtain ⟨micros', offset'⟩ := u
  cases offset with
  | none =>
    cases offset' with
    | none => exact absurd rfl h
    | some b => rfl
  | some a =>
    cases offset' with
    | none => rfl
    | some b => exact absurd rfl h

/-- The loop fails at the first reading that cannot be compared with those before it. -/
theorem latestFrom_spec (t : Datetime) (ts : List Datetime) :
    ((∃ u ∈ ts, ¬ Comparable u t) ∧ latestFrom t ts = .error cannotCompare) ∨
    ∃ m ∈ t :: ts, latestFrom t ts = .ok m ∧ (∀ u ∈ ts, Comparable u t) ∧
      ∀ u ∈ t :: ts, instant u ≤ instant m := by
  induction ts generalizing t with
  | nil => exact .inr ⟨t, List.mem_cons_self, rfl, by simp, by simp⟩
  | cons u us ih =>
    by_cases hu : Comparable u t
    · -- the loop goes on with the later of the two, which compares with the same readings
      have hstep : ∃ v, (v = t ∨ v = u) ∧ latestFrom t (u :: us) = latestFrom v us ∧
          instant t ≤ instant v ∧ instant u ≤ instant v := by
        rw [latestFrom, later_of_comparable hu, ok_bind]
        by_cases hless : instant t < instant u
        · exact ⟨u, .inr rfl, by rw [if_pos (decide_eq_true hless)], hless.le, le_refl _⟩
        · exact ⟨t, .inl rfl, by rw [if_neg (by simpa using hless)], le_refl _, not_lt.mp hless⟩
      obtain ⟨v, hv, hloop, ht, hu'⟩ := hstep
      have hcomparable : ∀ w, Comparable w v ↔ Comparable w t := by
        obtain rfl | rfl := hv
        · exact fun w => Iff.rfl
        · exact fun w => ⟨fun h => h.trans hu, fun h => h.trans hu.symm⟩
      rw [hloop]
      obtain ⟨⟨w, hw, hmixed⟩, herror⟩ | ⟨m, hm, hok, hall, hleast⟩ := ih v
      · exact .inl ⟨⟨w, List.mem_cons_of_mem u hw, fun h => hmixed ((hcomparable w).mpr h)⟩, herror⟩
      · refine .inr ⟨m, ?_, hok, ?_, ?_⟩
        · obtain rfl | hm := List.mem_cons.mp hm
          · obtain rfl | rfl := hv
            · exact List.mem_cons_self
            · exact List.mem_cons_of_mem _ List.mem_cons_self
          · exact List.mem_cons_of_mem t (List.mem_cons_of_mem u hm)
        · exact List.forall_mem_cons.mpr ⟨hu, fun w hw => (hcomparable w).mp (hall w hw)⟩
        · obtain ⟨hv', hus⟩ := List.forall_mem_cons.mp hleast
          exact List.forall_mem_cons.mpr ⟨ht.trans hv',
            List.forall_mem_cons.mpr ⟨hu'.trans hv', hus⟩⟩
    · refine .inl ⟨⟨u, List.mem_cons_self, hu⟩, ?_⟩
      rw [latestFrom, later_of_not_comparable hu, error_bind]

theorem latest_cons (t : Datetime) (ts : List Datetime) :
    (latest (t :: ts) = .error cannotCompare ∧ Mixed (t :: ts)) ∨
    ∃ m ∈ t :: ts, latest (t :: ts) = .ok m ∧ ¬ Mixed (t :: ts) ∧
      ∀ u ∈ t :: ts, instant u ≤ instant m := by
  obtain ⟨⟨u, hu, hmixed⟩, herror⟩ | ⟨m, hm, hok, hall, hleast⟩ := latestFrom_spec t ts
  · exact .inl ⟨herror, u, List.mem_cons_of_mem t hu, t, List.mem_cons_self, hmixed⟩
  · refine .inr ⟨m, hm, hok, ?_, hleast⟩
    have hsame : ∀ u ∈ t :: ts, Comparable u t := List.forall_mem_cons.mpr ⟨rfl, hall⟩
    rintro ⟨u, hu, v, hv, hmixed⟩
    exact hmixed ((hsame u hu).trans (hsame v hv).symm)

end Timestamps

section Joined

variable {F : Type} [ScoreLike F]

theorem length_filter_mem {xs ys : List Text} (hx : xs.Nodup) (hy : ys.Nodup) :
    (xs.filter fun x => decide (x ∈ ys)).length = (ys.filter fun y => decide (y ∈ xs)).length := by
  refine List.Perm.length_eq ((List.perm_ext_iff_of_nodup (hx.filter _) (hy.filter _)).mpr ?_)
  intro z
  simp only [List.mem_filter, decide_eq_true_eq]
  exact and_comm

theorem length_filter_add {xs : List Text} (q : Text → Prop) [DecidablePred q] :
    (xs.filter fun x => decide (q x)).length + (xs.filter fun x => decide (¬ q x)).length =
      xs.length := by
  simp only [decide_not]
  exact (List.length_eq_length_filter_add _).symm

theorem pairwise_sortedSet (values : List Text) : (sortedSet values).Pairwise (· < ·) := by
  have hle : (sortedSet values).Pairwise (· ≤ ·) := List.pairwise_insertionSort _ _
  have hne : (sortedSet values).Pairwise (· ≠ ·) := nodup_sortedSet values
  exact (hle.and hne).imp fun h => lt_of_le_of_ne h.1 h.2

/-- What a coverage report says of the objects of a manifest and of the predictions. -/
structure Covers (ids : List Text) (rows : List (PredictionRow F))
    (report : PredictionCoverageReport F) : Prop where
  matched : ∀ id, id ∈ report.matchedObjectIds ↔ id ∈ ids ∧ ∃ row ∈ rows, row.objectId.1 = id
  unmatched : ∀ id, id ∈ report.unmatchedPredictionObjectIds ↔
    id ∉ ids ∧ ∃ row ∈ rows, row.objectId.1 = id
  missing : ∀ id, id ∈ report.missingPredictionObjectIds ↔
    id ∈ ids ∧ ¬ ∃ row ∈ rows, row.objectId.1 = id
  manifestCount : report.matchedObjectIds.length + report.missingPredictionObjectIds.length =
    report.manifestRowCount
  predictionCount : report.matchedObjectIds.length +
    report.unmatchedPredictionObjectIds.length = report.predictionRowCount
  sorted : ∀ part ∈ [report.matchedObjectIds, report.unmatchedPredictionObjectIds,
    report.missingPredictionObjectIds], part.Pairwise (· < ·)
  ratio : InRange 1 report.coverageRatio

end Joined

section Results

variable {F : Type} [ScoreLike F] {readers : Readers F} {p : Platform} {json : JsonModule Raised}
  {wording : Wording}

/-- What is reported of a line that is not accepted. -/
inductive Reported (readers : Readers F) (json : JsonModule Raised) (line : Text)
    (e : RowError) : Prop
  | invalidJson (hload : json.loads line = .decodeError) (hreason : e.reasonCode = "invalid_json")
      (hcode : e.code = .contractValidationFailed)
  | notObject {v : Value} (hload : json.loads line = .value v)
      (hkind : ∀ payload, v ≠ .obj payload) (hreason : e.reasonCode = "row_not_object")
      (hcode : e.code = .contractValidationFailed)
  | schema {payload : Dict Text Value} (hload : json.loads line = .value (.obj payload))
      (hschema : predictionRowSchema readers (.obj payload) ≠ [])
      (hreason : e.reasonCode = schemaReasonCode predictionFields payload)
      (hcode : e.code = .contractValidationFailed)
  | field {payload : Dict Text Value} {found : ModelError}
      (hload : json.loads line = .value (.obj payload))
      (hschema : predictionRowSchema readers (.obj payload) = [])
      (hfields : readFields readers payload = .error found)
      (hreason : e.reasonCode = "pydantic_violation") (hcode : e.code = .contractValidationFailed)
  | invariant {payload : Dict Text Value} {fields : PredictionFields F}
      (hload : json.loads line = .value (.obj payload))
      (hschema : predictionRowSchema readers (.obj payload) = [])
      (hfields : readFields readers payload = .ok fields)
      (hbroken : ∃ hne, Broken (fields.row hne) e.reasonCode)
      (hcode : e.code = .predictionValidationFailed)

theorem reported_of_offends (hneutral : Neutral p wording) {line : Text} {e : RowError}
    (h : Offends json wording (predictionContract readers p) line e) :
    Reported readers json line e := by
  cases h with
  | invalidJson hload hreason hcode => exact .invalidJson hload hreason hcode
  | notObject hload hkind hreason hcode => exact .notObject hload hkind hreason hcode
  | schema hload hfound hleast hreason hcode =>
    exact .schema hload (List.ne_nil_of_mem hfound) hreason hcode
  | model hload hschema hmodel hreport =>
    obtain ⟨⟨found, hfields⟩, hclass⟩ | ⟨fields, reasonCode, hfields, hbroken, hclass⟩ :=
      modelValidate_reported hneutral hschema hmodel
    · obtain ⟨hreason, -, hcode⟩ := Report.mk.inj (hreport.trans hclass)
      exact .field hload hschema hfields hreason hcode
    · obtain ⟨rfl, -, hcode⟩ := Report.mk.inj (hreport.trans hclass)
      exact .invariant hload hschema hfields hbroken hcode

theorem schemaName_prediction :
    ∀ ch ∈ (predictionContract readers p).schemaName, ch ≠ 'v' := by
  intro ch
  have hall : ∀ ch ∈ "prediction_manifest_row".toList, ch ≠ 'v' := by decide
  exact hall ch

/-- What rejected predictions are told: that they are no text or empty, or the number of the
first line that is not accepted and what is wrong there; the error code says whether the
line breaks the contract or, its fields being fine, an invariant of predictions. -/
theorem validatePredictionsJsonl_error (hneutral : Neutral p wording) {data : Bytes} {e : RowError}
    (h : validatePredictionsJsonl readers p json wording data = .error (.contract e)) :
    (e.reasonCode = "not_utf8_jsonl" ∧ e.lineNumber = none ∧ decodeUtf8 data = none) ∨
    (e.reasonCode = "empty_predictions" ∧ e.lineNumber = none ∧
      ∃ text, decodeUtf8 data = some text ∧ Blank text) ∨
    ∃ text before line after, decodeUtf8 data = some text ∧
      splitLines text = before ++ line :: after ∧ ¬ Blank line ∧
      e.lineNumber = some (before.length + 1) ∧ Reported readers json line e ∧
      ∀ l ∈ before, ¬ Blank l → ∃ row, Accepts json (predictionContract readers p) l row := by
  have herror : validateJsonl json wording (predictionContract readers p) data =
      .error (.contract e) := by
    rw [validatePredictionsJsonl] at h
    cases hrows : validateJsonl json wording (predictionContract readers p) data with
    | ok rows =>
      rw [hrows] at h
      cases h
    | error found =>
      rw [hrows] at h
      exact congrArg Except.error (Except.error.inj h)
  obtain hnone | hblank | ⟨text, before, line, after, htext, hlines, hline, hnumber, hoffends,
    hbefore⟩ := validateJsonl_error schemaName_prediction herror
  · exact .inl hnone
  · exact .inr (.inl hblank)
  · exact .inr (.inr ⟨text, before, line, after, htext, hlines, hline, hnumber,
      reported_of_offends hneutral hoffends, hbefore⟩)

theorem validateProbabilities_eq_ok {row : PredictionRow F} :
    validateProbabilities row.toPredictionRow row.confidence = .ok () ↔ SumsToOne row ∧
      row.predictedLabel.1 = (topClass row.toPredictionRow).1 ∧ NearTop row := by
  rw [validateProbabilities, check_bind_eq_ok, check_bind_eq_ok, guardOk_eq_ok, guardOk_eq_ok,
    guardOk_eq_ok]
  exact Iff.rfl

theorem invariants_of_accepts {line : Text} {row : PredictionRow F}
    (h : Accepts json (predictionContract readers p) line row) : SumsToOne row ∧
      row.predictedLabel.1 = (topClass row.toPredictionRow).1 ∧ NearTop row := by
  obtain ⟨payload, -, -, hmodel⟩ := h
  obtain ⟨fields, -, hvalidated⟩ := bind_eq_ok.mp hmodel
  obtain ⟨-, -, hcheck⟩ := validated_eq_ok.mp hvalidated
  exact validateProbabilities_eq_ok.mp hcheck

theorem splitValue_eq_iff (split split' : DataSplit) : split'.value = split.value ↔ split' = split :=
  ⟨splitValue_injective split' (mem_splits split') split (mem_splits split), congrArg _⟩

/-- What predictions that are accepted promise: there is one row for each line that is not blank,
every row keeps its invariants, the splits are counted, and the classes are those of the rows. -/
theorem validatePredictionsJsonl_eq_ok {data : Bytes} {report : PredictionRowsValidationReport}
    {rows : List (PredictionRow F)} :
    validatePredictionsJsonl readers p json wording data = .ok (report, rows) ↔
      (∃ text, decodeUtf8 data = some text ∧ List.Forall₂ (Accepts json (predictionContract readers p))
        ((splitLines text).filter fun l => decide (¬ Blank l)) rows) ∧ rows ≠ [] ∧
      report = ⟨rows.length, rowsBySplit rows,
        sortedSet (rows.flatMap fun row => row.predictedProba.1.map Prod.fst), sha256Digest data⟩ := by
  rw [validatePredictionsJsonl, map_eq_ok]
  constructor
  · rintro ⟨found, hfound, hsame⟩
    obtain ⟨rfl, rfl⟩ := Prod.mk.inj hsame
    obtain ⟨hne, text, htext, haccepts⟩ := validateJsonl_eq_ok.mp hfound
    exact ⟨⟨text, htext, haccepts⟩, hne, rfl⟩
  · rintro ⟨⟨text, htext, haccepts⟩, hne, rfl⟩
    exact ⟨rows, validateJsonl_eq_ok.mpr ⟨hne, text, htext, haccepts⟩, rfl⟩

theorem invariants_of_forall₂ {lines : List Text} {rows : List (PredictionRow F)}
    (h : List.Forall₂ (Accepts json (predictionContract readers p)) lines rows) :
    ∀ row ∈ rows, SumsToOne row ∧ row.predictedLabel.1 = (topClass row.toPredictionRow).1 ∧
      NearTop row := by
  induction h with
  | nil => exact fun row hrow => by cases hrow
  | cons haccepts _ ih => exact List.forall_mem_cons.mpr ⟨invariants_of_accepts haccepts, ih⟩

theorem request_eq (request : PredictionRequest) (call : ValidationCall) (data : Bytes)
    (rows : List (PredictionRow F)) :
    (predictionPublication readers p request).request call data rows =
      (latest (rows.map PredictionRow.inferenceTimestamp)).map fun timestamp =>
        (predictionPublication readers p request).saveRequest call data rows.length
          [("model-id".toList, request.modelId), ("model-version".toList, request.modelVersion),
            ("task-type".toList, request.taskType),
            ("inference-timestamp".toList, p.isoformat timestamp)] := by
  change Except.map _ (latest _ >>= _) = _
  cases latest (rows.map PredictionRow.inferenceTimestamp) <;> rfl

/-- Rows that are accepted are published under the latest of their timestamps, unless some of
these have a zone and some have none: then the builder fails with a type error. -/
theorem published_timestamp (request : PredictionRequest) (call : ValidationCall) (data : Bytes)
    (row : PredictionRow F) (rest : List (PredictionRow F)) :
    ((predictionPublication readers p request).request call data (row :: rest) =
      .error cannotCompare ↔ Mixed ((row :: rest).map PredictionRow.inferenceTimestamp)) ∧
    ∀ asked, (predictionPublication readers p request).request call data (row :: rest) =
      .ok asked → ∃ found ∈ row :: rest,
        get? "inference-timestamp".toList asked.metadata =
          some (p.isoformat found.inferenceTimestamp) ∧
        ∀ other ∈ row :: rest, instant other.inferenceTimestamp ≤ instant found.inferenceTimestamp := by
  rw [request_eq, List.map_cons]
  obtain ⟨herror, hmixed⟩ | ⟨m, hm, hok, hmixed, hleast⟩ :=
    latest_cons row.inferenceTimestamp (rest.map PredictionRow.inferenceTimestamp)
  · rw [herror]
    exact ⟨iff_of_true rfl hmixed, fun asked h => by cases h⟩
  · rw [hok]
    refine ⟨iff_of_false (fun h => by cases h) hmixed, fun asked h => ?_⟩
    obtain rfl := Except.ok.inj h
    rw [← List.map_cons] at hm hleast
    obtain ⟨found, hfound, rfl⟩ := List.mem_map.mp hm
    refine ⟨found, hfound, rfl, fun other hother => ?_⟩
    exact hleast _ (List.mem_map_of_mem hother)

/-- Readers for rows whose only number is one. -/
def unitReaders : Readers ℚ where
  number _ := 1
  float _ := .ok 1
  datetime _ := .ok ⟨0, none⟩
  json _ := .null

/-- A row that predicts a label with certainty. -/
def certainRow (label : String) : Text :=
  "\x7b\"object_id\":\"o\",\"true_label\":\"a\",\"predicted_label\":\"".toList ++ label.toList ++
    "\",\"predicted_proba\":\x7b\"a\":1\x7d,\"confidence\":1,\"split\":\"test\",".toList ++
    "\"model_id\":\"m\",\"model_version\":\"v\",\"inference_timestamp\":\"t\"\x7d".toList

def validateText (text : Text) :
    Except Failure (PredictionRowsValidationReport × List (PredictionRow ℚ)) :=
  validatePredictionsJsonl unitReaders asciiPlatform (scanner Raised) plainWording (encodeUtf8 text)

theorem neutral_plainWording : Neutral asciiPlatform plainWording := by
  intro type loc phrase hphrase
  have hall : ∀ phrase ∈ phrases, ¬ phrase.1 <:+: [] := by decide
  exact hall phrase hphrase

/-- The line and the reason of a contract error. -/
def place {α : Type} : Except Failure α → Option (Option Nat × String)
  | .error (.contract e) => some (e.lineNumber, e.reasonCode)
  | _ => none

theorem exists_of_place {α : Type} {x : Except Failure α} {n : Option Nat} {reasonCode : String}
    (h : place x = some (n, reasonCode)) :
    ∃ e, x = .error (.contract e) ∧ e.lineNumber = n ∧ e.reasonCode = reasonCode := by
  cases x with
  | ok a => cases h
  | error failure =>
    cases failure with
    | contract e =>
      obtain ⟨rfl, rfl⟩ := Prod.mk.inj (Option.some.inj h)
      exact ⟨e, rfl, rfl, rfl⟩
    | raised e => cases h

/-- A blank line, and a row whose label is not the most probable one. -/
theorem mismatch_error : ∃ e, validateText ('\n' :: certainRow "b") = .error (.contract e) ∧
    e.lineNumber = some 2 ∧ e.reasonCode = "argmax_mismatch" := by
  refine exists_of_place ?_
  rw [validateText, validatePredictionsJsonl, validateJsonl, decodeUtf8_encodeUtf8]
  decide +kernel

theorem validatePredictionsJsonl_error_mismatch : ∃ e line, e.lineNumber = some 2 ∧
    e.reasonCode = "argmax_mismatch" ∧ Reported unitReaders (scanner Raised) line e := by
  obtain ⟨e, he, hnumber, hreason⟩ := mismatch_error
  obtain ⟨-, hnone, -⟩ | ⟨-, hnone, -⟩ | ⟨-, -, line, -, -, -, -, -, hreported, -⟩ :=
    validatePredictionsJsonl_error neutral_plainWording he
  · cases hnone.symm.trans hnumber
  · cases hnone.symm.trans hnumber
  · exact ⟨e, line, hnumber, hreason, hreported⟩

theorem certain_ok : ∃ report rows, validateText (certainRow "a") = .ok (report, rows) := by
  have hdone : (validateText (certainRow "a")).toOption.isSome = true := by
    rw [validateText, validatePredictionsJsonl, validateJsonl, decodeUtf8_encodeUtf8]
    decide +kernel
  cases hrun : validateText (certainRow "a") with
  | error e =>
    rw [hrun] at hdone
    cases hdone
  | ok accepted => exact ⟨accepted.1, accepted.2, rfl⟩

theorem countOf_rowsBySplit (rows : List (PredictionRow F)) (split : DataSplit) :
    countOf split.value (rowsBySplit rows) = rows.countP fun row => decide (row.split = split) := by
  rw [rowsBySplit, countOf_counter_map]
  refine List.countP_congr fun row _ => ?_
  simp only [decide_eq_true_eq]
  exact splitValue_eq_iff split row.split

/-- What accepted predictions promise to the analysis: every row keeps the invariants, and the
report counts the rows and their splits and lists the classes once and in order. -/
theorem validated_predictions {data : Bytes} {report : PredictionRowsValidationReport}
    {rows : List (PredictionRow F)}
    (h : validatePredictionsJsonl readers p json wording data = .ok (report, rows)) :
    rows ≠ [] ∧ (∀ row ∈ rows, SumsToOne row ∧
      row.predictedLabel.1 = (topClass row.toPredictionRow).1 ∧ NearTop row) ∧
    report.rowCount = rows.length ∧ report.inputHash = sha256Digest data ∧
    (∀ split, countOf split.value report.rowsBySplit =
      rows.countP fun row => decide (row.split = split)) ∧
    report.classesSeen.Pairwise (· < ·) ∧
    ∀ label, label ∈ report.classesSeen ↔
      ∃ row ∈ rows, label ∈ row.predictedProba.1.map Prod.fst := by
  obtain ⟨⟨text, -, haccepts⟩, hne, rfl⟩ := validatePredictionsJsonl_eq_ok.mp h
  refine ⟨hne, invariants_of_forall₂ haccepts, rfl, rfl, countOf_rowsBySplit rows,
    pairwise_sortedSet _, fun label => ?_⟩
  rw [mem_sortedSet, List.mem_flatMap]

theorem validated_predictions_certain : ∃ (report : PredictionRowsValidationReport)
    (rows : List (PredictionRow ℚ)), rows ≠ [] ∧ report.rowCount = rows.length ∧
      ∀ row ∈ rows, SumsToOne row := by
  obtain ⟨report, rows, hrun⟩ := certain_ok
  obtain ⟨hne, hall, hcount, -⟩ := validated_predictions hrun
  exact ⟨report, rows, hne, hcount, fun row hrow => (hall row hrow).1⟩

end Results

section Runs

variable {F : Type} [ScoreLike F]

inductive Builder where
  | manifest
  | predictions (request : PredictionRequest)

def BuilderRow (F : Type) [ScoreLike F] : Builder → Type
  | .manifest => ManifestRows.ManifestRow
  | .predictions _ => PredictionRow F

def publication (readers : Readers F) (p : Platform) :
    (b : Builder) → Publication (BuilderRow F b)
  | .manifest => manifestPublication
  | .predictions request => predictionPublication readers p request

variable {readers : Readers F} {p : Platform} {json : JsonModule Raised} {wording : Wording}
  {isAlnum : Char → Bool}

def validatedManifest : Text := "validated_manifest".toList

def predictionManifest : Text := "prediction_manifest".toList

theorem lowerKeys_of_ascii {d : Dict Text Text} (h : ∀ k ∈ d.map Prod.fst,
    (k.all fun c => decide (c.toNat < 128)) = true ∧ k.map Char.toLower = k) : LowerKeys p d := by
  intro k hk
  obtain ⟨hascii, hlower⟩ := h k hk
  rw [p.lower_ascii k (by simpa using hascii), hlower]

theorem lower_publication (b : Builder) (raw : RegisteredArtifact) (rows : List (BuilderRow F b))
    {metadata : Dict Text Text}
    (h : (publication readers p b).saveMetadata raw rows = .ok metadata) : LowerKeys p metadata := by
  cases b with
  | manifest =>
    obtain rfl := Except.ok.inj h
    refine lowerKeys_of_ascii ?_
    simp only [List.map_cons, List.map_nil, List.forall_mem_singleton]
    decide
  | predictions request =>
    obtain ⟨timestamp, -, h⟩ := bind_eq_ok.mp h
    obtain rfl := Except.ok.inj h
    refine lowerKeys_of_ascii ?_
    simp only [List.map_cons, List.map_nil]
    decide

theorem fits_manifest (b : Builder) : Fits (publication readers p b) p json wording
    validatedManifest (Valid json wording manifestContract) .manifestValidated where
  lower raw rows _ := lower_publication b raw rows
  accepted hkind data hvalid := by
    cases b with
    | manifest => exact hvalid
    | predictions request =>
      have hne : strip predictionManifest ≠ validatedManifest := by decide
      exact absurd hkind hne
  about htype := by
    cases b with
    | manifest =>
      have hstrip : strip validatedManifest = validatedManifest := by decide
      exact hstrip
    | predictions request => cases htype

theorem fits_predictions (b : Builder) : Fits (publication readers p b) p json wording
    predictionManifest (Valid json wording (predictionContract readers p))
    .predictionsValidated where
  lower raw rows _ := lower_publication b raw rows
  accepted hkind data hvalid := by
    cases b with
    | manifest =>
      have hne : strip validatedManifest ≠ predictionManifest := by decide
      exact absurd hkind hne
    | predictions request => exact hvalid
  about htype := by
    cases b with
    | manifest => cases htype
    | predictions request =>
      have hstrip : strip predictionManifest = predictionManifest := by decide
      exact hstrip

theorem sound_empty (kind : Text) (valid : Bytes → Prop) (eventType : AuditEventType) :
    Sound p kind valid eventType ⟨[], {}⟩ where
  honest := by simp [Honest]
  bodies := by simp [ValidBodies]
  events event hevent := by cases hevent

def exampleCall : ValidationCall where
  raw := ⟨manifestRef, manifestRef.kind, manifestRef.uri, manifestRef.hash, literal "jsonl",
    manifestRef.schemaVersion, literal "job"⟩
  datasetVersionId := "v1".toList
  parentVersionId := "v0".toList
  createdByJobId := "job".toList
  configHash := zeroDigest.1
  auditSink := true
  clock := ⟨⟨0, some 0⟩, none⟩
  uuid := "0".toList
  now := ⟨0, some 0⟩

def exampleRun : List (PlaneCall Builder) :=
  [.save exampleAdapter (exampleSave "x"), .build exampleAdapter .manifest exampleCall]

end Runs

end DataForge.Ingestion.Predictions
