import DataForge.Adapters.RegistryRuns
import DataForge.Foundation.JsonSchema
import DataForge.Foundation.Lines

namespace DataForge.Ingestion.JsonlContract

open DataForge.Foundation.Strings
open DataForge.Foundation.Lines
open DataForge.Foundation.Dictionary
open DataForge.Foundation.Sha256
open DataForge.Foundation.Outcome
open DataForge.Foundation.Failures
open DataForge.Foundation.Json
open DataForge.Foundation.JsonErrors
open DataForge.Foundation.JsonSchema
open DataForge.Foundation.JsonModels
open DataForge.Domain.Common
open DataForge.Domain.Artifact
open DataForge.Adapters.ObjectStorage
open DataForge.Adapters.ArtifactRegistry
open DataForge.Adapters.RegistryStep
open DataForge.Adapters.RegistryRuns
open DataForge.Adapters.HonestStore

/-- A contract error of the validators: the exception with the fields that the API reads. -/
structure RowError where
  error : String
  code : ErrorCode
  reasonCode : String
  message : Text
  lineNumber : Option Nat
  fieldPath : Option Text

inductive Failure where
  | contract (e : RowError)
  | raised (e : Raised)

/-- The texts of the two validation libraries. -/
structure Wording where
  schemaMessage : SchemaError → Text
  modelMessage : String → List Text → Text

/-- How a model error is reported. -/
structure Report where
  reasonCode : String
  error : String
  code : ErrorCode

/-- What the validators of manifests and of predictions differ in. -/
structure Contract (ρ : Type) where
  noun : Text
  schemaName : Text
  schema : Schema
  requiredFields : List Text
  modelValidate : Dict Text Value → Except ModelError ρ
  error : String
  emptyReason : String
  mismatchMessage : Text
  classify : Text → Report

section Messages

def contractMarker : Text := "validation failed at ".toList

/-- `validate_contract_payload`, with the text of its exception. -/
def validateContractPayload (wording : Wording) (schemaName : Text) (schema : Schema)
    (payload : Dict Text Value) : Except Text Unit :=
  match firstError (schema (.obj payload)) with
  | none => .ok ()
  | some e => .error (schemaName ++ ' ' :: contractMarker ++ errorPath e.path ++
      ": ".toList ++ wording.schemaMessage e)

/-- `message.split(marker, 1)[1]`, if the marker is in the message. -/
def afterMarker (marker : Text) : Text → Option Text
  | [] => none
  | c :: s => if marker.isPrefixOf (c :: s) then some ((c :: s).drop marker.length)
    else afterMarker marker s

/-- `text or None`. -/
def orNone (s : Text) : Option Text := if s = [] then none else some s

def fieldPathFromMessage (message : Text) : Option Text :=
  (afterMarker contractMarker message).bind fun tail => orNone (tail.takeWhile fun c => c != ':')

def modelMessage (wording : Wording) (e : ModelError) : Text :=
  match e.problem with
  | .builtin type => wording.modelMessage type e.loc
  | .value message => "Value error, ".toList ++ message.toList

end Messages

section Validation

variable {ρ : Type} (json : JsonModule Raised) (wording : Wording) (c : Contract ρ)

def Contract.rowError (reasonCode : String) (message : Text) (lineNumber : Option Nat)
    (fieldPath : Option Text) : Failure :=
  .contract ⟨c.error, .contractValidationFailed, reasonCode, message, lineNumber, fieldPath⟩

def Contract.atLine (lineNumber : Nat) (message : Text) : Text :=
  c.noun ++ " line ".toList ++ Nat.toDigits 10 lineNumber ++ ' ' :: message

def schemaReasonCode (requiredFields : List Text) (payload : Dict Text Value) : String :=
  if ∃ name ∈ requiredFields, contains name payload = false then "missing_required_field"
  else "schema_violation"

def validateObject (lineNumber : Nat) (payload : Dict Text Value) : Except Failure ρ :=
  match validateContractPayload wording c.schemaName c.schema payload with
  | .error message => .error (c.rowError (schemaReasonCode c.requiredFields payload)
      (c.atLine lineNumber message) (some lineNumber) (fieldPathFromMessage message))
  | .ok () =>
    match c.modelValidate payload with
    | .ok row => .ok row
    | .error e =>
      let message := modelMessage wording e
      let report := c.classify message
      .error (.contract ⟨report.error, report.code, report.reasonCode,
        c.atLine lineNumber ("failed pydantic validation: ".toList ++ message), some lineNumber,
        orNone (joinWith '.' e.loc)⟩)

def validateLine (numbered : Text × Nat) : Except Failure ρ :=
  match json.loads numbered.1 with
  | .raised e => .error (.raised e)
  | .decodeError => .error (c.rowError "invalid_json"
      (c.atLine numbered.2 "is not valid JSON".toList) (some numbered.2) none)
  | .value (.obj payload) => validateObject wording c numbered.2 payload
  | .value _ => .error (c.rowError "row_not_object"
      (c.atLine numbered.2 "is not a JSON object".toList) (some numbered.2) none)

/-- The lines that are not blank, with their numbers among all lines. -/
def numberedLines (text : Text) : List (Text × Nat) :=
  ((splitLines text).zipIdx 1).filter fun numbered => decide (¬ Blank numbered.1)

/-- `validate_manifest_jsonl` and `validate_predictions_jsonl` up to their reports. -/
def validateJsonl (data : Bytes) : Except Failure (List ρ) :=
  match decodeUtf8 data with
  | none => .error (c.rowError "not_utf8_jsonl"
      (c.noun ++ " payload must be UTF-8 encoded JSONL".toList) none none)
  | some text =>
    if Blank text then
      .error (c.rowError c.emptyReason (c.noun ++ " payload is empty".toList) none none)
    else do
      let rows ← (numberedLines text).mapM (validateLine json wording c)
      match rows with
      | [] => .error (c.rowError c.emptyReason
          (c.noun ++ " payload contained only blank lines".toList) none none)
      | _ => pure rows

end Validation

section Lines

theorem filter_zipIdx_fst {α : Type} (q : α → Bool) (xs : List α) (k : Nat) :
    ((xs.zipIdx k).filter fun item => q item.1).map Prod.fst = xs.filter q := by
  induction xs generalizing k with
  | nil => rfl
  | cons x xs ih =>
    rw [List.zipIdx_cons, List.filter_cons, List.filter_cons, ← ih (k + 1)]
    split <;> rfl

theorem numberedLines_fst (text : Text) :
    (numberedLines text).map Prod.fst = (splitLines text).filter fun l => decide (¬ Blank l) :=
  filter_zipIdx_fst (fun l => decide (¬ Blank l)) _ 1

/-- The number of a line is its place in the text. -/
theorem numberedLines_split {text : Text} {pre post : List (Text × Nat)} {numbered : Text × Nat}
    (h : numberedLines text = pre ++ numbered :: post) :
    ∃ before after, splitLines text = before ++ numbered.1 :: after ∧
      numbered.2 = before.length + 1 ∧ ¬ Blank numbered.1 ∧
      pre.map Prod.fst = before.filter fun l => decide (¬ Blank l) := by
  obtain ⟨l₁, l₂, hzip, rfl, hrest⟩ := List.filter_eq_append_iff.mp h
  obtain ⟨skipped, tail, rfl, hskipped, hkept, -⟩ := List.filter_eq_cons_iff.mp hrest
  obtain ⟨before, rest, hlines, rfl, hright⟩ := List.zipIdx_eq_append_iff.mp hzip
  obtain ⟨blank, rest', rfl, rfl, hnumbered⟩ := List.zipIdx_eq_append_iff.mp hright.symm
  obtain ⟨l, after, rfl, rfl, -⟩ := List.zipIdx_eq_cons_iff.mp hnumbered.symm
  refine ⟨before ++ blank, after, by rw [hlines, List.append_assoc], ?_, by simpa using hkept, ?_⟩
  · rw [List.length_append]
    dsimp only
    omega
  · have hblank : (blank.filter fun l => decide (¬ Blank l)) = [] := by
      rw [← filter_zipIdx_fst _ blank (1 + before.length), List.map_eq_nil_iff,
        List.filter_eq_nil_iff]
      exact hskipped
    rw [List.filter_append, hblank, List.append_nil]
    exact filter_zipIdx_fst (fun l => decide (¬ Blank l)) before 1

end Lines

section Acceptance

variable {ρ : Type} (json : JsonModule Raised) (wording : Wording) (c : Contract ρ)

/-- A line is an object that the schema accepts and the model reads as the row. -/
def Accepts (line : Text) (row : ρ) : Prop :=
  ∃ payload, json.loads line = .value (.obj payload) ∧ c.schema (.obj payload) = [] ∧
    c.modelValidate payload = .ok row

variable {json wording c} {line : Text} {row : ρ} {payload : Dict Text Value}

theorem validateContractPayload_eq_ok {schemaName : Text} {schema : Schema} {u : Unit} :
    validateContractPayload wording schemaName schema payload = .ok u ↔
      schema (.obj payload) = [] := by
  rw [validateContractPayload, ← firstError_eq_none]
  split
  · next h => simp [h]
  · next h => simp [h]

theorem validateObject_eq_ok {n : Nat} : validateObject wording c n payload = .ok row ↔
    c.schema (.obj payload) = [] ∧ c.modelValidate payload = .ok row := by
  rw [← @validateContractPayload_eq_ok wording payload c.schemaName c.schema (), validateObject]
  cases validateContractPayload wording c.schemaName c.schema payload with
  | error message => simp
  | ok u => cases c.modelValidate payload <;> simp

theorem validateLine_eq_ok {numbered : Text × Nat} :
    validateLine json wording c numbered = .ok row ↔ Accepts json c numbered.1 row := by
  rw [validateLine, Accepts]
  cases json.loads numbered.1 with
  | raised e => simp
  | decodeError => simp
  | value v =>
    cases v with
    | obj payload =>
      simp only [validateObject_eq_ok, Loaded.value.injEq, Value.obj.injEq, exists_eq_left']
    | _ => simp

theorem nonblank_of_mem_filter {text : Text}
    (h : ((splitLines text).filter fun l => decide (¬ Blank l)) ≠ []) : ¬ Blank text := by
  obtain ⟨l, hl⟩ := List.exists_mem_of_ne_nil _ h
  obtain ⟨hmem, hnonblank⟩ := List.mem_filter.mp hl
  exact fun hblank => (of_decide_eq_true hnonblank) (blank_of_mem_splitLines hblank hmem)

/-- The validators accept a file exactly if its lines that are not blank, of which there is
one at least, are accepted one by one. -/
theorem validateJsonl_eq_ok {data : Bytes} {rows : List ρ} :
    validateJsonl json wording c data = .ok rows ↔ rows ≠ [] ∧ ∃ text, decodeUtf8 data = some text ∧
      List.Forall₂ (Accepts json c) ((splitLines text).filter fun l => decide (¬ Blank l)) rows := by
  rw [validateJsonl]
  cases decodeUtf8 data with
  | none => simp
  | some text =>
    simp only [Option.some.injEq, exists_eq_left']
    have hlines : (numberedLines text).mapM (validateLine json wording c) = .ok rows ↔
        List.Forall₂ (Accepts json c) ((splitLines text).filter fun l => decide (¬ Blank l))
          rows := by
      rw [mapM_eq_ok_iff_forall₂, ← numberedLines_fst, List.forall₂_map_left_iff]
      exact ⟨fun h => h.imp fun _ _ => validateLine_eq_ok.mp,
        fun h => h.imp fun _ _ => validateLine_eq_ok.mpr⟩
    split
    · next hblank =>
      simp only [reduceCtorEq, false_iff, not_and]
      intro hne h
      cases hfilter : (splitLines text).filter fun l => decide (¬ Blank l) with
      | nil =>
        rw [hfilter, List.forall₂_nil_left_iff] at h
        exact hne h
      | cons l ls =>
        exact nonblank_of_mem_filter (hfilter ▸ List.cons_ne_nil l ls) hblank
    · rw [← hlines, bind_eq_ok]
      constructor
      · rintro ⟨read, hread, h⟩
        cases read with
        | nil => cases h
        | cons r rs =>
          obtain rfl := Except.ok.inj h
          exact ⟨List.cons_ne_nil _ _, hread⟩
      · rintro ⟨hne, hread⟩
        refine ⟨rows, hread, ?_⟩
        cases rows with
        | nil => exact absurd rfl hne
        | cons r rs => rfl

end Acceptance

section Offences

variable {ρ : Type} (json : JsonModule Raised) (wording : Wording) (c : Contract ρ)

/-- What is wrong with a line, by reason code. -/
inductive Offends (line : Text) : RowError → Prop
  | invalidJson {e : RowError} (hload : json.loads line = .decodeError)
      (hreason : e.reasonCode = "invalid_json") (hcode : e.code = .contractValidationFailed)
      (hpath : e.fieldPath = none) : Offends line e
  | notObject {e : RowError} {v : Value} (hload : json.loads line = .value v)
      (hkind : ∀ payload, v ≠ .obj payload) (hreason : e.reasonCode = "row_not_object")
      (hcode : e.code = .contractValidationFailed) (hpath : e.fieldPath = none) : Offends line e
  | schema {e : RowError} {payload : Dict Text Value} {found : SchemaError}
      (hload : json.loads line = .value (.obj payload))
      (hfound : found ∈ c.schema (.obj payload))
      (hleast : ∀ other ∈ c.schema (.obj payload), found.path ≤ other.path)
      (hreason : e.reasonCode = schemaReasonCode c.requiredFields payload)
      (hcode : e.code = .contractValidationFailed)
      (hpath : e.fieldPath = some ((errorPath found.path).takeWhile fun ch => ch != ':')) :
      Offends line e
  | model {e : RowError} {payload : Dict Text Value} {found : ModelError}
      (hload : json.loads line = .value (.obj payload)) (hschema : c.schema (.obj payload) = [])
      (hmodel : c.modelValidate payload = .error found)
      (hreport : ⟨e.reasonCode, e.error, e.code⟩ = c.classify (modelMessage wording found))
      (hpath : e.fieldPath = orNone (joinWith '.' found.loc)) : Offends line e

variable {json wording c}

theorem afterMarker_append {marker pre : Text} (hne : marker ≠ [])
    (h : ∀ ch ∈ pre, marker.head? ≠ some ch) (rest : Text) :
    afterMarker marker (pre ++ (marker ++ rest)) = some rest := by
  obtain ⟨m, tail, rfl⟩ := List.exists_cons_of_ne_nil hne
  induction pre with
  | nil =>
    have hprefix : (m :: tail).isPrefixOf (m :: (tail ++ rest)) = true := by
      rw [List.isPrefixOf_iff_prefix]
      exact ⟨rest, rfl⟩
    rw [List.nil_append, List.cons_append, afterMarker, if_pos hprefix, ← List.cons_append,
      List.drop_left]
  | cons ch pre ih =>
    have hch : m ≠ ch := by simpa using h ch List.mem_cons_self
    have hprefix : ((m :: tail).isPrefixOf (ch :: (pre ++ (m :: tail ++ rest)))) = false := by
      simp [List.isPrefixOf, hch]
    rw [List.cons_append, afterMarker, hprefix, if_neg Bool.false_ne_true]
    exact ih fun d hd => h d (List.mem_cons_of_mem ch hd)

theorem takeWhile_append_stop {p : Char → Bool} {stop : Char} (hstop : p stop = false)
    (s rest : Text) : (s ++ stop :: rest).takeWhile p = s.takeWhile p := by
  induction s with
  | nil => rw [List.nil_append, List.takeWhile_cons, hstop]; rfl
  | cons ch s ih => rw [List.cons_append, List.takeWhile_cons, List.takeWhile_cons, ih]

theorem contractMarker_ne_nil : contractMarker ≠ [] := by decide

theorem exists_errorPath (path : List Text) : ∃ tail, errorPath path = '$' :: tail := by
  rw [errorPath]
  split
  · exact ⟨[], rfl⟩
  · exact ⟨'.' :: joinWith '.' path, rfl⟩

/-- The path that is read out of the message is the path of the error, up to a colon. -/
theorem fieldPath_of_schemaError {schemaName : Text} {schema : Schema} {payload : Dict Text Value}
    {message : Text} (hname : ∀ ch ∈ schemaName, ch ≠ 'v')
    (h : validateContractPayload wording schemaName schema payload = .error message) :
    ∃ found ∈ schema (.obj payload), (∀ other ∈ schema (.obj payload), found.path ≤ other.path) ∧
      fieldPathFromMessage message =
        some ((errorPath found.path).takeWhile fun ch => ch != ':') := by
  rw [validateContractPayload] at h
  cases hfirst : firstError (schema (.obj payload)) with
  | none =>
    rw [hfirst] at h
    cases h
  | some found =>
    rw [hfirst] at h
    obtain rfl := Except.error.inj h
    obtain ⟨hmem, hleast⟩ := firstError_spec hfirst
    refine ⟨found, hmem, hleast, ?_⟩
    have hpre : ∀ ch ∈ schemaName ++ [' '], contractMarker.head? ≠ some ch := by
      intro ch hch hhead
      obtain rfl : 'v' = ch := Option.some.inj hhead
      obtain hch | hch := List.mem_append.mp hch
      · exact hname _ hch rfl
      · exact absurd hch (by decide)
    have hafter := afterMarker_append contractMarker_ne_nil hpre
      (errorPath found.path ++ (": ".toList ++ wording.schemaMessage found))
    have hsplit : schemaName ++ ' ' :: contractMarker ++ errorPath found.path ++ ": ".toList ++
        wording.schemaMessage found = schemaName ++ [' '] ++ (contractMarker ++
          (errorPath found.path ++ (": ".toList ++ wording.schemaMessage found))) := by
      simp only [List.append_assoc, List.cons_append, List.nil_append]
    have hpath : (errorPath found.path ++ (": ".toList ++ wording.schemaMessage found)).takeWhile
        (fun ch => ch != ':') = (errorPath found.path).takeWhile fun ch => ch != ':' :=
      takeWhile_append_stop rfl _ _
    obtain ⟨tail, htail⟩ := exists_errorPath found.path
    rw [fieldPathFromMessage, hsplit, hafter, Option.bind_some, hpath, htail]
    exact if_neg (List.cons_ne_nil _ _)

theorem validateObject_error {n : Nat} {payload : Dict Text Value} {line : Text} {e : RowError}
    (hname : ∀ ch ∈ c.schemaName, ch ≠ 'v') (hload : json.loads line = .value (.obj payload))
    (h : validateObject wording c n payload = .error (.contract e)) :
    Offends json wording c line e ∧ e.lineNumber = some n := by
  rw [validateObject] at h
  cases hschema : validateContractPayload wording c.schemaName c.schema payload with
  | error message =>
    rw [hschema] at h
    obtain rfl := Failure.contract.inj (Except.error.inj h)
    obtain ⟨found, hfound, hleast, hpath⟩ := fieldPath_of_schemaError hname hschema
    exact ⟨.schema hload hfound hleast rfl rfl hpath, rfl⟩
  | ok u =>
    rw [hschema] at h
    have haccepted := validateContractPayload_eq_ok.mp hschema
    cases hmodel : c.modelValidate payload with
    | ok row =>
      rw [hmodel] at h
      cases h
    | error found =>
      rw [hmodel] at h
      obtain rfl := Failure.contract.inj (Except.error.inj h)
      exact ⟨.model hload haccepted hmodel rfl rfl, rfl⟩

theorem validateLine_error {numbered : Text × Nat} {e : RowError}
    (hname : ∀ ch ∈ c.schemaName, ch ≠ 'v')
    (h : validateLine json wording c numbered = .error (.contract e)) :
    Offends json wording c numbered.1 e ∧ e.lineNumber = some numbered.2 := by
  rw [validateLine] at h
  cases hload : json.loads numbered.1 with
  | raised r =>
    rw [hload] at h
    cases Except.error.inj h
  | decodeError =>
    rw [hload] at h
    obtain rfl := Failure.contract.inj (Except.error.inj h)
    exact ⟨.invalidJson hload rfl rfl rfl, rfl⟩
  | value v =>
    rw [hload] at h
    cases v with
    | obj payload => exact validateObject_error hname hload h
    | _ =>
      obtain rfl := Failure.contract.inj (Except.error.inj h)
      exact ⟨.notObject hload (fun payload hv => by cases hv) rfl rfl rfl, rfl⟩

theorem validateJsonl_of_not_blank {data : Bytes} {text : Text} {e : Failure}
    (hdata : decodeUtf8 data = some text) (hblank : ¬ Blank text)
    (h : validateJsonl json wording c data = .error e) :
    (numberedLines text).mapM (validateLine json wording c) = .error e := by
  rw [validateJsonl, hdata] at h
  dsimp only at h
  rw [if_neg hblank] at h
  cases hrows : (numberedLines text).mapM (validateLine json wording c) with
  | error e' =>
    rw [hrows] at h
    exact h
  | ok rows =>
    obtain ⟨l, hl, hnonblank⟩ := exists_piece_of_not_blank hblank
    have hmem : l ∈ (splitLines text).filter fun l => decide (¬ Blank l) :=
      List.mem_filter.mpr ⟨hl, decide_eq_true hnonblank⟩
    rw [← numberedLines_fst] at hmem
    rw [hrows] at h
    cases rows with
    | nil =>
      have hforall := mapM_eq_ok_iff_forall₂.mp hrows
      rw [List.forall₂_nil_right_iff] at hforall
      rw [hforall] at hmem
      cases hmem
    | cons r rs => cases h

/-- A contract error is about the payload as a whole, which is no text or a blank one, or about
the first line that is not accepted, whose number and reason it has. -/
theorem validateJsonl_error {data : Bytes} {e : RowError} (hname : ∀ ch ∈ c.schemaName, ch ≠ 'v')
    (h : validateJsonl json wording c data = .error (.contract e)) :
    (e.reasonCode = "not_utf8_jsonl" ∧ e.lineNumber = none ∧ decodeUtf8 data = none) ∨
    (e.reasonCode = c.emptyReason ∧ e.lineNumber = none ∧
      ∃ text, decodeUtf8 data = some text ∧ Blank text) ∨
    ∃ text before line after, decodeUtf8 data = some text ∧
      splitLines text = before ++ line :: after ∧ ¬ Blank line ∧
      e.lineNumber = some (before.length + 1) ∧ Offends json wording c line e ∧
      ∀ l ∈ before, ¬ Blank l → ∃ row, Accepts json c l row := by
  cases hdata : decodeUtf8 data with
  | none =>
    rw [validateJsonl, hdata] at h
    obtain rfl := Failure.contract.inj (Except.error.inj h)
    exact .inl ⟨rfl, rfl, rfl⟩
  | some text =>
    by_cases hblank : Blank text
    · rw [validateJsonl, hdata] at h
      dsimp only at h
      rw [if_pos hblank] at h
      obtain rfl := Failure.contract.inj (Except.error.inj h)
      exact .inr (.inl ⟨rfl, rfl, text, rfl, hblank⟩)
    · have hlines := validateJsonl_of_not_blank hdata hblank h
      obtain ⟨pre, numbered, post, hsplit, hpre, hline⟩ := exists_of_mapM_error hlines
      obtain ⟨before, after, htext, hnumber, hnonblank, hbefore⟩ := numberedLines_split hsplit
      obtain ⟨hoffends, hlineNumber⟩ := validateLine_error hname hline
      refine .inr (.inr ⟨text, before, numbered.1, after, rfl, htext, hnonblank,
        hnumber ▸ hlineNumber, hoffends, fun l hl hl' => ?_⟩)
      have hmem : l ∈ pre.map Prod.fst := by
        rw [hbefore]
        exact List.mem_filter.mpr ⟨hl, decide_eq_true hl'⟩
      obtain ⟨earlier, hearlier, rfl⟩ := List.mem_map.mp hmem
      obtain ⟨row, hrow⟩ := hpre earlier hearlier
      exact ⟨row, validateLine_eq_ok.mp hrow⟩

end Offences

section Registration

variable {ρ : Type}

/-- An effect of the store among the errors of the validators. -/
def liftRaised {σ α : Type} (m : Effect Raised σ α) : Effect Failure σ α := fun s =>
  ((m.run s).1.mapError Failure.raised, (m.run s).2)

variable (p : Platform) (a : MinioObjectStorageAdapter) (json : JsonModule Raised)
  (wording : Wording) (c : Contract ρ)

/-- What `build_validated_manifest` and `build_validated_predictions` do to the store: the raw
bytes are read, compared with the record, validated and saved again as they are. -/
def buildValidated (clock : Clock) (request : Bytes → List ρ → Result SaveRequest)
    (raw : RegisteredArtifact) : Effect Failure S3Objects (RegisteredArtifact × List ρ) := do
  let stored ← liftRaised (a.get p clock raw.uri.1)
  Effect.ensure (stored.info.hash = raw.hash)
    (c.rowError "raw_hash_mismatch" c.mismatchMessage none none)
  let rows ← Effect.lift (validateJsonl json wording c stored.data)
  let asked ← Effect.lift ((request stored.data rows).mapError Failure.raised)
  let artifact ← liftRaised (saveArtifact p a clock asked)
  pure (artifact, rows)

variable {p a json wording c} {clock : Clock} {request : Bytes → List ρ → Result SaveRequest}
  {raw : RegisteredArtifact}

theorem run_liftRaised {σ α : Type} (m : Effect Raised σ α) (s : σ) :
    (liftRaised m).run s = ((m.run s).1.mapError Failure.raised, (m.run s).2) := rfl

theorem run_get_info {uri : Text} {stored : StoredObject} {s t : S3Objects}
    (h : (a.get p clock uri).run s = (.ok stored, t)) :
    ∃ key obj, a.keyForUri uri = .ok key ∧ get? (a.bucketName, key) s = some obj ∧
      stored.data = obj.body ∧ stored.info.hash.1 = sha256 obj.body := by
  obtain ⟨key, hkey, h⟩ := Effect.run_lift_bind_eq_ok.mp h
  obtain ⟨obj, u, hobj, h⟩ := Effect.run_bind_eq_ok.mp h
  obtain ⟨info, hinfo, h⟩ := Effect.run_lift_bind_eq_ok.mp h
  obtain ⟨hstored, -⟩ := Prod.mk.inj h
  obtain rfl := Except.ok.inj hstored
  rw [run_object] at hobj
  cases hget : get? (a.bucketName, key) s with
  | none => simp [hget] at hobj
  | some found =>
    rw [hget] at hobj
    obtain rfl := Except.ok.inj (Prod.mk.inj hobj).1
    refine ⟨key, found, hkey, hget, rfl, ?_⟩
    simp only [MinioObjectStorageAdapter.infoFromResponse, bind_eq_ok, pure_eq,
      Except.ok.injEq] at hinfo
    obtain ⟨_, -, _, -, hash, hhash, _, -, rfl⟩ := hinfo
    have hvalue := field_eq_ok.mp hhash
    rwa [Option.map_some, Option.getD_some, if_neg (sha256_ne_nil _)] at hvalue

/-- Either the store is as it was and the call has failed, or the bytes of the raw artifact have
passed the validation and what happens is the registry's answer to saving them. -/
theorem run_buildValidated_cases (s : S3Objects) :
    (∃ e, (buildValidated p a json wording c clock request raw).run s = (.error e, s)) ∨
    ∃ key obj rows asked, a.keyForUri raw.uri.1 = .ok key ∧
      get? (a.bucketName, key) s = some obj ∧ raw.hash.1 = sha256 obj.body ∧
      validateJsonl json wording c obj.body = .ok rows ∧ request obj.body rows = .ok asked ∧
      (buildValidated p a json wording c clock request raw).run s =
        ((((saveArtifact p a clock asked).run s).1.mapError Failure.raised).map
          fun artifact => (artifact, rows), ((saveArtifact p a clock asked).run s).2) := by
  have hstate := @run_get_snd p a clock s raw.uri.1
  cases hget : (a.get p clock raw.uri.1).run s with
  | mk result t =>
    obtain rfl : t = s := by rw [hget] at hstate; exact hstate
    cases result with
    | error e =>
      refine .inl ⟨.raised e, ?_⟩
      exact Effect.run_bind_error (by rw [run_liftRaised, hget]; rfl) _
    | ok stored =>
      obtain ⟨key, obj, hkey, hobj, hdata, hhash⟩ := run_get_info hget
      have hread : (liftRaised (a.get p clock raw.uri.1)).run t = (.ok stored, t) := by
        rw [run_liftRaised, hget]
        rfl
      rw [buildValidated, Effect.run_bind_ok hread]
      by_cases hmatch : stored.info.hash = raw.hash
      · have hensure : (Effect.ensure (stored.info.hash = raw.hash)
            (c.rowError "raw_hash_mismatch" c.mismatchMessage none none)).run t = (.ok (), t) := by
          rw [Effect.ensure, guardOk, if_pos hmatch]
          rfl
        rw [Effect.run_bind_ok hensure, Effect.run_bind_lift]
        cases hrows : validateJsonl json wording c stored.data with
        | error e => exact .inl ⟨e, rfl⟩
        | ok rows =>
          dsimp only
          rw [Effect.run_bind_lift]
          cases hasked : request stored.data rows with
          | error e => exact .inl ⟨.raised e, rfl⟩
          | ok asked =>
            refine .inr ⟨key, obj, rows, asked, hkey, hobj, by rw [← hmatch, hhash], hdata ▸ hrows,
              hdata ▸ hasked, ?_⟩
            cases hsave : (saveArtifact p a clock asked).run t with
            | mk answer u =>
              cases answer with
              | error e => exact Effect.run_bind_error (by rw [run_liftRaised, hsave]; rfl) _
              | ok artifact => exact Effect.run_bind_ok (by rw [run_liftRaised, hsave]; rfl) _
      · refine .inl ⟨_, Effect.run_bind_error (e := c.rowError "raw_hash_mismatch"
          c.mismatchMessage none none) (t := t) ?_ _⟩
        rw [Effect.ensure, guardOk, if_neg hmatch]
        rfl

end Registration

section Kinds

variable {p : Platform} {kind : Text} {valid : Bytes → Prop} {s : S3Objects}

/-- Every object that is stored under the kind has a valid body. -/
def ValidBodies (p : Platform) (kind : Text) (valid : Bytes → Prop) (s : S3Objects) : Prop :=
  ∀ k obj, get? k s = some obj →
    get? "artifact-kind".toList (stringMetadata p obj.metadata) = some kind → valid obj.body

theorem save_validBodies {a : MinioObjectStorageAdapter} {clock : Clock} {r : SaveRequest}
    (hlower : LowerKeys p r.metadata) (hvalid : strip r.artifactKind = kind → valid r.data)
    (h : ValidBodies p kind valid s) :
    ValidBodies p kind valid ((saveArtifact p a clock r).run s).2 := by
  obtain ⟨e, -, hrun⟩ | ⟨addr, key, obj, -, -, hrun⟩ | ⟨addr, key, hplace, -, hrun⟩ :=
    run_saveArtifact_cases p a clock r s
  · rw [hrun]
    exact h
  · rw [hrun]
    exact h
  · rw [hrun]
    intro k obj hk hkind
    rw [get?_set] at hk
    split at hk
    · obtain rfl := Option.some.inj hk
      obtain ⟨hsame, hexpected⟩ := putMetadata_spec addr hlower
      have hstored := hexpected ("artifact-kind".toList, addr.kind.1) (by simp [expectedMetadata])
      rw [writtenObject, hsame, hstored] at hkind
      have hstrip := (SaveRequest.address_eq_ok (place_eq_ok a hplace).1).1
      exact hvalid (hstrip.symm.trans (Option.some.inj hkind))
    · exact h k obj hk hkind

variable {ρ : Type} {a : MinioObjectStorageAdapter} {json : JsonModule Raised} {wording : Wording}
  {c : Contract ρ}

/-- The bodies that a contract accepts. -/
def Valid (json : JsonModule Raised) (wording : Wording) (c : Contract ρ) (data : Bytes) : Prop :=
  ∃ rows, validateJsonl json wording c data = .ok rows

end Kinds

end DataForge.Ingestion.JsonlContract
