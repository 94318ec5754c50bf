import DataForge.Foundation.Outcome
import DataForge.Foundation.Sha256

namespace DataForge.Domain.Common

open DataForge.Foundation.Strings
open DataForge.Foundation.Outcome
open DataForge.Foundation.Sha256

inductive ErrorCode where
  | invalidJobPayload
  | unsupportedModality
  | artifactNotFound
  | artifactOutOfScope
  | invalidArchiveStructure
  | archiveSafetyViolation
  | policyBlocked
  | piiRestricted
  | leakageDetected
  | contractValidationFailed
  | predictionValidationFailed
  | pluginNotEnabled
  | pluginContractFailed
  | pluginExecutionFailed
  | dagsterRunFailed
  | actionPlanRequiresApproval
  | actionPlanSignatureInvalid
  | actionPlanPreconditionFailed
  | validationGateFailed
  | modelImpactNotEligible
  | exportBlocked
  | tenantScopeViolation
  | externalApiBlocked
  | resourceLimitExceeded
deriving DecidableEq, Repr

/-- What a Python call of the service can raise: one of its own errors with a
code, perhaps with a reason code and an HTTP status too, one with a message
alone, a failed model validation, or a built-in. -/
inductive Raised where
  | coded (error : String) (code : ErrorCode) (message : String)
  | reasoned (error reasonCode : String) (code : ErrorCode) (status : Option Nat) (message : String)
  | plain (error : String) (message : String)
  | validation (model field : String)
deriving DecidableEq, Repr

abbrev Result := Except Raised

abbrev NonEmptyStr := { s : Text // s ≠ [] }

/-- `text or None`. -/
def nonEmpty (text : Text) : Option NonEmptyStr := if h : text ≠ [] then some ⟨text, h⟩ else none

instance lawfulBEqNonEmptyStr : LawfulBEq NonEmptyStr := inferInstance

/-- What follows from a literal without characters: nothing, or by evaluation `False`. -/
def OfNoCharacters (s : String) : Prop :=
  match s.toList with
  | [] => True
  | _ :: _ => False

theorem ofNoCharacters (s : String) (h : s.toList = []) : OfNoCharacters s := by
  rw [OfNoCharacters, h]
  trivial

/-- A text that the source writes out. -/
def literal (s : String) (h : s.toList ≠ [] := by exact ofNoCharacters _) : NonEmptyStr :=
  ⟨s.toList, h⟩

/-- `sha256:` and 64 lower case hexadecimal digits. -/
def DigestPattern (s : Text) : Prop :=
  ∃ hex, s = "sha256:".toList ++ hex ∧ hex.length = 64 ∧ ∀ c ∈ hex, c ∈ hexDigits

instance (s : Text) : Decidable (DigestPattern s) :=
  decidable_of_iff
    ("sha256:".toList <+: s ∧ (s.drop 7).length = 64 ∧
      ((s.drop 7).all fun c => decide (c ∈ hexDigits)) = true) <| by
    constructor
    · rintro ⟨⟨hex, rfl⟩, h⟩
      exact ⟨hex, rfl, by simpa using h⟩
    · rintro ⟨hex, rfl, h⟩
      exact ⟨⟨hex, rfl⟩, by simpa using h⟩

abbrev Sha256Digest := { s : Text // DigestPattern s }

/-- The digest that stands in where none is recorded. -/
def zeroDigest : Sha256Digest := ⟨"sha256:".toList ++ List.replicate 64 '0', by decide⟩

/-- `s3://` and at least one character, none of them white space. -/
def UriPattern (s : Text) : Prop :=
  ∃ rest, s = "s3://".toList ++ rest ∧ rest ≠ [] ∧ ∀ c ∈ rest, isWhiteSpace c = false

instance (s : Text) : Decidable (UriPattern s) :=
  decidable_of_iff
    ("s3://".toList <+: s ∧ s.drop 5 ≠ [] ∧
      ((s.drop 5).all fun c => !isWhiteSpace c) = true) <| by
    constructor
    · rintro ⟨⟨rest, rfl⟩, h⟩
      exact ⟨rest, rfl, by simpa using h⟩
    · rintro ⟨rest, rfl, h⟩
      exact ⟨⟨rest, rfl⟩, by simpa using h⟩

abbrev S3Uri := { s : Text // UriPattern s }

instance lawfulBEqS3Uri : LawfulBEq S3Uri := inferInstance

theorem uriPattern_key : UriPattern "s3://b/k".toList := by decide

/-- Validation of one model field: the value with its constraint, or the error. -/
def field {p : Text → Prop} [DecidablePred p] (model name : String) (s : Text) :
    Result { s : Text // p s } :=
  if h : p s then .ok ⟨s, h⟩ else .error (.validation model name)

theorem field_of_holds {p : Text → Prop} [DecidablePred p] {model name : String} {s : Text}
    (h : p s) : field model name s = .ok ⟨s, h⟩ := dif_pos h

theorem field_eq_ok {p : Text → Prop} [DecidablePred p] {model name : String} {s : Text}
    {v : { s : Text // p s }} : field model name s = .ok v ↔ v.1 = s := by
  obtain ⟨t, ht⟩ := v
  by_cases h : p s
  · simp [field, h, eq_comm]
  · simp only [field, h, dite_false, reduceCtorEq, false_iff]
    rintro rfl
    exact h ht

/-- Every error code that the result can carry is an allowed one. -/
def CodesIn {α : Type} (allowed : ErrorCode → Prop) (x : Result α) : Prop :=
  ∀ error code message, x = .error (.coded error code message) → allowed code

abbrev Uncoded {α : Type} (x : Result α) : Prop := CodesIn (fun _ => False) x

namespace CodesIn

variable {α β : Type} {allowed : ErrorCode → Prop}

theorem ok (v : α) : CodesIn allowed (.ok v : Result α) := fun _ _ _ h => by cases h

theorem coded {code : ErrorCode} (h : allowed code) (error message : String) :
    CodesIn allowed (.error (.coded error code message) : Result α) := by
  intro _ _ _ he
  obtain ⟨-, rfl, -⟩ := Raised.coded.inj (Except.error.inj he)
  exact h

theorem bind {x : Result α} {f : α → Result β} (hx : CodesIn allowed x)
    (hf : ∀ v, x = .ok v → CodesIn allowed (f v)) : CodesIn allowed (x >>= f) := by
  cases x with
  | error e => exact fun error code message h => hx error code message (by simpa using h)
  | ok v => exact hf v rfl

theorem of_error {e : Raised} (h : CodesIn allowed (.error e : Result α)) :
    CodesIn allowed (.error e : Result β) :=
  fun error code message he => h error code message (by rw [Except.error.inj he])

theorem mono {allowed' : ErrorCode → Prop} {x : Result α} (h : ∀ code, allowed code → allowed' code)
    (hx : CodesIn allowed x) : CodesIn allowed' x :=
  fun error code message he => h code (hx error code message he)

theorem guard {code : ErrorCode} (h : allowed code) (p : Prop) [Decidable p]
    (error message : String) : CodesIn allowed (guardOk p (.coded error code message)) := by
  rw [guardOk]
  split
  · exact ok ()
  · exact coded h error message

end CodesIn

theorem uncoded_field {p : Text → Prop} [DecidablePred p] (model name : String) (s : Text) :
    Uncoded (field (p := p) model name s) := by
  by_cases h : p s <;> simp [CodesIn, field, h]

def sha256 (data : Bytes) : Text := "sha256:".toList ++ hexdigest data

theorem sha256_ne_nil (data : Bytes) : sha256 data ≠ [] :=
  List.append_ne_nil_of_left_ne_nil (by decide) _

theorem digestPattern_sha256 (data : Bytes) : DigestPattern (sha256 data) :=
  ⟨hexdigest data, rfl, length_hexdigest data, fun _ => mem_hexdigest⟩

def sha256Digest (data : Bytes) : Sha256Digest := ⟨sha256 data, digestPattern_sha256 data⟩

end DataForge.Domain.Common
