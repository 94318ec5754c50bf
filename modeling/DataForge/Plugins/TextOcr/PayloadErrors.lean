import DataForge.Foundation.Failures
import DataForge.Foundation.JsonReader
import DataForge.Plugins.TextOcr.RedactedJsonl

namespace DataForge.Plugins.TextOcr.PayloadErrors

open DataForge.Foundation.Strings
open DataForge.Foundation.Lines
open DataForge.Foundation.JsonReader
open DataForge.Foundation.JsonErrors
open DataForge.Foundation.Numbers
open DataForge.Foundation.Scores
open DataForge.Foundation.Sha256
open DataForge.Foundation.Outcome
open DataForge.Foundation.Failures
open DataForge.Domain.Common
open DataForge.Domain.Artifact
open DataForge.Domain.TextOcr
open DataForge.Adapters.ObjectStorage
open DataForge.Plugins.TextOcr.Pii
open DataForge.Plugins.TextOcr.Validator
open DataForge.Plugins.TextOcr.RedactedJsonl
open FloatLike ScoreLike

section Checks

/-- A check that is made under a condition. -/
def checkIf (q : Prop) [Decidable q] (check : Result Unit) : Result Unit :=
  if q then check else .ok ()

theorem checkIf_eq_ok {q : Prop} [Decidable q] {check : Result Unit} :
    checkIf q check = .ok () ↔ (q → check = .ok ()) := by
  by_cases hq : q <;> simp [checkIf, hq]

variable (p : Platform) (json : JsonModule Raised) (engine : PatternEngine)

/-- `text.encode("utf-8")`. -/
def encodeText (s : Text) : Result Unit :=
  guardOk (json.Encodes s) (.plain "UnicodeEncodeError" "surrogates not allowed")

/-- A constrained string of a model, which has to be Unicode text. -/
def modelText (model name : String) (s : Text) : Result Unit :=
  guardOk (json.Encodes s) (.validation model name)

variable {F : Type} [MetricLike F]

variable (F) in
/-- What a line can raise: in `json.loads`, or where its normalized text is encoded for
the hash of a record. -/
def checkLine (parser : TextRecordParser) (numbered : Text × Nat) : Result Unit :=
  if Blank numbered.1 then .ok ()
  else do
    let _ ← json.read numbered.1
    match parseLine (F := F) p json.decode parser numbered.2 numbered.1 with
    | .error _ => pure ()
    | .ok record => encodeText json (normalizeText p record.rawText)

def checkGroups (records : List (ParsedRecord F)) : Result Unit :=
  ((buildDuplicateGroups records).flatMap TextDuplicateGroup.objectIds).forM fun objectId =>
    modelText json "TextDuplicateGroup" "object_ids" objectId.1

/-- What a record can raise: where its redacted text is encoded for a hash, or where it
has findings, which name it. -/
def checkRecord (record : ParsedRecord F) : Result Unit := do
  encodeText json (detectPii engine record.rawText).2
  checkIf (HasPii engine record.rawText)
    (modelText json "TextPiiFindingsForRecord" "object_id" record.objectId.1)

/-- The redacted texts of the second pass, over all lines once more. -/
def checkSecondPass (text : Text) : Result Unit :=
  ((splitLines text).filterMap (textRecord json.decode)).forM fun record =>
    encodeText json (detectPii engine record.2).2

/-- Personal data are looked for, and their redaction is stored. -/
def Persisting (options : ValidateOptions) : Prop :=
  options.detectPii = true ∧ options.registry.isSome = true ∧ options.buildRequest.isSome = true

instance (options : ValidateOptions) : Decidable (Persisting options) :=
  inferInstanceAs (Decidable (_ ∧ _))

variable (F) in
/-- All that the strings of a payload raise, which is before anything is stored. -/
def payloadChecks (parser : TextRecordParser) (options : ValidateOptions) (data : Bytes) :
    Result Unit :=
  match decodeUtf8 data with
  | none => .ok ()
  | some text => do
    ((splitLines text).zipIdx 1).forM (checkLine p json F parser)
    let walk : Walk F := walkJsonl p json.decode parser data
    checkGroups json walk.records
    checkIf (options.detectPii = true) (walk.records.forM (checkRecord json engine))
    checkIf (Persisting options) (checkSecondPass json engine text)

/-- The validator with the errors of its strings. -/
def validateJsonl (parser : TextRecordParser) (options : ValidateOptions) (clock : Clock)
    (sourceName : Text) (data : Bytes) : Effect Raised S3Objects (TextOcrSourceReport F) := do
  Effect.lift (payloadChecks p json engine F parser options data)
  RedactedJsonl.validateJsonl p json.decode engine parser options clock sourceName data

end Checks

section Encoding

variable {json : JsonModule Raised}

/-- Surrogates are no ASCII, no white space and have no case. -/
structure Caseless (p : Platform) (json : JsonModule Raised) : Prop where
  ascii : ∀ c : Char, c.toNat < 128 → json.lone c = false
  space : ∀ c, isSpace c = true → json.lone c = false
  lower : ∀ s, json.Encodes (p.lower s) ↔ json.Encodes s

theorem encodes_append {s t : Text} : json.Encodes (s ++ t) ↔ json.Encodes s ∧ json.Encodes t :=
  List.forall_mem_append

theorem encodes_cons {c : Char} {s : Text} :
    json.Encodes (c :: s) ↔ json.lone c = false ∧ json.Encodes s := List.forall_mem_cons

theorem encodes_of_subset {s t : Text} (h : s ⊆ t) (ht : json.Encodes t) : json.Encodes s :=
  fun c hc => ht c (h hc)

theorem encodes_reverse {s : Text} : json.Encodes s.reverse ↔ json.Encodes s := by
  simp [JsonModule.Encodes]

variable {p : Platform} (laws : Caseless p json)

include laws in
theorem encodes_dropWhile {s : Text} : json.Encodes (s.dropWhile isSpace) ↔ json.Encodes s := by
  induction s with
  | nil => rfl
  | cons c s ih =>
    by_cases hc : isSpace c = true
    · rw [List.dropWhile_cons_of_pos hc, ih, encodes_cons, laws.space c hc]
      simp
    · rw [List.dropWhile_cons_of_neg hc]

include laws in
theorem encodes_strip {s : Text} : json.Encodes (strip s) ↔ json.Encodes s := by
  rw [strip, stripBy, rstripBy, lstripBy, encodes_reverse, encodes_dropWhile laws, encodes_reverse,
    encodes_dropWhile laws]

include laws in
theorem encodes_collapseSpace {s : Text} : json.Encodes (collapseSpace s) ↔ json.Encodes s := by
  induction s with
  | nil => rfl
  | cons c s ih =>
    rw [collapseSpace]
    split
    · next hc =>
      have hcons : json.Encodes (c :: s) ↔ json.Encodes s := by
        rw [encodes_cons, laws.space c hc]
        simp
      split
      · rw [ih, hcons]
      · rw [encodes_cons, ih, hcons, laws.ascii ' ' (by decide)]
        simp
    · rw [encodes_cons, encodes_cons, ih]

include laws in
/-- A text is encoded for its hash where the text itself could be. -/
theorem encodes_normalizeText {s : Text} : json.Encodes (normalizeText p s) ↔ json.Encodes s := by
  rw [normalizeText, encodes_collapseSpace laws, laws.lower, encodes_strip laws]

variable {engine : PatternEngine}

theorem encodes_replaceSpans {text replacement : Text} (htext : json.Encodes text)
    (hreplacement : json.Encodes replacement) (lastEnd : Nat) (spans : List (Nat × Nat)) :
    json.Encodes (replaceSpans text replacement lastEnd spans) := by
  induction spans generalizing lastEnd with
  | nil => exact encodes_of_subset (List.drop_subset _ _) htext
  | cons bounds spans ih =>
    rw [replaceSpans, encodes_append, encodes_append]
    refine ⟨⟨encodes_of_subset (fun c hc => ?_) htext, hreplacement⟩, ih bounds.2⟩
    exact List.mem_of_mem_take (List.mem_of_mem_drop hc)

include laws in
theorem encodes_redactedToken (category : PiiCategory) : json.Encodes (redactedToken category) := by
  have hascii : ∀ c ∈ redactedToken category, c.toNat < 128 := by
    cases category <;> decide
  exact fun c hc => laws.ascii c (hascii c hc)

include laws in
/-- Redaction brings no surrogate into a text. -/
theorem encodes_detectPii {text : Text} (h : json.Encodes text) :
    json.Encodes (detectPii engine text).2 := by
  have hfold : ∀ (ds : List DetectorPattern) (found : List (PiiCategory × Nat) × Text),
      json.Encodes found.2 → json.Encodes (ds.foldl (detectStep engine) found).2 := by
    intro ds
    induction ds with
    | nil => exact fun found hfound => hfound
    | cons d ds ih =>
      intro found hfound
      apply ih
      rw [detectStep]
      split
      · exact hfound
      · exact encodes_replaceSpans hfound (encodes_redactedToken laws d.category) 0 _
  exact hfold detectors ([], text) h

end Encoding

end DataForge.Plugins.TextOcr.PayloadErrors
