import DataForge.Domain.TextOcr
import DataForge.Foundation.Outcome
import DataForge.Foundation.Sha256

namespace DataForge.Plugins.TextOcr.Pii

open DataForge.Foundation.Strings
open DataForge.Foundation.Numbers
open DataForge.Foundation.Scores
open DataForge.Foundation.Sha256
open DataForge.Foundation.Outcome
open DataForge.Domain.Common
open DataForge.Domain.TextOcr
open FloatLike

/-- What the regular expression engine and the character tables answer: the spans of
the matches of a category's pattern, from left to right, and `int(char)`. -/
structure PatternEngine where
  finditer : PiiCategory → Text → List (Nat × Nat)
  digit : Char → Option Nat

structure DetectorPattern where
  category : PiiCategory
  requireLuhn : Bool

def detectors : List DetectorPattern :=
  [⟨.secret, false⟩, ⟨.email, false⟩, ⟨.passport, false⟩, ⟨.paymentCard, true⟩,
    ⟨.bankAccount, false⟩, ⟨.phone, false⟩]

def redactedToken (category : PiiCategory) : Text :=
  "[REDACTED_".toList ++ category.value.map Char.toUpper ++ [']']

def span (text : Text) (bounds : Nat × Nat) : Text := (text.take bounds.2).drop bounds.1

/-- The text with the spans replaced, from the end of the last one on. -/
def replaceSpans (text replacement : Text) : Nat → List (Nat × Nat) → Text
  | lastEnd, [] => text.drop lastEnd
  | lastEnd, bounds :: spans =>
    span text (lastEnd, bounds.1) ++ replacement ++ replaceSpans text replacement bounds.2 spans

def luhnTerm (parity index value : Nat) : Nat :=
  if index % 2 = parity then if value * 2 > 9 then value * 2 - 9 else value * 2 else value

section Detection

variable (engine : PatternEngine)

def luhnValid (digits : Text) : Bool :=
  match digits.mapM engine.digit with
  | some (value :: values) =>
    ((value :: values).mapIdx (luhnTerm (digits.length % 2))).sum % 10 = 0
  | _ => false

/-- The spans that a detector replaces. -/
def hits (detector : DetectorPattern) (text : Text) : List (Nat × Nat) :=
  (engine.finditer detector.category text).filter fun bounds =>
    !detector.requireLuhn ||
      luhnValid engine ((span text bounds).filter fun c => !isSpace c && c ≠ '-')

def detectStep (found : List (PiiCategory × Nat) × Text) (detector : DetectorPattern) :
    List (PiiCategory × Nat) × Text :=
  let spans := hits engine detector found.2
  if spans = [] then found
  else (found.1 ++ [(detector.category, spans.length)],
    replaceSpans found.2 (redactedToken detector.category) 0 spans)

/-- The counts in the order in which the detectors found something; no category has
two detectors. -/
def detectPii (text : Text) : List (PiiCategory × Nat) × Text :=
  detectors.foldl (detectStep engine) ([], text)

def tokenCount (counts : List (PiiCategory × Nat)) : Nat := (counts.map Prod.snd).sum

/-- The detectors find at least one category. -/
def HasPii (text : Text) : Prop := (detectPii engine text).1 ≠ []

instance (text : Text) : Decidable (HasPii engine text) := inferInstanceAs (Decidable (¬ _))

theorem detectPii_pos (text : Text) : ∀ entry ∈ (detectPii engine text).1, 0 < entry.2 := by
  have hfold : ∀ (ds : List DetectorPattern) (found : List (PiiCategory × Nat) × Text),
      (∀ entry ∈ found.1, 0 < entry.2) →
        ∀ entry ∈ (ds.foldl (detectStep engine) found).1, 0 < entry.2 := by
    intro ds
    induction ds with
    | nil => exact fun found h => h
    | cons d ds ih =>
      intro found h
      apply ih
      rw [detectStep]
      split
      · exact h
      · next hspans =>
        intro entry hentry
        obtain hentry | hentry := List.mem_append.mp hentry
        · exact h entry hentry
        · rw [List.mem_singleton.mp hentry]
          exact List.length_pos_iff.mpr hspans
  exact hfold detectors ([], text) (by simp)

theorem tokenCount_pos_iff (text : Text) :
    0 < tokenCount (detectPii engine text).1 ↔ HasPii engine text := by
  have hpos := detectPii_pos engine text
  rw [HasPii]
  cases hcounts : (detectPii engine text).1 with
  | nil => simp [tokenCount]
  | cons entry counts =>
    have hentry := hpos entry (by simp [hcounts])
    simp only [tokenCount, List.map_cons, List.sum_cons, ne_eq, reduceCtorEq, not_false_eq_true,
      iff_true]
    omega

end Detection

/-- An engine that knows one address and no digits. -/
def addressEngine : PatternEngine where
  finditer category text :=
    if category = .email ∧ text = "a@b.co".toList then [(0, 6)] else []
  digit _ := none

example : detectPii addressEngine "a@b.co".toList = ([(.email, 1)], "[REDACTED_EMAIL]".toList) := by
  decide

section Records

variable (engine : PatternEngine) {F : Type} [ScoreLike F]

def riskWeight (F : Type) [ScoreLike F] : PiiCategory → F
  | .passport => ofInt 1
  | .paymentCard => ofInt 1
  | .bankAccount => ScoreLike.decimal 9 1
  | .secret => ofInt 1
  | .email => ScoreLike.decimal 5 1
  | .phone => ScoreLike.decimal 5 1

/-- The weighted number of findings for every hundred characters, with short texts
counted as a hundred. -/
def riskDensity (F : Type) [ScoreLike F] (counts : List (PiiCategory × Nat))
    (textLength : Nat) : F :=
  div (sum (counts.map fun entry => mul (riskWeight F entry.1) (ofInt entry.2)))
    (FloatLike.max (ofInt 1) (div (ofInt textLength) (ofInt 100)))

def computeRiskScore (counts : List (PiiCategory × Nat)) (textLength : Nat) : F :=
  if counts = [] then ofInt 0 else DataForge.Foundation.Scores.min (ofInt 1)
    (riskDensity F counts textLength)

structure RedactedRecord (F : Type) where
  objectId : Text
  redactedText : Text
  findings : List PiiFinding
  piiTokenCount : Nat
  piiRiskScore : F
  redactedTextSha256 : Sha256Digest

def redactRecord (F : Type) [ScoreLike F] (objectId text : Text) : RedactedRecord F :=
  let (counts, redacted) := detectPii engine text
  { objectId := objectId
    redactedText := redacted
    findings := (counts.insertionSort fun a b => a.1.value ≤ b.1.value).map fun entry =>
      ⟨entry.1, entry.2⟩
    piiTokenCount := tokenCount counts
    piiRiskScore := computeRiskScore counts text.length
    redactedTextSha256 := sha256Digest (encodeUtf8 redacted) }

@[simp] theorem redactRecord_objectId (objectId text : Text) :
    (redactRecord engine F objectId text).objectId = objectId := rfl

@[simp] theorem redactRecord_redactedText (objectId text : Text) :
    (redactRecord engine F objectId text).redactedText = (detectPii engine text).2 := rfl

@[simp] theorem redactRecord_piiRiskScore (objectId text : Text) :
    (redactRecord engine F objectId text).piiRiskScore =
      computeRiskScore (detectPii engine text).1 text.length := rfl

theorem redactRecord_pos_iff (objectId text : Text) :
    0 < (redactRecord engine F objectId text).piiTokenCount ↔ HasPii engine text :=
  tokenCount_pos_iff engine text

def RedactedRecord.toRecordFindings (record : RedactedRecord F) :
    Result (TextPiiFindingsForRecord F) := do
  let objectId ← field "TextPiiFindingsForRecord" "object_id" record.objectId
  if h : InRange 1 record.piiRiskScore then
    pure ⟨objectId, record.findings, record.piiTokenCount, ⟨record.piiRiskScore, h⟩,
      record.redactedTextSha256⟩
  else .error (.validation "TextPiiFindingsForRecord" "pii_risk_score")

theorem RedactedRecord.toRecordFindings_eq_ok {record : RedactedRecord F}
    {findings : TextPiiFindingsForRecord F} (h : record.toRecordFindings = .ok findings) :
    findings.objectId.1 = record.objectId ∧ findings.findings = record.findings ∧
      findings.piiRiskScore.1 = record.piiRiskScore := by
  obtain ⟨objectId, hid, h⟩ := bind_eq_ok.mp h
  split at h
  · obtain rfl := Except.ok.inj h
    exact ⟨field_eq_ok.mp hid, rfl, rfl⟩
  · cases h

/-- The records with a finding. -/
def risky (records : List (RedactedRecord F)) : List (RedactedRecord F) :=
  records.filter fun record => 0 < record.piiTokenCount

/-- The findings, the number of records that have some and the number of tokens. -/
def aggregatePii (records : List (RedactedRecord F)) :
    Result (List (TextPiiFindingsForRecord F) × Nat × Nat) := do
  let findings ← (risky records).mapM RedactedRecord.toRecordFindings
  pure (findings, (risky records).length, ((risky records).map RedactedRecord.piiTokenCount).sum)

theorem aggregatePii_eq_ok {records : List (RedactedRecord F)}
    {findings : List (TextPiiFindingsForRecord F)} {recordCount tokens : Nat}
    (h : aggregatePii records = .ok (findings, recordCount, tokens)) :
    (risky records).mapM RedactedRecord.toRecordFindings = .ok findings ∧
      recordCount = (risky records).length ∧
      tokens = ((risky records).map RedactedRecord.piiTokenCount).sum := by
  obtain ⟨fs, hfs, h⟩ := bind_eq_ok.mp h
  simp only [pure_eq, Except.ok.injEq, Prod.mk.injEq] at h
  obtain ⟨rfl, rfl, rfl⟩ := h
  exact ⟨hfs, rfl, rfl⟩

end Records

end DataForge.Plugins.TextOcr.Pii
