import DataForge.Adapters.ArtifactRegistry
import DataForge.Foundation.Canonical
import DataForge.Foundation.Features
import DataForge.Foundation.Grouping
import DataForge.Foundation.JsonReader
import DataForge.Foundation.Lines
import DataForge.Plugins.TextOcr.Pii

namespace DataForge.Plugins.TextOcr.Validator

open DataForge.Foundation.Strings
open DataForge.Foundation.Lines
open DataForge.Foundation.Dictionary
open DataForge.Foundation.Canonical
open DataForge.Foundation.Grouping
open DataForge.Foundation.Json
open DataForge.Foundation.JsonReader
open DataForge.Foundation.Numbers
open DataForge.Foundation.Scores
open DataForge.Foundation.Sha256
open DataForge.Foundation.Outcome
open DataForge.Domain.Common
open DataForge.Domain.Artifact
open DataForge.Domain.TextOcr
open DataForge.Adapters.ObjectStorage
open DataForge.Adapters.ArtifactRegistry
open DataForge.Plugins.TextOcr.Pii
open FloatLike ScoreLike MetricLike

structure TextRecordParser where
  sourceKind : TextOcrSourceKind
  requiredFields : List String
  optionalFields : List String
  minTextLength : Nat
  requireOcrConfidence : Bool

def supportParser (minTextLength : Nat) : TextRecordParser :=
  ⟨.supportMessages, ["object_id", "text"], ["case_id", "language"], minTextLength, false⟩

def ocrParser (minTextLength : Nat) : TextRecordParser :=
  ⟨.ocrRecords, ["object_id", "text"], ["document_id", "page", "language", "ocr_confidence"],
    minTextLength, false⟩

structure TextOcrBuildRequest where
  datasetId : NonEmptyStr
  versionId : NonEmptyStr
  parentVersionId : NonEmptyStr
  createdByJobId : NonEmptyStr
  configHash : Sha256Digest

structure ParsedRecord (F : Type) where
  objectId : NonEmptyStr
  rawText : Text
  normalizedTextHash : Sha256Digest
  ocrConfidence : Option F

/-- `payload[field] in (None, "")`, or no such field. -/
def lacks (payload : Dict Text Value) (field : String) : Bool :=
  match get? field.toList payload with
  | none | some .null | some (.str []) => true
  | _ => false

def safeObjectId (payload : Dict Text Value) : Option Text :=
  match get? "object_id".toList payload with
  | some (.str (c :: s)) => some (c :: s)
  | _ => none

/-- `\s+` replaced by a blank. -/
def collapseSpace : Text → Text
  | [] => []
  | c :: s =>
    if isSpace c then
      if (s.head?.map isSpace).getD false then collapseSpace s else ' ' :: collapseSpace s
    else c :: collapseSpace s

section Lines

variable (p : Platform) (loads : Text → Option Value) {F : Type} [MetricLike F]

def normalizeText (text : Text) : Text := collapseSpace (p.lower (strip text))

/-- A JSON number, or a Boolean, which is one of the language's integers. -/
def confidenceOf : Value → Option F
  | .num token => parse token.1
  | .bool b => some (ofInt (if b then 1 else 0))
  | _ => none

def parseConfidence (lineNumber : Nat) (objectId : Text) (payload : Dict Text Value) :
    Except TextValidationIssue (Option F) :=
  match get? "ocr_confidence".toList payload with
  | none | some .null => .ok none
  | some candidate =>
    match confidenceOf candidate with
    | some x =>
      if le (ofInt 0) x && le x (ofInt 1) then .ok (some x)
      else .error ⟨lineNumber, some objectId, "invalid_ocr_confidence",
        s!"line {lineNumber} 'ocr_confidence' must be a number in [0, 1]"⟩
    | none => .error ⟨lineNumber, some objectId, "invalid_ocr_confidence",
        s!"line {lineNumber} 'ocr_confidence' must be a number in [0, 1]"⟩

def parseRecord (parser : TextRecordParser) (lineNumber : Nat) (payload : Dict Text Value) :
    Except TextValidationIssue (ParsedRecord F) := do
  match parser.requiredFields.find? (lacks payload) with
  | some field => throw ⟨lineNumber, safeObjectId payload, "missing_required_field",
      s!"line {lineNumber} missing required field '{field}'"⟩
  | none => pure ()
  match get? "text".toList payload with
  | some (.str rawText) =>
    guardOk (strip rawText ≠ []) ⟨lineNumber, safeObjectId payload, "empty_text",
      s!"line {lineNumber} 'text' is empty"⟩
    guardOk (parser.minTextLength ≤ (strip rawText).length) ⟨lineNumber, safeObjectId payload,
      "text_too_short", s!"line {lineNumber} 'text' length below {parser.minTextLength}"⟩
    match get? "object_id".toList payload with
    | some (.str (c :: s)) =>
      let ocrConfidence ← parseConfidence lineNumber (c :: s) payload
      guardOk (¬ (parser.requireOcrConfidence = true ∧ ocrConfidence.isNone = true)) ⟨lineNumber,
        some (c :: s), "missing_required_field",
        s!"line {lineNumber} missing required field 'ocr_confidence'"⟩
      pure ⟨⟨c :: s, by simp⟩, rawText, sha256Digest (encodeUtf8 (normalizeText p rawText)),
        ocrConfidence⟩
    | _ => throw ⟨lineNumber, none, "invalid_object_id_type",
        s!"line {lineNumber} 'object_id' must be a string"⟩
  | _ => throw ⟨lineNumber, safeObjectId payload, "invalid_text_type",
      s!"line {lineNumber} 'text' must be a string"⟩

def parseLine (parser : TextRecordParser) (lineNumber : Nat) (line : Text) :
    Except TextValidationIssue (ParsedRecord F) :=
  match JsonlRecord.read loads line with
  | .invalid => .error ⟨lineNumber, none, "invalid_json", s!"line {lineNumber} is not valid JSON"⟩
  | .notObject => .error ⟨lineNumber, none, "row_not_object",
      s!"line {lineNumber} is not a JSON object"⟩
  | .object payload => parseRecord p parser lineNumber payload

/-- What the walk has found so far; `seen` has the line of each object id. -/
structure Walk (F : Type) where
  issues : List TextValidationIssue
  records : List (ParsedRecord F)
  seen : Dict Text Nat

def walkLine (parser : TextRecordParser) (walk : Walk F) (numbered : Text × Nat) : Walk F :=
  if Blank numbered.1 then walk
  else
    match parseLine p loads parser numbered.2 numbered.1 with
    | .error issue => { walk with issues := walk.issues ++ [issue] }
    | .ok record =>
      match get? record.objectId.1 walk.seen with
      | some first => { walk with issues := walk.issues ++ [⟨numbered.2, some record.objectId.1,
          "duplicate_object_id", s!"object_id repeats line {first}"⟩] }
      | none => { walk with
          records := walk.records ++ [record]
          seen := set record.objectId.1 numbered.2 walk.seen }

def walkJsonl (parser : TextRecordParser) (data : Bytes) : Walk F :=
  match decodeUtf8 data with
  | none => ⟨[⟨1, none, "not_utf8_jsonl", "payload must be UTF-8 encoded JSONL"⟩], [], []⟩
  | some text => ((splitLines text).zipIdx 1).foldl (walkLine p loads parser) ⟨[], [], []⟩

def buildDuplicateGroups (records : List (ParsedRecord F)) : List TextDuplicateGroup :=
  (sortedItems (groupItems (records.map fun record =>
      (record.normalizedTextHash, record.objectId)))).filterMap fun group =>
    if group.2.length < 2 then none
    else some ⟨group.1, group.2.insertionSort fun a b => a.1 ≤ b.1, group.2.length⟩

end Lines

section Kept

variable {p : Platform} {loads : Text → Option Value} {F : Type} [MetricLike F]
  {parser : TextRecordParser}

/-- What the rules of the parser ask of an object, and the record they make of it. -/
structure Accepts (p : Platform) (parser : TextRecordParser) (payload : Dict Text Value)
    (record : ParsedRecord F) : Prop where
  present : parser.requiredFields.find? (lacks payload) = none
  text : get? "text".toList payload = some (.str record.rawText)
  notEmpty : strip record.rawText ≠ []
  longEnough : parser.minTextLength ≤ (strip record.rawText).length
  objectId : get? "object_id".toList payload = some (.str record.objectId.1)
  confidence : parseConfidence 0 [] payload = .ok record.ocrConfidence
  confident : ¬ (parser.requireOcrConfidence = true ∧ record.ocrConfidence.isNone = true)
  hash : record.normalizedTextHash = sha256Digest (encodeUtf8 (normalizeText p record.rawText))

theorem parseConfidence_eq_ok (n m : Nat) (s t : Text) {payload : Dict Text Value} {x : Option F}
    (h : parseConfidence n s payload = .ok x) : parseConfidence m t payload = .ok x := by
  rw [parseConfidence] at h ⊢
  cases hget : get? "ocr_confidence".toList payload with
  | none =>
    rw [hget] at h
    exact h
  | some candidate =>
    rw [hget] at h
    cases candidate with
    | null => exact h
    | str _ | arr _ | obj _ => exact absurd h (by simp [confidenceOf])
    | bool _ | num _ =>
      dsimp only at h ⊢
      split at h
      · split at h
        · next hin => rwa [if_pos hin]
        · cases h
      · cases h

theorem parseRecord_eq_ok_iff {n : Nat} {payload : Dict Text Value} {record : ParsedRecord F} :
    parseRecord p parser n payload = .ok record ↔ Accepts p parser payload record := by
  rw [parseRecord]
  cases hpresent : parser.requiredFields.find? (lacks payload) with
  | some field =>
    refine iff_of_false (by simp) fun h => ?_
    rw [h.present] at hpresent
    cases hpresent
  | none =>
    dsimp only
    constructor
    · intro h
      split at h
      · next rawText htext =>
        obtain ⟨_, hne, h⟩ := bind_eq_ok.mp h
        obtain ⟨_, hlong, h⟩ := bind_eq_ok.mp h
        split at h
        · next c s hid =>
          obtain ⟨x, hx, h⟩ := bind_eq_ok.mp h
          obtain ⟨_, hconfident, h⟩ := bind_eq_ok.mp h
          obtain rfl := Except.ok.inj h
          exact ⟨hpresent, htext, guardOk_eq_ok.mp hne, guardOk_eq_ok.mp hlong, hid,
            parseConfidence_eq_ok n 0 (c :: s) [] hx, guardOk_eq_ok.mp hconfident, rfl⟩
        · cases h
      · cases h
    · rintro ⟨-, htext, hne, hlong, hid, hconfidence, hconfident, hhash⟩
      obtain ⟨⟨objectId, hobjectId⟩, rawText, hash, x⟩ := record
      cases objectId with
      | nil => exact absurd rfl hobjectId
      | cons c s =>
        dsimp only at htext hne hlong hid hconfidence hconfident hhash
        have hx := parseConfidence_eq_ok 0 n [] (c :: s) hconfidence
        simp only [htext, hid, hx, guardOk, if_pos hne, if_pos hlong, if_pos hconfident, ok_bind,
          hhash]
        rfl

/-- The parser makes this record of the line. -/
def AcceptsLine (p : Platform) (loads : Text → Option Value) (parser : TextRecordParser)
    (line : Text) (record : ParsedRecord F) : Prop :=
  ¬ Blank line ∧ ∃ payload, JsonlRecord.read loads line = .object payload ∧
    Accepts p parser payload record

/-- Some line is accepted with this record, and no line before it with the same object id. -/
def Keeps (p : Platform) (loads : Text → Option Value) (parser : TextRecordParser)
    (lines : List Text) (record : ParsedRecord F) : Prop :=
  ∃ before line after, lines = before ++ line :: after ∧ AcceptsLine p loads parser line record ∧
    ∀ earlier ∈ before, ∀ other : ParsedRecord F, AcceptsLine p loads parser earlier other →
      other.objectId ≠ record.objectId

theorem acceptsLine_iff {n : Nat} {line : Text} {record : ParsedRecord F} (h : ¬ Blank line) :
    AcceptsLine p loads parser line record ↔ parseLine p loads parser n line = .ok record := by
  rw [AcceptsLine, parseLine, and_iff_right h]
  cases JsonlRecord.read loads line with
  | invalid => simp
  | notObject => simp
  | object payload => simp [parseRecord_eq_ok_iff]

theorem acceptsLine_unique {line : Text} {record other : ParsedRecord F}
    (h : AcceptsLine p loads parser line record) (h' : AcceptsLine p loads parser line other) :
    record = other := by
  have hok := (acceptsLine_iff (n := 0) h.1).mp h
  rw [(acceptsLine_iff h.1).mp h'] at hok
  exact (Except.ok.inj hok).symm

theorem keeps_append_singleton {lines : List Text} {line : Text} {record : ParsedRecord F} :
    Keeps p loads parser (lines ++ [line]) record ↔ Keeps p loads parser lines record ∨
      AcceptsLine p loads parser line record ∧ ∀ earlier ∈ lines, ∀ other : ParsedRecord F,
        AcceptsLine p loads parser earlier other → other.objectId ≠ record.objectId := by
  constructor
  · rintro ⟨before, found, after, hlines, hfound, hfirst⟩
    obtain rfl | ⟨after, last, rfl⟩ := List.eq_nil_or_concat after
    · obtain ⟨rfl, hline⟩ := List.append_inj' hlines rfl
      obtain rfl := List.singleton_inj.mp hline
      exact Or.inr ⟨hfound, hfirst⟩
    · rw [List.concat_eq_append, ← List.cons_append, ← List.append_assoc] at hlines
      exact Or.inl ⟨before, found, after, (List.append_inj' hlines rfl).1, hfound, hfirst⟩
  · rintro (⟨before, found, after, rfl, hfound, hfirst⟩ | ⟨hline, hfirst⟩)
    · exact ⟨before, found, after ++ [line], by simp, hfound, hfirst⟩
    · exact ⟨lines, line, [], rfl, hline, hfirst⟩

/-- What the walk has after some lines: the records they keep, and their object ids. -/
structure Walked (p : Platform) (loads : Text → Option Value) (parser : TextRecordParser)
    (lines : List Text) (walk : Walk F) : Prop where
  records : ∀ record, record ∈ walk.records ↔ Keeps p loads parser lines record
  unseen : ∀ objectId, get? objectId walk.seen = none ↔ ∀ line ∈ lines, ∀ record : ParsedRecord F,
    AcceptsLine p loads parser line record → record.objectId.1 ≠ objectId

theorem walked_skip {lines : List Text} {line : Text} {walk next : Walk F}
    (h : Walked p loads parser lines walk)
    (hskip : ∀ record : ParsedRecord F, ¬ AcceptsLine p loads parser line record)
    (hrecords : next.records = walk.records) (hseen : next.seen = walk.seen) :
    Walked p loads parser (lines ++ [line]) next := by
  constructor
  · intro record
    rw [hrecords, h.records, keeps_append_singleton]
    exact (or_iff_left fun hnew => hskip record hnew.1).symm
  · intro objectId
    rw [hseen, h.unseen, List.forall_mem_append, List.forall_mem_singleton]
    exact (and_iff_left fun record hline => absurd hline (hskip record)).symm

/-- The step: a line adds what `Keeps` says it adds. -/
theorem walked_walkLine {lines : List Text} {line : Text} {n : Nat} {walk : Walk F}
    (h : Walked p loads parser lines walk) :
    Walked p loads parser (lines ++ [line]) (walkLine p loads parser walk (line, n)) := by
  rw [walkLine]
  split
  · next hblank => exact walked_skip h (fun record hline => hline.1 hblank) rfl rfl
  · next hblank =>
    split
    · next issue hparse =>
      refine walked_skip h (fun record hline => ?_) rfl rfl
      rw [(acceptsLine_iff hblank).mp hline] at hparse
      cases hparse
    · next record hparse =>
      have hline : AcceptsLine p loads parser line record := (acceptsLine_iff hblank).mpr hparse
      split
      · next first hfirst =>
        have hseen : ¬ ∀ earlier ∈ lines, ∀ other : ParsedRecord F,
            AcceptsLine p loads parser earlier other → other.objectId.1 ≠ record.objectId.1 := by
          rw [← h.unseen, hfirst]
          exact Option.some_ne_none first
        constructor
        · intro kept
          rw [keeps_append_singleton]
          refine (h.records kept).trans (or_iff_left fun hnew => hseen ?_).symm
          obtain rfl := acceptsLine_unique hline hnew.1
          exact fun earlier hmem other hother heq =>
            hnew.2 earlier hmem other hother (Subtype.ext heq)
        · intro objectId
          rw [h.unseen, List.forall_mem_append, List.forall_mem_singleton]
          refine (and_iff_left_of_imp fun hall other hother heq => ?_).symm
          obtain rfl := acceptsLine_unique hline hother
          exact hseen (heq ▸ hall)
      · next hnone =>
        have hnew := (h.unseen record.objectId.1).mp hnone
        constructor
        · intro kept
          rw [List.mem_append, List.mem_singleton, h.records, keeps_append_singleton]
          refine or_congr_right ⟨?_, fun hkept => acceptsLine_unique hkept.1 hline⟩
          rintro rfl
          exact ⟨hline, fun earlier hmem other hother heq =>
            hnew earlier hmem other hother (congrArg Subtype.val heq)⟩
        · intro objectId
          rw [get?_set, List.forall_mem_append, List.forall_mem_singleton, ← h.unseen]
          split
          · next heq =>
            exact iff_of_false (Option.some_ne_none n) fun hall => hall.2 record hline heq
          · next hne =>
            refine (and_iff_left fun other hother => ?_).symm
            obtain rfl := acceptsLine_unique hline hother
            exact hne

/-- The validator's records are those that the lines keep. -/
theorem mem_walkJsonl_iff {data : Bytes} {text : Text} (hdecode : decodeUtf8 data = some text)
    {record : ParsedRecord F} : record ∈ (walkJsonl p loads parser data).records ↔
      Keeps p loads parser (splitLines text) record := by
  have hrun : ∀ (rest done : List Text) (n : Nat) (walk : Walk F), Walked p loads parser done walk →
      Walked p loads parser (done ++ rest)
        ((rest.zipIdx n).foldl (walkLine p loads parser) walk) := by
    intro rest
    induction rest with
    | nil => simp
    | cons line rest ih =>
      intro done n walk h
      rw [List.zipIdx_cons, List.foldl_cons, List.append_cons]
      exact ih _ _ _ (walked_walkLine h)
  have hstart : Walked p loads parser [] (⟨[], [], []⟩ : Walk F) := by
    constructor
    · simp [Keeps]
    · simp
  rw [walkJsonl, hdecode]
  exact (hrun _ [] 1 _ hstart).records record

end Kept

end DataForge.Plugins.TextOcr.Validator
