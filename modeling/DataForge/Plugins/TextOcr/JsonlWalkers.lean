import DataForge.Ingestion.ManifestBuilder
import DataForge.Plugins.TextOcr.RedactedJsonl

namespace DataForge.Plugins.TextOcr.JsonlWalkers

open DataForge.Foundation.Strings
open DataForge.Foundation.Lines
open DataForge.Foundation.Dictionary
open DataForge.Foundation.Json
open DataForge.Foundation.JsonReader
open DataForge.Foundation.Scores
open DataForge.Domain.Artifact
open DataForge.Plugins.TextOcr.Pii
open DataForge.Plugins.TextOcr.Validator
open DataForge.Plugins.TextOcr.RedactedJsonl

section Records

variable (loads : Text → Option Value)

/-- The records that the manifest builder parses; its rows and unsupported entries
stand for them one by one (`buildJsonlRows_of`). -/
def manifestRecords (text : Text) : List JsonlRecord :=
  readLines (JsonlRecord.read loads) (streamLines text)

/-- The records that the validator and the redaction parse. -/
def walkedRecords (text : Text) : List JsonlRecord :=
  readLines (JsonlRecord.read loads) (splitLines text)

/-- The object id and the text of a record, where both are strings. -/
def textFields : JsonlRecord → Option (Text × Text)
  | .object payload =>
    match get? "object_id".toList payload, get? "text".toList payload with
    | some (.str objectId), some (.str text) => some (objectId, text)
    | _, _ => none
  | _ => none

variable {loads} {F : Type}

theorem textRecord_of_not_blank {line : Text} (h : ¬ Blank line) :
    textRecord loads line = textFields (JsonlRecord.read loads line) := by
  rw [textRecord, if_neg h]
  cases JsonlRecord.read loads line <;> rfl

theorem redactedRecords_eq [ScoreLike F] (engine : PatternEngine) (text : Text) :
    redactedRecords loads engine F text = ((walkedRecords loads text).filterMap textFields).map
      fun record => redactRecord engine F record.1 record.2 := by
  rw [redactedRecords, walkedRecords, readLines, List.filterMap_map]
  congr 1
  induction splitLines text with
  | nil => rfl
  | cons line lines ih =>
    by_cases hblank : Blank line
    · have hnone : textRecord loads line = none := by rw [textRecord, if_pos hblank]
      rw [List.filterMap_cons_none hnone, List.filter_cons_of_neg (by simpa using hblank), ih]
    · rw [List.filter_cons_of_pos (by simpa using hblank), List.filterMap_cons, List.filterMap_cons,
        textRecord_of_not_blank hblank, ih]
      rfl

variable {p : Platform} [MetricLike F]

theorem walkLine_count (parser : TextRecordParser) (walk : Walk F) (numbered : Text × Nat) :
    (walkLine p loads parser walk numbered).records.length +
        (walkLine p loads parser walk numbered).issues.length =
      walk.records.length + walk.issues.length + if Blank numbered.1 then 0 else 1 := by
  rw [walkLine]
  split
  · rfl
  · split
    · simp only [List.length_append, List.length_singleton]
      omega
    · split <;> simp only [List.length_append, List.length_singleton] <;> omega

/-- The validator counts one valid record or one issue for each record it parses. -/
theorem walkJsonl_count (parser : TextRecordParser) {data : Foundation.Sha256.Bytes} {text : Text}
    (h : Foundation.Sha256.decodeUtf8 data = some text) :
    (walkJsonl p loads parser data : Walk F).records.length +
        (walkJsonl p loads parser data : Walk F).issues.length =
      (walkedRecords loads text).length := by
  have hfold : ∀ (lines : List Text) (n : Nat) (walk : Walk F),
      ((lines.zipIdx n).foldl (walkLine p loads parser) walk).records.length +
          ((lines.zipIdx n).foldl (walkLine p loads parser) walk).issues.length =
        walk.records.length + walk.issues.length +
          (readLines (JsonlRecord.read loads) lines).length := by
    intro lines
    induction lines with
    | nil => intro n walk; rfl
    | cons line lines ih =>
      intro n walk
      rw [List.zipIdx_cons, List.foldl_cons, ih, walkLine_count]
      by_cases hblank : Blank line
      · simp [readLines, hblank]
      · simp only [readLines, hblank, not_false_eq_true, decide_true, List.filter_cons_of_pos,
          List.map_cons, List.length_cons, if_false]
        omega
  rw [walkJsonl, h]
  exact (hfold _ 1 _).trans (Nat.zero_add _)

end Records

section Agreement

variable (loads : Text → Option Value) (engine : PatternEngine) (F : Type) [ScoreLike F]

/-- The walkers parse the same records, and the redacted output has one line, in the
same order, for each record of the manifest whose object id and text are strings. -/
structure WalkersAgree (text : Text) : Prop where
  records : manifestRecords loads text = walkedRecords loads text
  redacted : (redactedRecords loads engine F text).map redactedLine =
    ((manifestRecords loads text).filterMap textFields).map fun record =>
      redactedLine (redactRecord engine F record.1 record.2)

/-- They agree exactly if each line of the stream keeps its one record when it is cut
at the other boundaries of `str.splitlines` too. -/
theorem walkersAgree_iff (text : Text) : WalkersAgree loads engine F text ↔
    ∀ line ∈ streamLines text, ¬ Blank line →
      walkedRecords loads line = [JsonlRecord.read loads line] := by
  have hrecords := readLines_streamLines_eq_iff (JsonlRecord.read loads) text
  constructor
  · exact fun h => hrecords.mp h.records
  · intro h
    have hsame : manifestRecords loads text = walkedRecords loads text := hrecords.mpr h
    refine ⟨hsame, ?_⟩
    rw [redactedRecords_eq, List.map_map, hsame]
    rfl

end Agreement

/-- The line separator U+2028 may stand in a JSON string. -/
theorem separator_splits_record :
    ¬ WalkersAgree loads addressEngine ℚ
      "\x7b\"object_id\":\"a\",\"text\":\"x\u2028y\"\x7d".toList := by
  intro h
  have hlength := congrArg List.length h.records
  revert hlength
  decide +kernel

end DataForge.Plugins.TextOcr.JsonlWalkers
