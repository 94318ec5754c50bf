import DataForge.Foundation.CsvReturns
import DataForge.Foundation.DecimalText
import DataForge.Plugins.Tabular.Duplicates
import DataForge.Plugins.Tabular.Imputation
import DataForge.Plugins.Tabular.SyntheticSmote

namespace DataForge.Plugins.Tabular.CsvFiles

open DataForge.Foundation
open DataForge.Foundation.Strings
open DataForge.Foundation.Outcome
open DataForge.Foundation.Sha256
open DataForge.Foundation.Dictionary
open DataForge.Foundation.Tables
open DataForge.Foundation.Csv (Release Safe)
open DataForge.Domain.Common
open DataForge.Plugins.Tabular.Sources
open DataForge.Plugins.Tabular.SyntheticCommon

section Files

variable (release : Release)

def encode (t : Table) : Bytes := encodeUtf8 (Csv.render release (t.header :: t.lines))

def decode (data : Bytes) : Result Table :=
  match decodeUtf8 data with
  | none => .error (.plain "UnicodeDecodeError" "invalid utf-8")
  | some text =>
    match Csv.read release text with
    | .error .fieldLimit => .error (.plain "csv.Error" "field larger than field limit")
    | .error .newline => .error (.plain "csv.Error" "new-line character seen in unquoted field")
    | .ok [] => .ok ⟨[], []⟩
    | .ok (header :: lines) => .ok ⟨header, lines⟩

/-- The executors that write a dataset; the last one appends rows of its own. -/
inductive CsvWriter where
  | imputation
  | duplicates
  | synthetic (syntheticRows : List Row)

namespace CsvWriter

def table (columns : List Text) (rows : List Row) : CsvWriter → Table
  | imputation => .write columns rows
  | duplicates => .write columns rows
  | synthetic syntheticRows =>
    writeCandidateCsv rows syntheticRows (candidateDatasetColumns columns)

def bytes (columns : List Text) (rows : List Row) (writer : CsvWriter) : Bytes :=
  encode release (writer.table columns rows)

/-- The columns of the file. -/
def columns (columns : List Text) : CsvWriter → List Text
  | synthetic _ => candidateDatasetColumns columns
  | _ => columns

/-- The rows that the file shows, the real ones with their marker. -/
def rows (columns : List Text) (rows : List Row) : CsvWriter → List Row
  | synthetic syntheticRows =>
    rows.map (materialized (candidateDatasetColumns columns)) ++ syntheticRows
  | _ => rows

end CsvWriter

inductive CsvReader where
  | imputation
  | duplicates
  | source (targetColumn : NonEmptyStr)

def duplicatesReadCsv (t : Table) : Result (List Row) := do
  guardOk (t.columns ≠ [])
    (Duplicates.duplicateError "empty_tabular_source" "Source CSV has no header columns."
      .invalidJobPayload)
  guardOk (t.records ≠ [])
    (Duplicates.duplicateError "empty_tabular_source" "Source CSV has no data rows."
      .invalidJobPayload)
  pure t.records

namespace CsvReader

def rows (t : Table) : CsvReader → Result (List Row)
  | imputation => Imputation.readCsv t
  | duplicates => duplicatesReadCsv t
  | source targetColumn => do
    let rows ← SyntheticSmote.readSourceRows t targetColumn
    pure (rows.map Subtype.val)

def read (data : Bytes) (reader : CsvReader) : Result (List Row) := do
  let t ← decode release data
  reader.rows t

/-- What a reader makes of a row of the file: the source reader fills in an id. -/
def shown (index : Nat) (row : Row) : CsvReader → Row
  | source _ => withObjectId index row
  | _ => row

def cell (index : Nat) (row : Row) (column : Text) : CsvReader → Text
  | source _ =>
    if column = objectIdColumn then (effectiveId index row).1 else Tables.cell column row
  | _ => Tables.cell column row

def Takes (columns : List Text) : CsvReader → Prop
  | source targetColumn => targetColumn.1 ∈ columns
  | _ => columns ≠ []

end CsvReader

/-- As many rows come back, in their order and with their cells. -/
def ReadsBack (writer : CsvWriter) (reader : CsvReader) (columns : List Text)
    (rows : List Row) : Prop :=
  ∃ got, reader.read release (writer.bytes release columns rows) = .ok got ∧
    got.length = (writer.rows columns rows).length ∧
      ∀ i row found, (writer.rows columns rows)[i]? = some row → got[i]? = some found →
        ∀ column ∈ writer.columns columns, get? column found = some (reader.cell i row column)

/-- A text that a field can hold. -/
def Holds (text : Text) : Prop := text.length ≤ release.fieldLimit ∧ Safe release text

end Files

section Texts

variable {release : Release} {t found : Table} {data : Bytes}

theorem decode_eq_ok (h : decode release data = .ok found) : ∃ text, decodeUtf8 data = some text ∧
    (Csv.read release text = .ok (found.header :: found.lines) ∨ found = ⟨[], []⟩) := by
  rw [decode] at h
  cases hdecode : decodeUtf8 data with
  | none => simp [hdecode] at h
  | some text =>
    simp only [hdecode] at h
    refine ⟨text, rfl, ?_⟩
    split at h
    · cases h
    · cases h
    · cases h
      exact .inr rfl
    · next header lines hread =>
      cases h
      exact .inl hread

theorem safe_of_decode (h : decode release (encode release t) = .ok found) :
    ∀ line ∈ found.header :: found.lines, ∀ field ∈ line, Safe release field := by
  obtain ⟨text, hdecode, hread⟩ := decode_eq_ok h
  rw [encode, decodeUtf8_encodeUtf8] at hdecode
  obtain rfl := Option.some.inj hdecode
  rcases hread with hread | rfl
  · exact Csv.safe_of_read_render hread
  · simp

/-- A file is read as it was written exactly where its fields hold their texts. -/
theorem decode_encode (h : ∀ line ∈ t.header :: t.lines, ∀ field ∈ line, Holds release field) :
    decode release (encode release t) = .ok t := by
  rw [decode, encode, decodeUtf8_encodeUtf8]
  simp only [Csv.read_render_iff.mpr h]

theorem holds_of_decode (hsafe : ∀ line ∈ t.header :: t.lines, ∀ field ∈ line, Safe release field)
    (h : decode release (encode release t) = .ok found) :
    ∀ line ∈ t.header :: t.lines, ∀ field ∈ line, Holds release field := by
  rw [decode, encode, decodeUtf8_encodeUtf8] at h
  simp only [Csv.read_render hsafe] at h
  by_cases hfits : ∀ line ∈ t.header :: t.lines, Csv.Fits release line
  · exact fun line hline field hfield =>
      ⟨hfits line hline field hfield, hsafe line hline field hfield⟩
  · rw [if_neg hfits] at h
    cases h

theorem safe_value {line : List Text} (h : ∀ field ∈ line, Safe release field) (column : Text) :
    Safe release (t.value line column) := by
  rw [Table.value, cell]
  by_cases hcolumn : column ∈ (t.header.mapIdx fun i name => (name, line.getD i [])).map Prod.fst
  · obtain ⟨v, hmem, hget⟩ := exists_get?_update hcolumn []
    obtain ⟨i, hi, heq⟩ := List.mem_mapIdx.mp hmem
    obtain ⟨rfl, rfl⟩ := Prod.mk.inj heq
    rw [hget, Option.getD_some, List.getD_eq_getElem?_getD]
    cases hfield : (line)[i]? with
    | none => exact Csv.safe_nil
    | some field => exact h field (List.mem_of_getElem? hfield)
  · rw [get?_update_of_notMem hcolumn]
    exact Csv.safe_nil

end Texts

section Readers

variable {release : Release} {t : Table} {got : List Row} {reader : CsvReader} {index : Nat}
  {row : Row} {column : Text}

/-- The readers differ in what they ask of the columns and in the id that one fills in. -/
theorem rows_eq_ok : reader.rows t = .ok got ↔ reader.Takes t.columns ∧ t.records ≠ [] ∧
    got = t.records.zipIdx.map fun item => reader.shown item.2 item.1 := by
  cases reader with
  | imputation =>
    simp only [CsvReader.rows, Imputation.readCsv, CsvReader.Takes, CsvReader.shown,
      check_bind_eq_ok, guardOk_eq_ok, pure_eq, Except.ok.injEq, List.zipIdx_map_fst,
      eq_comm (a := got)]
  | duplicates =>
    simp only [CsvReader.rows, duplicatesReadCsv, CsvReader.Takes, CsvReader.shown,
      check_bind_eq_ok, guardOk_eq_ok, pure_eq, Except.ok.injEq, List.zipIdx_map_fst,
      eq_comm (a := got)]
  | source targetColumn =>
    simp only [CsvReader.rows, SyntheticSmote.readSourceRows, bind_eq_ok, readRows_eq_ok, pure_eq,
      Except.ok.injEq, CsvReader.Takes]
    constructor
    · rintro ⟨_, ⟨_, ⟨-, htarget, hrecords, rfl⟩, rfl⟩, rfl⟩
      refine ⟨htarget, hrecords, ?_⟩
      rw [identifiedRows, List.map_map]
      rfl
    · rintro ⟨htarget, hrecords, rfl⟩
      refine ⟨_, ⟨_, ⟨List.ne_nil_of_mem htarget, htarget, hrecords, rfl⟩, rfl⟩, ?_⟩
      rw [identifiedRows, List.map_map]
      rfl

theorem cell_shown :
    Tables.cell column (reader.shown index row) = reader.cell index row column := by
  cases reader with
  | source targetColumn =>
    rw [CsvReader.shown, CsvReader.cell]
    split
    · next hid => rw [hid, cell_withObjectId]
    · next hid => exact cell_withObjectId_ne hid
  | imputation => rfl
  | duplicates => rfl

theorem safe_fallbackId (index : Nat) : Safe release (fallbackId index).1 := by
  intro hreturn
  rcases List.mem_append.mp hreturn with hname | hdigit
  · exact absurd hname (by decide)
  · exact absurd (DecimalText.zeroPadded_isDigit hdigit) (by decide)

theorem safe_cell :
    Safe release (reader.cell index row column) ↔ Safe release (Tables.cell column row) := by
  cases reader with
  | source targetColumn =>
    rw [CsvReader.cell]
    split
    · next hid =>
      rw [hid, effectiveId]
      split
      · rfl
      · next hempty =>
        rw [not_not.mp hempty]
        exact iff_of_true (safe_fallbackId index) Csv.safe_nil
    · rfl
  | imputation => rfl
  | duplicates => rfl

end Readers

end DataForge.Plugins.Tabular.CsvFiles
