import DataForge.Foundation.Tables
import DataForge.Ingestion.ManifestBuilder

namespace DataForge.Ingestion.TabularRows

open DataForge.Foundation.Strings
open DataForge.Foundation.Dictionary
open DataForge.Foundation.Json
open DataForge.Foundation.JsonReader
open DataForge.Foundation.Sha256
open DataForge.Foundation.Outcome
open DataForge.Foundation.Tables
open DataForge.Domain.Common
open DataForge.Domain.Evidence
open DataForge.Ingestion.ArchiveReader
open DataForge.Ingestion.ManifestBuilder
open DataForge.Kernel.Policy

section Reader

/-- A line as `csv.DictReader` delivers it: its cells by the names of the header, with a
null for a missing one, and the cells that no name is left for. -/
structure DictRow where
  cells : Dict Text Value
  rest : List Text

def dictRow (header values : List Text) : DictRow where
  cells := update [] (header.zipIdx.map fun item =>
    (item.1, (values[item.2]?).elim Value.null Value.str))
  rest := values.drop header.length

/-- The rows of a file, without blank lines; a file without a header has none. -/
def dictRows : Option Table → List DictRow
  | none => []
  | some t => (t.lines.filter (· ≠ [])).map (dictRow t.header)

/-- The row as JSON. The surplus cells are under the key `None`, which has no place among
other keys when these are sorted. -/
def DictRow.record (row : DictRow) : Result (Dict Text Value) :=
  if row.rest = [] then .ok row.cells
  else if row.cells = [] then .ok [("null".toList, .arr (row.rest.map Value.str))]
  else .error (.plain "TypeError" "'<' not supported between instances of 'NoneType' and 'str'")

end Reader

section Rows

def tabularTargetKeys : List Text := ["is_fraud".toList, "label".toList, "target".toList]

def canonicalLabel (key : Text) : Value → Option Text
  | .str value =>
    if key = "is_fraud".toList ∧ value = "1".toList then some "fraud".toList
    else if key = "is_fraud".toList ∧ value = "0".toList then some "not_fraud".toList
    else some value
  | _ => none

/-- `value != ""`. -/
def notEmpty : Value → Bool
  | .str [] => false
  | _ => true

/-- The first target key whose cell is not empty decides, also where the cell is missing. -/
def labelFromRow (cells : Dict Text Value) : Option Text :=
  ((tabularTargetKeys.filterMap fun key => (get? key cells).map fun value => (key, value)).find?
    fun found => notEmpty found.2).bind fun found => canonicalLabel found.1 found.2

def tabularMetadata (cells : Dict Text Value) : Dict Text Value :=
  ((knownLinkKeys ++ ["customer_segment".toList]).filterMap fun key =>
      ((get? key cells).filter truthy).map fun value => (key, value)) ++
    ((sourceObjectId cells).map fun id => (sourceObjectIdKey, Value.str id)).toList

def tabularSource : Text := "transactions".toList

/-- The id of the row, or else its content once more. -/
def tabularRowKey (cells record : Dict Text Value) : Text :=
  (sourceObjectId cells).getD (tabularSource ++ ':' :: dumps (.obj record))

def tabularRow (request : BuildManifestRequest) (row : DictRow) : Result ManifestRow := do
  let record ← row.record
  let contentHash := computeRecordSha256 record
  let objectId := deriveObjectId request.versionId.1 (tabularRowKey row.cells record) contentHash
  let built ← manifestRow request .tabular tabularSource objectId contentHash
      (tabularMetadata row.cells)
  pure { built with label := labelFromRow row.cells }

/-- The rows of a descriptor's table, as the CSV reader finds it. -/
def buildTabularRows (request : BuildManifestRequest)
    (readCsv : ArchiveFileDescriptor → Result (Option Table)) (d : ArchiveFileDescriptor) :
    Result (List ManifestRow) := do
  let file ← readCsv d
  (dictRows file).mapM (tabularRow request)

end Rows

section Payloads

/-- What an archive holds for its readers: the bytes of an entry, and the table of one. -/
structure ArchiveFiles where
  bytes : ArchiveFileDescriptor → Bytes
  readCsv : ArchiveFileDescriptor → Result (Option Table)

def ArchiveFiles.payloads (files : ArchiveFiles) (request : BuildManifestRequest) :
    ArchivePayloads where
  bytes := files.bytes
  tabularRows := buildTabularRows request files.readCsv

end Payloads

end DataForge.Ingestion.TabularRows
