import DataForge.Foundation.Lines

namespace DataForge.Foundation.Csv

open DataForge.Foundation.Strings
open DataForge.Foundation.Lines

/-- What releases of the CSV module differ in: whether the writer quotes every carriage
return, and how long a field the reader takes. -/
structure Release where
  quotesReturns : Bool
  fieldLimit : Nat

section Writing

variable (release : Release)

/-- A writer of minimal quoting whose lines end with a line feed quotes these fields. -/
def needsQuotes (field : Text) : Bool :=
  field.any fun c => c = ',' || c = '"' || c = '\n' || (release.quotesReturns && c = '\r')

def double (c : Char) : Text := if c = '"' then ['"', '"'] else [c]

def renderField (field : Text) : Text :=
  if needsQuotes release field then '"' :: (field.flatMap double ++ ['"']) else field

/-- The fields of a line with its end; a comma goes before each field but the first. -/
def renderFields : List Text → Text
  | [] => ['\n']
  | field :: fields => ',' :: (renderField release field ++ renderFields fields)

/-- A single empty field is quoted. -/
def renderLine : List Text → Text
  | [] => ['\n']
  | [[]] => ['"', '"', '\n']
  | field :: fields => renderField release field ++ renderFields release fields

def render (table : List (List Text)) : Text := table.flatMap (renderLine release)

end Writing

inductive Mode where
  | startRecord
  | startField
  | inField
  | inQuoted
  | quoteInQuoted
  | eatNewline
  deriving DecidableEq, Repr

inductive CsvError where
  | fieldLimit
  | newline
  deriving DecidableEq, Repr

/-- The records that are read, the fields of the current one and the current field. -/
structure Reader where
  mode : Mode := .startRecord
  records : List (List Text) := []
  fields : List Text := []
  field : Text := []
  deriving DecidableEq

namespace Reader

def saveField (s : Reader) (mode : Mode) : Reader :=
  { s with mode := mode, fields := s.fields ++ [s.field], field := [] }

def endRecord (s : Reader) : Reader :=
  { s with mode := .startRecord, records := s.records ++ [s.fields], fields := [] }

end Reader

section Reading

variable (release : Release)

def push (s : Reader) (mode : Mode) (c : Char) : Except CsvError Reader :=
  if s.field.length < release.fieldLimit then .ok { s with mode := mode, field := s.field ++ [c] }
  else .error .fieldLimit

def stepField (s : Reader) : Option Char → Except CsvError Reader
  | none => .ok (s.saveField .startRecord).endRecord
  | some c =>
    if isNewline c then .ok (s.saveField .eatNewline)
    else if c = ',' then .ok (s.saveField .startField)
    else push release s .inField c

/-- One character, or the end of a line of the stream. -/
def step (s : Reader) (event : Option Char) : Except CsvError Reader :=
  match s.mode, event with
  | .startRecord, none => .ok s.endRecord
  | .startRecord, some c =>
    if isNewline c then .ok { s with mode := .eatNewline }
    else if c = '"' then .ok { s with mode := .inQuoted }
    else stepField release s event
  | .startField, event =>
    if event = some '"' then .ok { s with mode := .inQuoted } else stepField release s event
  | .inField, event => stepField release s event
  | .inQuoted, none => .ok s
  | .inQuoted, some c =>
    if c = '"' then .ok { s with mode := .quoteInQuoted } else push release s .inQuoted c
  | .quoteInQuoted, event =>
    if event = some '"' then push release s .inQuoted '"' else stepField release s event
  | .eatNewline, none => .ok s.endRecord
  | .eatNewline, some c => if isNewline c then .ok s else .error .newline

/-- The characters of the lines, and the end of each. -/
def events (s : Text) : List (Option Char) :=
  (streamLines s).flatMap fun line => line.map some ++ [none]

/-- A quoted field that is not closed ends with the text. -/
def finish (s : Reader) : List (List Text) :=
  if s.mode = .inQuoted then (s.saveField .startRecord).endRecord.records else s.records

def read (s : Text) : Except CsvError (List (List Text)) := do
  let reader ← (events s).foldlM (step release) {}
  pure (finish reader)

end Reading

example : read ⟨true, 131072⟩
    (render ⟨true, 131072⟩ [["a\rb".toList, "c".toList], [[]], ["x,\"".toList]]) =
    .ok [["a\rb".toList, "c".toList], [[]], ["x,\"".toList]] := by
  decide +kernel

section Events

theorem flatMap_streamLinesFrom {s : Text} (hne : s ≠ []) (line : Text) :
    ((streamLinesFrom line s).flatMap fun line => line.map some ++ [none]) =
      line.map some ++ events s := by
  have hgen : ∀ acc line : Text, s ≠ [] →
      ((streamLinesFrom (acc ++ line) s).flatMap fun line => line.map some ++ [none]) =
        acc.map some ++ (streamLinesFrom line s).flatMap fun line => line.map some ++ [none] := by
    clear hne line
    intro acc line
    induction line, s using streamLinesFrom.induct with
    | case1 => exact fun h => absurd rfl h
    | case2 line _ => exact fun h => absurd rfl h
    | case3 line s _ =>
      intro _
      rw [streamLinesFrom, streamLinesFrom, List.flatMap_cons, List.flatMap_cons]
      simp
    | case4 line c s hcrlf hc _ =>
      intro _
      rw [streamLinesFrom, streamLinesFrom, if_pos hc, if_pos hc, List.flatMap_cons,
        List.flatMap_cons]
      · simp
      · exact hcrlf
      · exact hcrlf
    | case5 line c s hcrlf hc ih =>
      intro _
      rw [streamLinesFrom, streamLinesFrom, if_neg hc, if_neg hc, List.append_assoc]
      · by_cases hs : s = []
        · subst hs
          simp [streamLinesFrom]
        · exact ih hs
      · exact hcrlf
      · exact hcrlf
  have happend := hgen line [] hne
  rwa [List.append_nil] at happend

theorem events_cons {c : Char} (hc : isNewline c = false) {s : Text} (hne : s ≠ []) :
    events (c :: s) = some c :: events s := by
  rw [events, streamLines, streamLinesFrom, hc, if_neg Bool.false_ne_true, List.nil_append,
    flatMap_streamLinesFrom hne]
  · rfl
  · rintro s' rfl -
    exact absurd hc (by decide)

theorem events_lineFeed (s : Text) : events ('\n' :: s) = some '\n' :: none :: events s := by
  rw [events, streamLines, streamLinesFrom, if_pos (by decide)]
  · rfl
  · rintro s' h -
    exact absurd h (by decide)

/-- After a character the line may end, where the character is a newline. -/
theorem exists_events_cons (c : Char) {s : Text} (hne : s ≠ []) :
    ∃ stop, (stop = [] ∨ stop = [none]) ∧ events (c :: s) = some c :: (stop ++ events s) := by
  by_cases hc : isNewline c = true
  · by_cases hcrlf : c = '\r' ∧ s.head? = some '\n'
    · obtain ⟨rfl, hs⟩ := hcrlf
      obtain ⟨s', rfl⟩ := List.head?_eq_some_iff.mp hs
      refine ⟨[], .inl rfl, ?_⟩
      rw [events_lineFeed, events, streamLines, streamLinesFrom, List.flatMap_cons]
      rfl
    · refine ⟨[none], .inr rfl, ?_⟩
      rw [events, streamLines, streamLinesFrom, if_pos hc]
      · rfl
      · rintro s' rfl rfl
        exact hcrlf ⟨rfl, rfl⟩
  · exact ⟨[], .inl rfl, events_cons (Bool.eq_false_iff.mpr hc) hne⟩

end Events

end DataForge.Foundation.Csv
