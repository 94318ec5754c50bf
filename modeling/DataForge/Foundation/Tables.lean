import DataForge.Foundation.Dictionary
import DataForge.Foundation.Strings

namespace DataForge.Foundation.Tables

open DataForge.Foundation.Strings
open DataForge.Foundation.Dictionary

/-- A CSV file as its reader delivers it: the header and the lines of cells. -/
structure Table where
  header : List Text
  lines : List (List Text)
deriving DecidableEq

abbrev Row := Dict Text Text

/-- The cell of a row, where a missing one is empty. -/
def cell (column : Text) (row : Row) : Text := (get? column row).getD []

/-- The row with these columns whose cells are given by a function. -/
def rowOf (columns : List Text) (f : Text → Text) : Row :=
  update [] (columns.map fun column => (column, f column))

namespace Table

/-- The columns that have a name. -/
def columns (t : Table) : List Text := t.header.filter (· ≠ [])

/-- The line as a dictionary: the last column of a name decides, and a line that is too
short has empty cells. -/
def value (t : Table) (line : List Text) (column : Text) : Text :=
  cell column (update [] (t.header.mapIdx fun i name => (name, line.getD i [])))

/-- The rows, without blank lines. -/
def records (t : Table) : List Row :=
  (t.lines.filter (· ≠ [])).map fun line => rowOf t.columns (t.value line)

/-- What a writer with these columns makes of rows. -/
def write (columns : List Text) (rows : List Row) : Table where
  header := columns
  lines := rows.map fun row => columns.map fun column => cell column row

end Table

theorem nil_notMem_columns (t : Table) : [] ∉ t.columns := by
  intro h
  simpa using (List.mem_filter.mp h).2

section Rows

variable {columns : List Text} {f g : Text → Text} {column : Text} {row : Row}

theorem get?_update_map (d : Dict Text Text) :
    get? column (update d (columns.map fun column => (column, f column))) =
      if column ∈ columns then some (f column) else get? column d := by
  induction columns generalizing d with
  | nil => rfl
  | cons name columns ih =>
    rw [List.map_cons, update_cons, ih, get?_set]
    by_cases hname : name = column
    · subst hname
      simp
    · simp [hname, Ne.symm hname]

theorem get?_rowOf : get? column (rowOf columns f) =
    if column ∈ columns then some (f column) else none := get?_update_map []

@[simp] theorem cell_rowOf (h : column ∈ columns) : cell column (rowOf columns f) = f column := by
  rw [cell, get?_rowOf, if_pos h, Option.getD_some]

theorem cell_rowOf_of_notMem (h : column ∉ columns) : cell column (rowOf columns f) = [] := by
  rw [cell, get?_rowOf, if_neg h, Option.getD_none]

theorem keys_rowOf_congr (columns : List Text) (f g : Text → Text) :
    (rowOf columns f).map Prod.fst = (rowOf columns g).map Prod.fst := by
  have hupdate : ∀ d e : Row, d.map Prod.fst = e.map Prod.fst →
      (update d (columns.map fun column => (column, f column))).map Prod.fst =
        (update e (columns.map fun column => (column, g column))).map Prod.fst := by
    induction columns with
    | nil => exact fun d e h => h
    | cons column columns ih =>
      intro d e h
      rw [List.map_cons, List.map_cons, update_cons, update_cons]
      apply ih
      rw [keys_set, keys_set, h]
  exact hupdate [] [] rfl

theorem mem_keys_rowOf : column ∈ (rowOf columns f).map Prod.fst ↔ column ∈ columns := by
  rw [rowOf, mem_keys_update, List.map_map]
  simp [Function.comp_def]

theorem rowOf_congr (h : ∀ column ∈ columns, f column = g column) :
    rowOf columns f = rowOf columns g := by
  have hmap : (columns.map fun column => (column, f column)) =
      columns.map fun column => (column, g column) :=
    List.map_congr_left fun column hcolumn => by rw [h column hcolumn]
  rw [rowOf, rowOf, hmap]

@[simp] theorem cell_set_self (v : Text) : cell column (set column v row) = v := by
  rw [cell, get?_set_self, Option.getD_some]

theorem cell_set_ne {name : Text} (h : name ≠ column) (v : Text) :
    cell column (set name v row) = cell column row := by
  rw [cell, get?_set_ne h, cell]

theorem cell_set_congr {name v : Text} {row' : Row}
    (h : name ≠ column → cell column row = cell column row') :
    cell column (set name v row) = cell column (set name v row') := by
  by_cases hname : name = column
  · rw [hname, cell_set_self, cell_set_self]
  · rw [cell_set_ne hname, cell_set_ne hname, h hname]

end Rows

section Updates

variable {α ω : Type}

/-- Of a run of updates at positions, a position sees its own ones. -/
theorem getElem?_foldl_modify (position : ω → Nat) (f : ω → α → α) (writes : List ω) (xs : List α)
    (i : Nat) :
    (writes.foldl (fun xs write => xs.modify (position write) (f write)) xs)[i]? =
      (xs[i]?).map fun x =>
        (writes.filter fun write => position write = i).foldl (fun x write => f write x) x := by
  induction writes generalizing xs with
  | nil => simp
  | cons write writes ih =>
    rw [List.foldl_cons, ih, List.getElem?_modify]
    by_cases h : position write = i
    · simp [h, Option.map_map, Function.comp_def]
    · simp [h]

theorem length_foldl_modify (position : ω → Nat) (f : ω → α → α) (writes : List ω) (xs : List α) :
    (writes.foldl (fun xs write => xs.modify (position write) (f write)) xs).length =
      xs.length := by
  induction writes generalizing xs with
  | nil => rfl
  | cons write writes ih => rw [List.foldl_cons, ih, List.length_modify]

end Updates

section RoundTrip

variable {columns : List Text} {rows : List Row}

theorem columns_write (h : [] ∉ columns) : (Table.write columns rows).columns = columns := by
  apply List.filter_eq_self.mpr
  intro name hname
  simpa using fun hnil : name = [] => h (hnil ▸ hname)

theorem value_write {column : Text} (h : column ∈ columns) (row : Row) :
    (Table.write columns rows).value (columns.map fun column => cell column row) column =
      cell column row := by
  have hcells : (columns.mapIdx fun i name =>
      (name, (columns.map fun column => cell column row).getD i [])) =
        columns.map fun name => (name, cell name row) := by
    apply List.ext_getElem
    · simp
    · intro i hi hi'
      rw [List.length_map] at hi'
      simp [hi']
  rw [Table.value, Table.write, hcells, cell, get?_update_map, if_pos h, Option.getD_some]

/-- Reading what was written gives the rows back, cut down to the columns. -/
theorem records_write (hne : columns ≠ []) (h : [] ∉ columns) :
    (Table.write columns rows).records =
      rows.map fun row => rowOf columns fun column => cell column row := by
  have hlines : (Table.write columns rows).lines.filter (· ≠ []) =
      rows.map fun row => columns.map fun column => cell column row := by
    apply List.filter_eq_self.mpr
    intro line hline
    obtain ⟨row, -, rfl⟩ := List.mem_map.mp hline
    simpa using hne
  rw [Table.records, hlines, List.map_map, columns_write h]
  apply List.map_congr_left
  intro row _
  exact rowOf_congr fun column hcolumn => value_write hcolumn row

end RoundTrip

theorem write_rowOf (header : List Text) (rows : List Row) :
    Table.write header (rows.map fun row => rowOf header fun column => cell column row) =
      Table.write header rows := by
  rw [Table.write, Table.write, List.map_map]
  congr 1
  apply List.map_congr_left
  intro row _
  exact List.map_congr_left fun column hcolumn => cell_rowOf hcolumn

theorem forall_write {columns : List Text} {rows : List Row} {p : Text → Prop} :
    (∀ line ∈ (Table.write columns rows).header :: (Table.write columns rows).lines,
        ∀ field ∈ line, p field) ↔
      (∀ column ∈ columns, p column) ∧ ∀ row ∈ rows, ∀ column ∈ columns, p (cell column row) := by
  simp only [Table.write, List.forall_mem_cons, List.forall_mem_map]

end DataForge.Foundation.Tables
