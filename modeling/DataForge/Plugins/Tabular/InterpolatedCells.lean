import DataForge.Foundation.ExtendedText
import DataForge.Foundation.Failures
import DataForge.Plugins.Tabular.SmoteIds

namespace DataForge.Plugins.Tabular.InterpolatedCells

open DataForge.Foundation.Strings
open DataForge.Foundation.Outcome
open DataForge.Foundation.Failures
open DataForge.Foundation.Dictionary
open DataForge.Foundation.Numbers
open DataForge.Foundation.Features
open DataForge.Foundation.Scores
open DataForge.Foundation.Tables
open DataForge.Foundation.ExtendedNumbers
open DataForge.Foundation.ExtendedText
open DataForge.Domain.Common
open DataForge.Domain.Splits
open DataForge.Plugins.Tabular.Sources
open DataForge.Plugins.Tabular.Splits (scoreLt)
open DataForge.Plugins.Tabular.LeakageChecks hiding verifyAssignmentsMatchRows buildReport
open DataForge.Plugins.Tabular.SyntheticCommon
open DataForge.Plugins.Tabular.SyntheticSmote
open DataForge.Plugins.Tabular.SmoteIds

/-- The error that a step raises on purpose. -/
def Own (e : Raised) : Prop :=
  ∃ reasonCode code message, e = .reasoned "SmoteExecutionError" reasonCode code none message

section Cells

theorem parseNumeric_cases {value : Text} {x : Extended ℚ} (h : parseNumeric value = some x) :
    (∃ a : ℚ, x = .finite a ∧ |a| ≤ largest) ∨ Extended.isInf x = true := by
  rw [parseNumeric] at h
  split at h
  · cases h
  · obtain ⟨hparse, hself⟩ := Option.filter_eq_some_iff.mp h
    cases x with
    | finite a => exact .inl ⟨a, rfl, abs_le_of_ofText hparse⟩
    | infinite negative => exact .inr rfl
    | nan => cases hself

theorem formatNumeric_finite {q : ℚ} (h : |q| ≤ largest) : ∃ text z,
    formatNumeric (.finite q : Extended ℚ) = .ok text ∧
      MetricLike.parse text = some (Extended.finite z) ∧ |z - q| ≤ 1 / 2 / 10 ^ 6 := by
  have htruncate : FeatureLike.truncate (.finite q : Extended ℚ) = some (q.num.tdiv q.den) := rfl
  rw [formatNumeric, htruncate]
  dsimp only
  split
  · next hwhole =>
    have hq : q = (q.num.tdiv q.den : ℤ) := of_decide_eq_true hwhole
    generalize q.num.tdiv q.den = n at hq
    subst hq
    refine ⟨decimalText n, n, rfl, ofText_decimalText h, ?_⟩
    rw [sub_self, abs_zero]
    norm_num
  · obtain ⟨z, hz, hdistance⟩ := exists_ofText_fixedRat h
    have hfixed : FeatureLike.fixed 6 (.finite q : Extended ℚ) = fixedRat 6 q := rfl
    rw [hfixed]
    refine ⟨_, z, congrArg Except.ok (if_neg ?_), hz, hdistance⟩
    intro hnil
    rw [hnil] at hz
    cases hz

theorem formatNumeric_not_finite {x : Extended ℚ} (h : Extended.toFinite x = none) :
    ∃ error message, formatNumeric x = .error (.plain error message) := by
  cases x with
  | finite q => cases h
  | infinite negative => exact ⟨_, _, rfl⟩
  | nan => exact ⟨_, _, rfl⟩

end Cells

section Rows

/-- The rows that a sample is drawn from, and how far it lies from the first. -/
structure Draw where
  seedRow : IdentifiedRow
  neighborRow : IdentifiedRow
  lambda : Extended ℚ

namespace Draw

variable (d : Draw) (column : Text)

/-- The two cells of a column, if both are numbers. -/
def numbers : Option (Extended ℚ × Extended ℚ) :=
  match parseNumeric (cell column d.seedRow.1), parseNumeric (cell column d.neighborRow.1) with
  | some x, some y => some (x, y)
  | _, _ => none

/-- No infinity is interpolated. -/
def Bounded : Prop :=
  ∀ x y, d.numbers column = some (x, y) → Extended.isInf x = false ∧ Extended.isInf y = false

/-- A draw from the unit interval. -/
def Proper : Prop := ∃ q : ℚ, d.lambda = .finite q ∧ 0 ≤ q ∧ q < 1

def mixture (x y : Extended ℚ) : Extended ℚ :=
  FloatLike.add x (FloatLike.mul d.lambda (FloatLike.sub y x))

/-- What is written into a column. -/
def text : Option Text :=
  (d.numbers column).bind fun pair => (formatNumeric (d.mixture pair.1 pair.2)).toOption

def fill (row : Row) (column : Text) : Row :=
  match d.text column with
  | some text => set column text row
  | none => row

end Draw

/-- A number between those of two cells, up to half a millionth. -/
def Between (x y : Extended ℚ) (text : Text) : Prop :=
  ∃ a b z : ℚ, x = .finite a ∧ y = .finite b ∧ MetricLike.parse text = some (Extended.finite z) ∧
    Min.min a b - 1 / 2 / 10 ^ 6 ≤ z ∧ z ≤ Max.max a b + 1 / 2 / 10 ^ 6

/-- What a sample shows where it is interpolated. -/
def Shows (featureColumns : List Text) (d : Draw) (row : Row) : Prop :=
  ∀ column ∈ featureColumns, ∀ x y, d.numbers column = some (x, y) → Between x y (cell column row)

variable {d : Draw} {column : Text} {x y : Extended ℚ}

theorem mixture_between {a b q : ℚ} (h : 0 ≤ q) (hq : q < 1) :
    Min.min a b ≤ a + q * (b - a) ∧ a + q * (b - a) ≤ Max.max a b := by
  rcases le_total a b with hab | hba
  · rw [min_eq_left hab, max_eq_right hab]
    constructor
    · nlinarith
    · nlinarith
  · rw [min_eq_right hba, max_eq_left hba]
    constructor
    · nlinarith
    · nlinarith

theorem numbers_eq_some : d.numbers column = some (x, y) ↔
    parseNumeric (cell column d.seedRow.1) = some x ∧ parseNumeric (cell column d.neighborRow.1) =
      some y := by
  rw [Draw.numbers]
  split
  · next hx hy =>
      rw [hx, hy, Option.some.injEq, Option.some.injEq, Option.some.injEq, Prod.mk.injEq]
  · next hnone =>
    refine iff_of_false nofun ?_
    rintro ⟨hx, hy⟩
    exact hnone x y hx hy

theorem format_bounded (hd : d.Proper) (h : d.numbers column = some (x, y))
    (hx : Extended.isInf x = false) (hy : Extended.isInf y = false) :
    ∃ text, formatNumeric (d.mixture x y) = .ok text ∧ Between x y text := by
  obtain ⟨q, hq, hnonneg, hlt⟩ := hd
  obtain ⟨hseed, hneighbor⟩ := numbers_eq_some.mp h
  obtain ⟨a, rfl, ha⟩ := (parseNumeric_cases hseed).resolve_right (by simp [hx])
  obtain ⟨b, rfl, hb⟩ := (parseNumeric_cases hneighbor).resolve_right (by simp [hy])
  have hmixture : d.mixture (.finite a) (.finite b) = .finite (a + q * (b - a)) := by
    rw [Draw.mixture, hq]
    rfl
  obtain ⟨hlow, hhigh⟩ := @mixture_between a b q hnonneg hlt
  rw [abs_le] at ha hb
  obtain ⟨text, z, htext, hz, hdistance⟩ := formatNumeric_finite (abs_le.mpr
    ⟨(le_min ha.1 hb.1).trans hlow, hhigh.trans (max_le ha.2 hb.2)⟩)
  rw [abs_le] at hdistance
  refine ⟨text, hmixture ▸ htext, a, b, z, rfl, rfl, hz, ?_, ?_⟩
  · linarith only [hdistance.1, hlow]
  · linarith only [hdistance.2, hhigh]

theorem toFinite_mixture (hd : d.Proper) (h : Extended.isInf x = true ∨ Extended.isInf y = true) :
    Extended.toFinite (d.mixture x y) = none := by
  obtain ⟨q, hq, -⟩ := hd
  have hinfinite : ∀ (negative : Bool) (z : Extended ℚ),
      Extended.toFinite (FloatLike.add (.infinite negative) z) = none := by
    intro negative z
    cases z with
    | finite z => rfl
    | infinite other => cases negative <;> cases other <;> rfl
    | nan => rfl
  rw [Draw.mixture, hq]
  cases x with
  | infinite negative => exact hinfinite negative _
  | nan => rfl
  | finite a =>
    cases y with
    | finite b => simp [Extended.isInf] at h
    | nan => rfl
    | infinite negative =>
      have hscaled : FloatLike.mul (.finite q) (FloatLike.sub (.infinite negative) (.finite a)) =
          Extended.scaled negative q := rfl
      rw [hscaled, Extended.scaled]
      split
      · rfl
      · split <;> rfl

theorem format_unbounded (hd : d.Proper) (h : Extended.isInf x = true ∨ Extended.isInf y = true) :
    ∃ error message, formatNumeric (d.mixture x y) = .error (.plain error message) :=
  formatNumeric_not_finite (toFinite_mixture hd h)

theorem interpolate_eq (d : Draw) (row : Row) (column : Text) :
    interpolate d.seedRow d.neighborRow d.lambda row column =
      match d.numbers column with
      | some (x, y) => (formatNumeric (d.mixture x y)).map fun text => set column text row
      | none => .ok row := by
  rw [interpolate, Draw.numbers]
  cases (parseNumeric (cell column d.seedRow.1) : Option (Extended ℚ)) with
  | none => rfl
  | some x =>
    cases (parseNumeric (cell column d.neighborRow.1) : Option (Extended ℚ)) with
    | none => rfl
    | some y =>
      change (formatNumeric (d.mixture x y) >>= fun text => pure (set column text row)) =
        (formatNumeric (d.mixture x y)).map fun text => set column text row
      cases formatNumeric (d.mixture x y) with
      | error e => rfl
      | ok text => rfl

theorem interpolate_eq_ok_iff (hd : d.Proper) {row row' : Row} :
    interpolate d.seedRow d.neighborRow d.lambda row column = .ok row' ↔
      d.Bounded column ∧ row' = d.fill row column := by
  rw [interpolate_eq, Draw.fill, Draw.text]
  cases hnumbers : d.numbers column with
  | none =>
    have hbounded : d.Bounded column := fun x y h => by simp [hnumbers] at h
    rw [and_iff_right hbounded]
    exact ⟨fun h => (Except.ok.inj h).symm, fun h => congrArg Except.ok h.symm⟩
  | some pair =>
    obtain ⟨x, y⟩ := pair
    by_cases hfinite : Extended.isInf x = false ∧ Extended.isInf y = false
    · have hbounded : d.Bounded column := fun x' y' h => by
        obtain ⟨rfl, rfl⟩ := Prod.mk.inj (Option.some.inj (hnumbers.symm.trans h))
        exact hfinite
      obtain ⟨text, htext, -⟩ := format_bounded hd hnumbers hfinite.1 hfinite.2
      rw [and_iff_right hbounded, Option.bind_some]
      dsimp only
      rw [htext]
      exact ⟨fun h => (Except.ok.inj h).symm, fun h => congrArg Except.ok h.symm⟩
    · have hinfinite : Extended.isInf x = true ∨ Extended.isInf y = true := by
        rwa [not_and_or, Bool.not_eq_false, Bool.not_eq_false] at hfinite
      obtain ⟨error, message, herror⟩ := format_unbounded hd hinfinite
      dsimp only
      rw [herror]
      exact iff_of_false nofun fun h => hfinite (h.1 x y hnumbers)

/-- What interpolation raises is never the error of the step. -/
theorem interpolate_raises (hd : d.Proper) (row : Row) (column : Text) :
    RaisesOnly (fun e => ¬ Own e) (interpolate d.seedRow d.neighborRow d.lambda row column) := by
  rw [interpolate_eq]
  split
  · next x y hnumbers =>
    apply RaisesOnly.map
    by_cases hfinite : Extended.isInf x = false ∧ Extended.isInf y = false
    · obtain ⟨text, htext, -⟩ := format_bounded hd hnumbers hfinite.1 hfinite.2
      rw [htext]
      exact RaisesOnly.ok text
    · rw [not_and_or, Bool.not_eq_false, Bool.not_eq_false] at hfinite
      obtain ⟨error, message, herror⟩ := format_unbounded hd hfinite
      rw [herror]
      apply RaisesOnly.error
      rintro ⟨_, _, _, ⟨⟩⟩
  · exact RaisesOnly.ok row

theorem cell_foldl_fill {featureColumns : List Text} (hcolumn : column ∈ featureColumns)
    {text : Text} (htext : d.text column = some text) (row : Row) :
    cell column (featureColumns.foldl d.fill row) = text := by
  induction featureColumns using List.reverseRecOn with
  | nil => cases hcolumn
  | append_singleton names name ih =>
    rw [List.foldl_append, List.foldl_cons, List.foldl_nil]
    by_cases hname : name = column
    · rw [hname, Draw.fill, htext]
      exact cell_set_self _
    · have hmem : column ∈ names := by
        obtain hmem | hmem := List.mem_append.mp hcolumn
        · exact hmem
        · exact absurd (List.mem_singleton.mp hmem).symm hname
      rw [Draw.fill]
      split
      · rw [cell_set_ne hname, ih hmem]
      · exact ih hmem

end Rows

section Build

variable {d : Draw} {featureColumns : List Text} {targetColumn rareClassLabel : NonEmptyStr}
  {id : Text}
  {row : Row}

theorem buildSyntheticRow_eq_ok_iff (hd : d.Proper) :
    buildSyntheticRow d.seedRow d.neighborRow featureColumns d.lambda targetColumn rareClassLabel
      id = .ok row ↔
      (∀ column ∈ featureColumns, d.Bounded column) ∧
        row = set sourceSplitColumn DataSplit.train.value (set isSyntheticColumn "1".toList
          (featureColumns.foldl d.fill
            (set targetColumn.1 rareClassLabel.1 (set objectIdColumn id d.seedRow.1)))) := by
  rw [buildSyntheticRow, bind_eq_ok]
  simp only [foldlM_eq_ok_iff fun row column row' => @interpolate_eq_ok_iff d column hd row
    row', pure_eq, Except.ok.injEq]
  constructor
  · rintro ⟨filled, ⟨hbounded, rfl⟩, rfl⟩
    exact ⟨hbounded, rfl⟩
  · rintro ⟨hbounded, rfl⟩
    exact ⟨_, ⟨hbounded, rfl⟩, rfl⟩

theorem buildSyntheticRow_raises (hd : d.Proper) :
    RaisesOnly (fun e => ¬ Own e) (buildSyntheticRow d.seedRow d.neighborRow featureColumns d.lambda
      targetColumn rareClassLabel id) := by
  rw [buildSyntheticRow]
  refine RaisesOnly.bind
    (RaisesOnly.foldlM (fun row column _ => interpolate_raises hd row column) _) ?_
  exact fun filled _ => RaisesOnly.ok _

theorem shows_buildSyntheticRow (hd : d.Proper)
    (hmarks : isSyntheticColumn ∉ featureColumns ∧ sourceSplitColumn ∉ featureColumns)
    (h : buildSyntheticRow d.seedRow d.neighborRow featureColumns d.lambda targetColumn
      rareClassLabel id =
      .ok row) : Shows featureColumns d row := by
  obtain ⟨hbounded, rfl⟩ := (buildSyntheticRow_eq_ok_iff hd).mp h
  intro column hcolumn x y hnumbers
  obtain ⟨hx, hy⟩ := hbounded column hcolumn x y hnumbers
  obtain ⟨text, htext, hbetween⟩ := format_bounded hd hnumbers hx hy
  have hwritten : d.text column = some text := by
    rw [Draw.text, hnumbers, Option.bind_some, htext]
    rfl
  have hflag : isSyntheticColumn ≠ column := fun heq => hmarks.1 (heq ▸ hcolumn)
  have hsource : sourceSplitColumn ≠ column := fun heq => hmarks.2 (heq ▸ hcolumn)
  rw [cell_set_ne hsource, cell_set_ne hflag, cell_foldl_fill hcolumn hwritten]
  exact hbetween

end Build

end DataForge.Plugins.Tabular.InterpolatedCells
