import DataForge.Foundation.Canonical
import DataForge.Foundation.Grouping
import DataForge.Foundation.Rounding
import DataForge.Foundation.Tables
import DataForge.Kernel.DatasetScore

namespace DataForge.Plugins.Tabular.DuplicateSeverity

open DataForge.Foundation.Strings
open DataForge.Foundation.Canonical
open DataForge.Foundation.Dictionary
open DataForge.Foundation.Grouping
open DataForge.Foundation.Numbers
open DataForge.Foundation.Rounding
open DataForge.Foundation.Scores
open DataForge.Foundation.Tables
open DataForge.Domain.Common
open DataForge.Domain.Artifact
open DataForge.Domain.Profile
open DataForge.Domain.Report
open DataForge.Kernel.DatasetScore

section Diagnostics

structure DuplicateDiagnostics where
  duplicatePairCount : Nat
  duplicateGroupCount : Nat
  affectedObjectIds : List NonEmptyStr
  signatureColumns : List NonEmptyStr
  idColumn : Option NonEmptyStr

def duplicateAffectedIdLimit : Nat := 100

def selectIdColumn (columns : List NonEmptyStr) (requested : Text) : Option NonEmptyStr :=
  columns.find? fun column => column.1 = requested

def signatureColumns (columns : List NonEmptyStr) (idColumn : Option NonEmptyStr) :
    List NonEmptyStr :=
  (columns.filter fun column => some column ≠ idColumn).insertionSort (· ≤ ·)

def rowSignature (columns : List NonEmptyStr) (row : Row) : List Text :=
  columns.map fun column => cell column.1 row

def rowObjectId (idColumn : Option NonEmptyStr) (row : Row) : Text :=
  (idColumn.map fun column => cell column.1 row).getD []

/-- The ids of the rows by signature; without signature columns there is none. -/
def signatureToObjectIds (rows : List Row) (columns : List NonEmptyStr)
    (idColumn : Option NonEmptyStr) : Dict (List Text) (List Text) :=
  if columns = [] then []
  else groupItems (rows.map fun row => (rowSignature columns row, rowObjectId idColumn row))

def buildDuplicateDiagnostics (groups : Dict (List Text) (List Text))
    (signatureColumns : List NonEmptyStr) (idColumn : Option NonEmptyStr) : DuplicateDiagnostics :=
  let duplicates := groups.filter fun group => 2 ≤ group.2.length
  { duplicatePairCount := (duplicates.map fun group => group.2.length - 1).sum
    duplicateGroupCount := duplicates.length
    affectedObjectIds :=
      (sortedSet (duplicates.flatMap fun group => group.2.filterMap nonEmpty)).take
        duplicateAffectedIdLimit
    signatureColumns := signatureColumns
    idColumn := idColumn }

/-- The duplicate diagnostics of `infer_tabular_profile`. -/
def profileDuplicates (rows : List Row) (columns : List NonEmptyStr) (requestedId : Text) :
    DuplicateDiagnostics :=
  let idColumn := selectIdColumn columns requestedId
  buildDuplicateDiagnostics (signatureToObjectIds rows (signatureColumns columns idColumn) idColumn)
    (signatureColumns columns idColumn) idColumn

end Diagnostics

section Counts

variable {rows : List Row} {columns : List NonEmptyStr} {idColumn : NonEmptyStr}

/-- A row that shares its signature with another one. -/
def IsDuplicate (rows : List Row) (columns : List NonEmptyStr) (row : Row) : Prop :=
  columns ≠ [] ∧ 2 ≤ rows.countP fun other => rowSignature columns other = rowSignature columns row

instance (row : Row) : Decidable (IsDuplicate rows columns row) :=
  inferInstanceAs (Decidable (_ ∧ _))

/-- The number of rows in the duplicate groups. -/
def duplicateRowCount (rows : List Row) (columns : List NonEmptyStr) : Nat :=
  rows.countP fun row => IsDuplicate rows columns row

/-- Rows with ids of their own. -/
structure DistinctIds (rows : List Row) (idColumn : NonEmptyStr) : Prop where
  nodup : (rows.map (cell idColumn.1)).Nodup
  nonempty : ∀ row ∈ rows, cell idColumn.1 row ≠ []

theorem mem_filterMap_nonEmpty {id : NonEmptyStr} {texts : List Text} :
    id ∈ texts.filterMap nonEmpty ↔ id.1 ∈ texts := by
  rw [List.mem_filterMap]
  constructor
  · rintro ⟨text, htext, hid⟩
    rw [nonEmpty] at hid
    split at hid
    · obtain rfl := Option.some.inj hid
      exact htext
    · cases hid
  · intro hid
    exact ⟨id.1, hid, by rw [nonEmpty, dif_pos id.2]⟩

theorem mem_affected {id : NonEmptyStr} :
    id ∈ ((signatureToObjectIds rows columns (some idColumn)).filter
    fun group => 2 ≤ group.2.length).flatMap (fun group => group.2.filterMap nonEmpty) ↔
      ∃ row ∈ rows, IsDuplicate rows columns row ∧ cell idColumn.1 row = id.1 := by
  have hitems : ∀ key : List Text, ((rows.map fun row => (rowSignature columns row,
      rowObjectId (some idColumn) row)).filter fun item => item.1 = key).map Prod.snd =
        (rows.filter fun row => rowSignature columns row = key).map (cell idColumn.1) := by
    intro key
    rw [List.filter_map, List.map_map]
    rfl
  simp only [List.mem_flatMap, List.mem_filter, decide_eq_true_eq, mem_filterMap_nonEmpty]
  rw [signatureToObjectIds]
  constructor
  · rintro ⟨⟨key, ids⟩, ⟨hgroup, htwo⟩, hid⟩
    split at hgroup
    · cases hgroup
    · next hcolumns =>
      obtain ⟨-, rfl⟩ := mem_groupItems_iff.mp hgroup
      rw [hitems] at htwo hid
      obtain ⟨row, hrow, hcell⟩ := List.mem_map.mp hid
      obtain ⟨hmem, hkey⟩ := List.mem_filter.mp hrow
      obtain rfl := of_decide_eq_true hkey
      rw [List.length_map, ← List.countP_eq_length_filter] at htwo
      exact ⟨row, hmem, ⟨hcolumns, htwo⟩, hcell⟩
  · rintro ⟨row, hrow, ⟨hcolumns, htwo⟩, hcell⟩
    have hkey : rowSignature columns row ∈ (rows.map fun row => (rowSignature columns row,
        rowObjectId (some idColumn) row)).map Prod.fst :=
      List.mem_map_of_mem (f := Prod.fst) (List.mem_map_of_mem hrow)
    refine ⟨(rowSignature columns row, (rows.filter fun other =>
      rowSignature columns other = rowSignature columns row).map (cell idColumn.1)), ⟨?_, ?_⟩, ?_⟩
    · rw [if_neg hcolumns]
      exact mem_groupItems_iff.mpr ⟨hkey, (hitems _).symm⟩
    · rwa [List.length_map, ← List.countP_eq_length_filter]
    · exact List.mem_map.mpr ⟨row, List.mem_filter.mpr ⟨hrow, decide_eq_true rfl⟩, hcell⟩

/-- The listed ids are the duplicate rows, or a hundred of them. -/
theorem length_affected (hids : DistinctIds rows idColumn) :
    (buildDuplicateDiagnostics (signatureToObjectIds rows columns (some idColumn)) columns
      (some idColumn)).affectedObjectIds.length = min (duplicateRowCount rows columns) 100 := by
  show ((sortedSet _).take duplicateAffectedIdLimit).length = _
  have hperm : ((sortedSet (((signatureToObjectIds rows columns (some idColumn)).filter
      fun group => 2 ≤ group.2.length).flatMap fun group => group.2.filterMap nonEmpty)).map
        Subtype.val).Perm
        ((rows.filter fun row => IsDuplicate rows columns row).map (cell idColumn.1)) := by
    rw [List.perm_ext_iff_of_nodup]
    · intro text
      simp only [List.mem_map, mem_sortedSet, mem_affected, List.mem_filter, decide_eq_true_eq]
      constructor
      · rintro ⟨id, ⟨row, hrow, hduplicate, hcell⟩, rfl⟩
        exact ⟨row, ⟨hrow, hduplicate⟩, hcell⟩
      · rintro ⟨row, ⟨hrow, hduplicate⟩, rfl⟩
        exact ⟨⟨_, hids.nonempty row hrow⟩, ⟨row, hrow, hduplicate, rfl⟩, rfl⟩
    · exact (nodup_sortedSet _).map Subtype.val_injective
    · exact hids.nodup.sublist (List.filter_sublist.map _)
  have hlength := hperm.length_eq
  rw [List.length_map, List.length_map, ← List.countP_eq_length_filter] at hlength
  rw [List.length_take, hlength, Nat.min_comm]
  rfl

end Counts

section Score

variable {rows : List Row} {columns : List NonEmptyStr} {requestedId : Text} {p : Platform}
  {request : BuildDataForgeScoreRequest ℚ}

/-- A score request with the profile of these rows and no text report. -/
structure Profiled (rows : List Row) (columns : List NonEmptyStr) (requestedId : Text)
    (request : BuildDataForgeScoreRequest ℚ) : Prop where
  profile : ∃ report, request.tabularProfile = some report ∧ report.rowCount = rows.length ∧
    report.duplicateObjectIds = some (profileDuplicates rows columns requestedId).affectedObjectIds
  text : request.textOcrReport = none

/-- A rational in the range of a score is left as it is by the clamp. -/
theorem clamp_eq_self {x : ℚ} (h : InRange 1 x) : clamp 1 x = x := by
  obtain ⟨hzero, hone⟩ := inRange_rat.mp h
  rw [Int.cast_one] at hone
  have hmax : FloatLike.max (FloatLike.ofInt 0) x = x := by
    show (if decide (((0 : ℤ) : ℚ) < x) = true then x else ((0 : ℤ) : ℚ)) = x
    rw [Int.cast_zero]
    split
    · rfl
    · next hnot => exact le_antisymm hzero (by simpa using hnot)
  rw [clamp, hmax]
  show (if decide (x < ((1 : ℤ) : ℚ)) = true then x else ((1 : ℤ) : ℚ)) = x
  rw [Int.cast_one]
  split
  · rfl
  · next hnot => exact le_antisymm (by simpa using hnot) hone

theorem abs_rounded_sub_le {x : ℚ} (h : InRange 1 x) :
    |(Score.rounded x).1 - x| ≤ 1 / 2 / 10 ^ 6 := by
  have hrounded : (Score.rounded x).1 = roundToRat 6 x := clamp_eq_self (inRange_roundToRat 6 h)
  have hscaled := abs_roundHalfEven_sub_le (x * 10 ^ 6)
  have hsub : roundToRat 6 x - x = (roundHalfEven (x * 10 ^ 6) - x * 10 ^ 6) / 10 ^ 6 := by
    rw [roundToRat, decimalRat, sub_div, mul_div_cancel_right₀ _ (by norm_num)]
  rw [hrounded, hsub, abs_div, abs_of_pos (by norm_num : (0 : ℚ) < 10 ^ 6)]
  exact div_le_div_of_nonneg_right hscaled (by norm_num)

/-- What the score makes of a share of duplicate rows. -/
structure Reflects (score : DataForgeScore ℚ) (share : ℚ) : Prop where
  penalty : (∃ penalty ∈ score.penalties, penalty.reasonCode = "severe_duplicates".toList) ↔
    1 / 20 ≤ share
  uniqueness : score.components.uniqueness = Score.rounded (1 - share)

theorem penalty_iff : (∃ penalty ∈ (buildDataForgeScore p request).penalties,
    penalty.reasonCode = "severe_duplicates".toList) ↔ severeDuplicates request = true := by
  have hentries : ∀ entries : List (String × Int × Bool),
      (∃ penalty ∈ entries.filterMap (fun entry => if entry.2.2 then
          some (DataForgeScorePenalty.mk entry.1.toList (FloatLike.ofInt entry.2.1 : ℚ)
            true) else none),
        penalty.reasonCode = "severe_duplicates".toList) ↔
      ∃ entry ∈ entries, entry.2.2 = true ∧ entry.1.toList = "severe_duplicates".toList := by
    intro entries
    simp only [List.mem_filterMap]
    constructor
    · rintro ⟨penalty, ⟨⟨reasonCode, value, triggered⟩, hentry, hpenalty⟩, hcode⟩
      cases triggered with
      | false => cases hpenalty
      | true =>
        obtain rfl := Option.some.inj hpenalty
        exact ⟨_, hentry, rfl, hcode⟩
    · rintro ⟨⟨reasonCode, value, triggered⟩, hentry, htriggered, hcode⟩
      obtain rfl : triggered = true := htriggered
      exact ⟨_, ⟨_, hentry, rfl⟩, hcode⟩
  refine (hentries _).trans ?_
  have hunmasked : "unmasked_pii".toList ≠ "severe_duplicates".toList := by decide
  have hsplit : "split_leakage".toList ≠ "severe_duplicates".toList := by decide
  have htarget : "target_leakage_candidate".toList ≠ "severe_duplicates".toList := by decide
  have himbalance : "severe_class_imbalance".toList ≠ "severe_duplicates".toList := by decide
  simp only [List.mem_cons, List.not_mem_nil, or_false, exists_eq_or_imp, exists_eq_left,
    hunmasked, hsplit, htarget, himbalance, and_false, false_or, and_true]

/-- The score goes by the number of ids that the profile lists. -/
theorem reflects_listed (h : Profiled rows columns requestedId request) :
    Reflects (buildDataForgeScore p request)
      ((profileDuplicates rows columns requestedId).affectedObjectIds.length / rows.length) := by
  obtain ⟨report, hprofile, hrows, hids⟩ := h.profile
  generalize (profileDuplicates rows columns requestedId).affectedObjectIds = ids at hids ⊢
  have hratios : duplicateRatios request.tabularProfile request.textOcrReport =
      if 0 < rows.length then [(ids.length : ℚ) / rows.length] else [] := by
    rw [hprofile, h.text]
    simp only [duplicateRatios, hids, hrows, Option.map_some, Option.getD_some, List.append_nil]
    rfl
  refine ⟨penalty_iff.trans ?_, ?_⟩
  · rw [severeDuplicates, hratios]
    split
    · rw [List.any_cons, List.any_nil, Bool.or_false]
      show decide (((5 : ℕ) : ℚ) / 10 ^ 2 ≤ _) = true ↔ _
      rw [decide_eq_true_eq]
      norm_num
    · next hempty =>
      obtain hzero : rows.length = 0 := by omega
      rw [hzero]
      norm_num
  · show uniqueness request.tabularProfile request.textOcrReport = _
    rw [uniqueness, hratios]
    by_cases hpos : 0 < rows.length
    · simp only [if_pos hpos, List.foldl_nil]
      show Score.rounded (((1 : ℤ) : ℚ) - _) = _
      rw [Int.cast_one]
    · have hzero : rows.length = 0 := by omega
      simp only [if_neg hpos]
      show Score.rounded (((1 : ℤ) : ℚ) - ((0 : ℤ) : ℚ)) = _
      rw [hzero, Int.cast_one, Int.cast_zero, Nat.cast_zero, div_zero]

variable {idColumn : NonEmptyStr}

/-- The rows in duplicate groups and all rows, with the signature of the profile. -/
def duplicateCount (rows : List Row) (columns : List NonEmptyStr) (idColumn : NonEmptyStr) : Nat :=
  duplicateRowCount rows (signatureColumns columns (some idColumn))

theorem duplicateCount_le :
    duplicateCount rows columns idColumn ≤ rows.length := List.countP_le_length

theorem inRange_one_sub_div {k n : Nat} (h : k ≤ n) : InRange 1 (1 - (k : ℚ) / n) := by
  have hle : (k : ℚ) / n ≤ 1 := div_le_one_of_le₀ (by exact_mod_cast h) (Nat.cast_nonneg n)
  have hpos : (0 : ℚ) ≤ (k : ℚ) / n := by positivity
  rw [inRange_rat, Int.cast_one]
  constructor <;> linarith

/-- Two counts whose shares round alike are both small beside the whole, where they differ. -/
theorem small_of_rounded_eq {k d n : Nat} (hlt : k < d) (hle : d ≤ n)
    (h : Score.rounded (1 - (k : ℚ) / n) = Score.rounded (1 - (d : ℚ) / n)) :
    10 ^ 6 ≤ n ∧ (d : ℚ) / n ≤ k / n + 1 / 10 ^ 6 := by
  have hk := abs_sub_le_iff.mp (abs_rounded_sub_le (inRange_one_sub_div (hlt.le.trans hle)))
  have hd := abs_sub_le_iff.mp (abs_rounded_sub_le (inRange_one_sub_div hle))
  rw [h] at hk
  have hn : (0 : ℚ) < n := by exact_mod_cast (Nat.zero_le k).trans_lt (hlt.trans_le hle)
  have hstep : ((k : ℚ) + 1) / n ≤ (d : ℚ) / n :=
    div_le_div_of_nonneg_right (by exact_mod_cast hlt) hn.le
  rw [add_div] at hstep
  have hclose : (d : ℚ) / n ≤ k / n + 1 / 10 ^ 6 := by linarith only [hk.2, hd.1]
  have hone : 1 / (n : ℚ) ≤ 1 / 10 ^ 6 := by linarith only [hclose, hstep]
  have hcast : ((10 ^ 6 : ℕ) : ℚ) ≤ n := by
    push_cast
    exact (one_div_le_one_div hn (by norm_num)).mp hone
  exact ⟨by exact_mod_cast hcast, hclose⟩

/-- The score reflects the duplicates exactly where the profile lists all of them, or where
the share of a hundred rows rounds as theirs does. -/
theorem severity_reflects_iff (hprofile : Profiled rows columns requestedId request)
    (hid : selectIdColumn columns requestedId = some idColumn) (hids : DistinctIds rows idColumn) :
    Reflects (buildDataForgeScore p request) (duplicateCount rows columns idColumn / rows.length) ↔
      duplicateCount rows columns idColumn ≤ 100 ∨
        Score.rounded (1 - (100 : ℚ) / rows.length) =
          Score.rounded (1 - (duplicateCount rows columns idColumn : ℚ) / rows.length) := by
  have hlisted := reflects_listed (p := p) hprofile
  have hlength : (profileDuplicates rows columns requestedId).affectedObjectIds.length =
      min (duplicateCount rows columns idColumn) 100 := by
    rw [profileDuplicates, hid]
    exact length_affected hids
  rw [hlength] at hlisted
  have hle : duplicateCount rows columns idColumn ≤ rows.length := duplicateCount_le
  generalize duplicateCount rows columns idColumn = d at hlisted hle ⊢
  by_cases hfew : d ≤ 100
  · rw [min_eq_left hfew] at hlisted
    exact iff_of_true hlisted (.inl hfew)
  · have hmany : 100 < d := not_le.mp hfew
    rw [min_eq_right hmany.le, Nat.cast_ofNat] at hlisted
    constructor
    · intro h
      exact .inr (hlisted.uniqueness.symm.trans h.uniqueness)
    · intro h
      have hrounded := h.resolve_left hfew
      refine ⟨?_, hlisted.uniqueness.trans hrounded⟩
      obtain ⟨hlarge, hclose⟩ := small_of_rounded_eq hmany hle (by rwa [Nat.cast_ofNat])
      have hsmall : (100 : ℚ) / rows.length ≤ 100 / 10 ^ 6 :=
        div_le_div_of_nonneg_left (by norm_num) (by norm_num) (by exact_mod_cast hlarge)
      rw [Nat.cast_ofNat] at hclose
      rw [hlisted.penalty]
      norm_num at hsmall hclose
      exact iff_of_false (by linarith only [hsmall]) (by linarith only [hsmall, hclose])

end Score

section Example

def objectIdColumn : NonEmptyStr := literal "object_id"

def amountColumn : NonEmptyStr := literal "amount"

/-- A row of one amount under the id `a ⋯ a` of so many letters and one more. -/
def repeatedRow (i : Nat) : Row :=
  [(objectIdColumn.1, List.replicate (i + 1) 'a'), (amountColumn.1, "1".toList)]

def repeatedRows (n : Nat) : List Row := (List.range n).map repeatedRow

theorem distinctIds_repeatedRows (n : Nat) : DistinctIds (repeatedRows n) objectIdColumn where
  nodup := by
    rw [repeatedRows, List.map_map]
    refine List.nodup_range.map fun i j hij => ?_
    have hlength :=
      congrArg List.length (show List.replicate (i + 1) 'a' = List.replicate (j + 1) 'a' from hij)
    simpa using hlength
  nonempty := by
    intro row hrow
    obtain ⟨i, -, rfl⟩ := List.mem_map.mp hrow
    exact List.cons_ne_nil _ _

theorem selectIdColumn_repeated :
    selectIdColumn [objectIdColumn, amountColumn] objectIdColumn.1 =
      some objectIdColumn := by decide

/-- All rows are duplicates of each other. -/
theorem duplicateCount_repeatedRows {n : Nat} (h : 2 ≤ n) :
    duplicateCount (repeatedRows n) [objectIdColumn, amountColumn] objectIdColumn = n := by
  have hcolumns : signatureColumns [objectIdColumn, amountColumn] (some objectIdColumn) =
      [amountColumn] := by
    decide
  have hsignature : ∀ row ∈ repeatedRows n, rowSignature [amountColumn] row = ["1".toList] := by
    intro row hrow
    obtain ⟨i, -, rfl⟩ := List.mem_map.mp hrow
    rfl
  have hlength : (repeatedRows n).length =
      n := by rw [repeatedRows, List.length_map, List.length_range]
  rw [duplicateCount, hcolumns, duplicateRowCount, List.countP_eq_length.mpr, hlength]
  intro row hrow
  rw [decide_eq_true_eq]
  refine ⟨List.cons_ne_nil _ _, ?_⟩
  rw [List.countP_eq_length.mpr, hlength]
  · exact h
  · intro other hother
    rw [hsignature row hrow, hsignature other hother, decide_eq_true_eq]

def repeatedProfile (n : Nat) : TabularProfileReport ℚ where
  rowCount := (repeatedRows n).length
  columnCount := 2
  nullCounts := [0, 0]
  missingness := none
  duplicateObjectIds :=
    some (profileDuplicates (repeatedRows n) [objectIdColumn, amountColumn]
      objectIdColumn.1).affectedObjectIds
  classImbalance := none
  leakageCandidates := none
  businessRulePassRates := none
  lineage :=
    ⟨literal "dataset", literal "v1", literal "v0", literal "job", zeroDigest, literal "raw",
    zeroDigest⟩

def repeatedRequest (n : Nat) : BuildDataForgeScoreRequest ℚ :=
  ⟨some (repeatedProfile n), none, none, false⟩

theorem profiled_repeated (n : Nat) : Profiled (repeatedRows n) [objectIdColumn, amountColumn]
    objectIdColumn.1 (repeatedRequest n) := ⟨⟨repeatedProfile n, rfl, rfl, rfl⟩, rfl⟩

theorem severity_repeated : Reflects (buildDataForgeScore asciiPlatform (repeatedRequest 2))
    (duplicateCount (repeatedRows 2) [objectIdColumn, amountColumn] objectIdColumn /
      (repeatedRows 2).length) ↔
      duplicateCount (repeatedRows 2) [objectIdColumn, amountColumn] objectIdColumn ≤ 100 ∨
        Score.rounded (1 - (100 : ℚ) / (repeatedRows 2).length) =
          Score.rounded (1 -
            (duplicateCount (repeatedRows 2) [objectIdColumn, amountColumn] objectIdColumn : ℚ) /
            (repeatedRows 2).length) :=
  severity_reflects_iff (profiled_repeated 2) selectIdColumn_repeated (distinctIds_repeatedRows 2)

/-- Of 2020 equal rows the profile lists a hundred, and the score finds no severe duplicates. -/
theorem severity_lost : ¬ ∀ (rows : List Row) (columns : List NonEmptyStr) (requestedId : Text)
    (idColumn : NonEmptyStr) (request : BuildDataForgeScoreRequest ℚ),
    Profiled rows columns requestedId request → selectIdColumn columns requestedId = some idColumn →
    DistinctIds rows idColumn → Reflects (buildDataForgeScore asciiPlatform request)
      (duplicateCount rows columns idColumn / rows.length) := by
  intro h
  have hreflects := h _ _ _ _ _ (profiled_repeated 2020) selectIdColumn_repeated
    (distinctIds_repeatedRows 2020)
  have hlisted := reflects_listed (p := asciiPlatform) (profiled_repeated 2020)
  have hrows : (repeatedRows 2020).length =
      2020 := by rw [repeatedRows, List.length_map, List.length_range]
  have hlength : (profileDuplicates (repeatedRows 2020) [objectIdColumn, amountColumn]
      objectIdColumn.1).affectedObjectIds.length = 100 := by
    have haffected := @length_affected _
      (signatureColumns [objectIdColumn, amountColumn] (some objectIdColumn))
        _ (distinctIds_repeatedRows 2020)
    rw [profileDuplicates, selectIdColumn_repeated]
    exact haffected.trans (by
      rw [show duplicateRowCount _ _ = 2020 from duplicateCount_repeatedRows (by decide)]
      rfl)
  rw [hrows, hlength] at hlisted
  rw [hrows, duplicateCount_repeatedRows (by decide)] at hreflects
  have hsevere := hlisted.penalty.mp (hreflects.penalty.mpr (by norm_num))
  norm_num at hsevere

end Example

end DataForge.Plugins.Tabular.DuplicateSeverity
