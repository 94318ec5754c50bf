import DataForge.Ingestion.ManifestTotals
import DataForge.Plugins.ObjectAnalytics.TabularPassports
import DataForge.Plugins.Tabular.ProfileDuplicates
import DataForge.Plugins.Tabular.ProfileInference

namespace DataForge.Plugins.ObjectAnalytics.RareEvidence

open DataForge.Foundation.Lists
open DataForge.Foundation.Strings
open DataForge.Foundation.Dictionary
open DataForge.Foundation.Grouping
open DataForge.Foundation.Json
open DataForge.Foundation.JsonReader
open DataForge.Foundation.Numbers
open DataForge.Foundation.Outcome
open DataForge.Foundation.Failures
open DataForge.Foundation.Scores
open DataForge.Foundation.Features
open DataForge.Foundation.Tables
open DataForge.Domain.Common
open DataForge.Domain.Artifact
open DataForge.Domain.Evidence
open DataForge.Domain.Passport
open DataForge.Domain.TabularProfile
open DataForge.Domain.TextOcr
open DataForge.Ingestion.ArchiveReader
open DataForge.Ingestion.ManifestBuilder
open DataForge.Ingestion.TabularRows
open DataForge.Ingestion.ManifestIds
open DataForge.Ingestion.TransactionRows
open DataForge.Plugins.ObjectAnalytics.Passports
open DataForge.Plugins.ObjectAnalytics.TabularPassports
open DataForge.Plugins.Tabular.ProfileDuplicates
open DataForge.Plugins.Tabular.ProfileInference
open FloatLike ScoreLike

/-- Floats on which the complement of a share stays between zero and one. -/
class ShareLike (F : Type) extends FeatureLike F where
  complement_ratio : ∀ {k n : Nat}, k ≤ n → 0 < n →
    (sub (ofInt 1) (div (ofInt k) (ofInt n)) = (ofInt 0 : F) ∨
        lt (ofInt 0) (sub (ofInt 1) (div (ofInt k) (ofInt n)) : F) = true) ∧
      (sub (ofInt 1) (div (ofInt k) (ofInt n)) = (ofInt 1 : F) ∨
        lt (sub (ofInt 1) (div (ofInt k) (ofInt n)) : F) (ofInt 1) = true)

instance : ShareLike ℚ where
  complement_ratio {k n} hk hn := by
    have hnonneg : (0 : ℚ) ≤ k / n := by positivity
    have hle : (k : ℚ) / n ≤ 1 := (div_le_one (by exact_mod_cast hn)).mpr (by exact_mod_cast hk)
    change ((1 : ℚ) - k / n = 0 ∨ decide ((0 : ℚ) < 1 - k / n) = true) ∧
      ((1 : ℚ) - k / n = 1 ∨ decide ((1 : ℚ) - k / n < 1) = true)
    simp only [decide_eq_true_eq]
    constructor
    · rcases hle.eq_or_lt with h | h
      · exact .inl (by rw [h, sub_self])
      · exact .inr (sub_pos.mpr h)
    · rcases hnonneg.eq_or_lt with h | h
      · exact .inl (by rw [← h, sub_zero])
      · exact .inr (sub_lt_self 1 h)

section Signal

variable {F : Type} [ScoreLike F]

theorem inRange_between (x : F) :
    InRange 1 (FloatLike.max (ofInt 0) (DataForge.Foundation.Scores.min (ofInt 1) x)) := by
  have hzero : InRange 1 (ofInt 0 : F) := inRange_ofInt (le_refl 0) zero_le_one (by decide)
  have hone : InRange 1 (ofInt 1 : F) := inRange_ofInt zero_le_one (le_refl 1) (by decide)
  rw [FloatLike.max, DataForge.Foundation.Scores.min]
  cases hx : lt x (ofInt 1) with
  | false =>
    simp only [Bool.false_eq_true, if_false]
    split
    · exact hone
    · exact hzero
  | true =>
    simp only [if_true]
    cases hy : lt (ofInt 0) x with
    | false => exact hzero
    | true => exact ⟨lt_asymm hy, lt_asymm hx⟩

/-- `max(0.0, min(1.0, 1.0 - rare_share))`. -/
def rareScore (share : Score F) : Score F := ⟨_, inRange_between (sub (ofInt 1) share.1)⟩

def tabularRareClassSignal (imbalance : Option (ClassImbalanceDiagnostics F)) :
    Option Text × Option (Score F) :=
  (imbalance.map fun d => d.rareClassLabel.1, imbalance.map fun d => rareScore d.rareClassRatio)

/-- What the profile says of the rare class, with whatever else it says. -/
def withRareClass (tabular : TabularSignals F) (profile : TabularProfileReport F) :
    TabularSignals F :=
  { tabular with
    rareLabel := (tabularRareClassSignal profile.classImbalance).1
    rareScore := (tabularRareClassSignal profile.classImbalance).2 }

end Signal

section Labels

/-- The two spellings that a label of `is_fraud` has. -/
def otherSpelling (label : Text) : Option Text :=
  if label = "1".toList then some "fraud".toList
  else if label = "fraud".toList then some "1".toList
  else if label = "0".toList then some "not_fraud".toList
  else if label = "not_fraud".toList then some "0".toList
  else none

theorem canonicalLabel_isFraud_iff (value label : Text) :
    canonicalLabel "is_fraud".toList (.str value) = canonicalProfileLabel (some label) ↔
      value = label ∨ otherSpelling label = some value := by
  have hone : "fraud".toList ≠ "1".toList ∧ "fraud".toList ≠ "0".toList ∧ "1".toList ≠ "0".toList ∧
      "not_fraud".toList ≠ "1".toList ∧ "not_fraud".toList ≠ "0".toList ∧
      "not_fraud".toList ≠ "fraud".toList := by decide
  rw [canonicalLabel, canonicalProfileLabel, otherSpelling]
  change _ = (if some label = some "1".toList then _
    else if some label = some "0".toList then _ else _) ↔ _
  simp only [true_and, Option.some.injEq]
  generalize "1".toList = one at *
  generalize "0".toList = zero at *
  generalize "fraud".toList = fraud at *
  generalize "not_fraud".toList = notFraud at *
  grind

theorem canonicalLabel_other {key : Text} (h : key ≠ "is_fraud".toList) (value : Text) :
    canonicalLabel key (.str value) = some value := by
  rw [canonicalLabel, if_neg fun hkey => h hkey.1, if_neg fun hkey => h hkey.1]

/-- The label of the profile keeps its spelling. -/
theorem canonicalProfileLabel_eq_self {label : Text} :
    canonicalProfileLabel (some label) = some label ↔ label ≠ "1".toList ∧ label ≠ "0".toList := by
  have hfraud : "fraud".toList ≠ "1".toList ∧ "not_fraud".toList ≠ "0".toList := by decide
  rw [canonicalProfileLabel]
  change (if some label = some "1".toList then _
    else if some label = some "0".toList then _ else _) = _ ↔ _
  simp only [Option.some.injEq]
  generalize "1".toList = one at *
  generalize "0".toList = zero at *
  generalize "fraud".toList = fraud at *
  generalize "not_fraud".toList = notFraud at *
  grind

theorem canonicalProfileLabel_ne_none (label : Text) :
    canonicalProfileLabel (some label) ≠ none := by
  rw [canonicalProfileLabel]
  split
  · exact Option.some_ne_none _
  · split
    · exact Option.some_ne_none _
    · exact Option.some_ne_none _

end Labels

section Imbalance

variable {F : Type} [ShareLike F] {rows : List Row} {d : ClassImbalanceDiagnostics F}

theorem mem_targetClassCounts {target : NonEmptyStr} {entry : Text × Nat}
    (h : entry ∈ targetClassCounts rows target) :
    ∃ row ∈ rows, cell target.1 row = entry.1 := by
  have hkey := mem_keys_counter.mp (List.mem_map_of_mem h)
  obtain ⟨row, hrow, hcell⟩ := List.mem_map.mp (List.mem_of_mem_filter hkey)
  exact ⟨row, hrow, hcell⟩

/-- What the profile promises of the rare class: some row has its label, and the ratio is that
of a share. -/
theorem classImbalance_eq_ok {target : Option NonEmptyStr}
    (h : classImbalance F rows target = .ok (some d)) :
    target = some d.targetColumn ∧ (∃ row ∈ rows, cell d.targetColumn.1 row = d.rareClassLabel.1) ∧
      ∃ k n : Nat, k ≤ n ∧ 0 < n ∧ d.rareClassRatio.1 = div (ofInt k) (ofInt n) := by
  cases target with
  | none => cases h
  | some target =>
    rw [classImbalance] at h
    dsimp only at h
    have hperm :=
      List.perm_insertionSort (fun a b : Text × Nat => a.2 < b.2 ∨ (a.2 = b.2 ∧ a.1 ≤ b.1))
      (targetClassCounts rows target)
    split at h
    · cases h
    · next rare rest hsorted =>
      rw [hsorted] at hperm
      have hrare : rare ∈ targetClassCounts rows target := hperm.mem_iff.mp List.mem_cons_self
      obtain ⟨label, hlabel, h⟩ := bind_eq_ok.mp h
      obtain ⟨share, hshare, h⟩ := bind_eq_ok.mp h
      obtain rfl := Option.some.inj (Except.ok.inj h)
      have hle : rare.2 ≤ ((targetClassCounts rows target).map Prod.snd).sum :=
        List.single_le_sum (fun _ _ => Nat.zero_le _) _ (List.mem_map_of_mem hrare)
      have hpos : 0 < ((targetClassCounts rows target).map Prod.snd).sum := by
        rw [targetClassCounts, sum_counter, List.length_pos_iff]
        exact List.ne_nil_of_mem (mem_keys_counter.mp (List.mem_map_of_mem hrare))
      refine ⟨rfl, ?_, _, _, hle, hpos, ?_⟩
      · rw [field_eq_ok.mp hlabel]
        exact mem_targetClassCounts hrare
      · rw [ratio, if_neg hpos.ne'] at hshare
        split at hshare
        · exact (congrArg Subtype.val (Except.ok.inj hshare)).symm
        · cases hshare

theorem rareScore_val
    (h : ∃ k n : Nat, k ≤ n ∧ 0 < n ∧ d.rareClassRatio.1 = div (ofInt k) (ofInt n)) :
    (rareScore d.rareClassRatio).1 = sub (ofInt 1) d.rareClassRatio.1 := by
  obtain ⟨k, n, hk, hn, hratio⟩ := h
  obtain ⟨hlow, hhigh⟩ := ShareLike.complement_ratio (F := F) hk hn
  rw [← hratio] at hlow hhigh
  rw [rareScore]
  dsimp only
  generalize sub (ofInt 1) d.rareClassRatio.1 = x at hlow hhigh
  have hmin : DataForge.Foundation.Scores.min (ofInt 1) x = x := by
    rw [DataForge.Foundation.Scores.min]
    split
    · rfl
    · next hlt => exact (hhigh.resolve_right hlt).symm
  rw [hmin, FloatLike.max]
  split
  · rfl
  · next hlt => exact (hlow.resolve_right hlt).symm

end Imbalance

section Rows

variable {t : Table} {target : NonEmptyStr} {line : List Text}

theorem get?_cells_eq_none {key : Text} (h : key ∉ t.header) :
    get? key (dictRow t.header line).cells = none := by
  rw [get?_eq_none, dictRow, mem_keys_update, List.map_map]
  rintro (hkey | hkey)
  · cases hkey
  · obtain ⟨item, hitem, rfl⟩ := List.mem_map.mp hkey
    exact h (List.fst_mem_of_mem_zipIdx hitem)

/-- A row with a target cell is labelled by it. -/
theorem labelFromRow_of_cell (h : selectTargetColumn (namedColumns t) = some target)
    (hne : cell target.1 (recordOf t line) ≠ []) :
    labelFromRow (dictRow t.header line).cells =
      canonicalLabel target.1 (.str (cell target.1 (recordOf t line))) := by
  obtain ⟨hmem, before, after, hkeys, hbefore⟩ := List.find?_eq_some_iff_append.mp h
  have hcolumn : target.1 ∈ t.columns := by
    rw [← namedColumns_val]
    exact List.mem_map_of_mem (of_decide_eq_true hmem)
  have hcell : get? target.1 (dictRow t.header line).cells =
      some (.str (cell target.1 (recordOf t line))) := by
    rw [cell_recordOf hcolumn] at hne ⊢
    cases hget : get? target.1 (dictRow t.header line).cells with
    | none => simp [hget] at hne
    | some v =>
      rw [hget] at hne
      cases v with
      | str s => rfl
      | _ => simp [cellText] at hne
  have hmissing : (before.map Subtype.val).filterMap (fun key =>
      (get? key (dictRow t.header line).cells).map fun value => (key, value)) = [] := by
    rw [List.filterMap_eq_nil_iff]
    intro key hkey
    obtain ⟨name, hname, rfl⟩ := List.mem_map.mp hkey
    have habsent := hbefore name hname
    rw [get?_cells_eq_none, Option.map_none]
    intro hheader
    have hnamed : name.1 ∈ (namedColumns t).map Subtype.val := by
      rw [namedColumns_val]
      exact List.mem_filter.mpr ⟨hheader, decide_eq_true name.2⟩
    obtain ⟨other, hother, hsame⟩ := List.mem_map.mp hnamed
    obtain rfl := Subtype.ext hsame
    simp [hother] at habsent
  have hall : tabularTargetKeys = before.map Subtype.val ++ target.1 :: after.map Subtype.val := by
    rw [← List.map_cons, ← List.map_append, ← hkeys]
    rfl
  have hnotEmpty : notEmpty (.str (cell target.1 (recordOf t line))) = true := by
    cases hs : cell target.1 (recordOf t line) with
    | nil => exact absurd hs hne
    | cons c s => rfl
  rw [labelFromRow, hall, List.filterMap_append, hmissing, List.nil_append,
    List.filterMap_cons_some (b := (target.1, .str (cell target.1 (recordOf t line))))
      (by rw [hcell]; rfl), List.find?_cons_of_pos (by exact hnotEmpty)]
  rfl

end Rows

section Spec

variable {F : Type} [ShareLike F]

/-- One minus the ratio for the rows of the rare class, and zero for the others. -/
def expectedScore (imbalance : Option (ClassImbalanceDiagnostics F)) (record : Row) : F :=
  match imbalance with
  | none => ofInt 0
  | some d =>
    if cell d.targetColumn.1 record = d.rareClassLabel.1 then sub (ofInt 1) d.rareClassRatio.1
    else ofInt 0

/-- The passports of the table's rows score the rare ones and no other. -/
def Faithful (t : Table) (imbalance : Option (ClassImbalanceDiagnostics F))
    (passports : List (ObjectAnalyticalPassport F)) : Prop :=
  List.Forall₂ (fun record passport => passport.learningValue.rareSegmentScore.map Subtype.val =
    some (expectedScore imbalance record)) t.records (tabularPassports passports)

/-- A row is rare by its label exactly if it is by its cell: in `is_fraud` no cell spells the rare
label the other way, elsewhere the label has one spelling, and no row without a target cell takes
the label from another column. -/
structure Recognised (t : Table) (d : ClassImbalanceDiagnostics F) : Prop where
  spelling : d.targetColumn.1 = "is_fraud".toList →
    ∀ record ∈ t.records, otherSpelling d.rareClassLabel.1 ≠ some (cell d.targetColumn.1 record)
  alone : d.targetColumn.1 ≠ "is_fraud".toList →
    d.rareClassLabel.1 ≠ "1".toList ∧ d.rareClassLabel.1 ≠ "0".toList
  fallback : ∀ line ∈ t.lines, line ≠ [] → cell d.targetColumn.1 (recordOf t line) = [] →
    labelFromRow (dictRow t.header line).cells ≠ canonicalProfileLabel (some d.rareClassLabel.1)

theorem otherSpelling_ne {label value : Text} (h : otherSpelling label = some value) :
    value ≠ label ∧ value ≠ [] := by
  have hne : "fraud".toList ≠ "1".toList ∧ "not_fraud".toList ≠ "0".toList ∧ "fraud".toList ≠ [] ∧
      "1".toList ≠ [] ∧ "not_fraud".toList ≠ [] ∧ "0".toList ≠ [] := by decide
  rw [otherSpelling] at h
  generalize "1".toList = one at *
  generalize "0".toList = zero at *
  generalize "fraud".toList = fraud at *
  generalize "not_fraud".toList = notFraud at *
  grind

variable {t : Table} {d : ClassImbalanceDiagnostics F}

theorem recognised_iff (htarget : selectTargetColumn (namedColumns t) = some d.targetColumn)
    (hrare : ∃ record ∈ t.records, cell d.targetColumn.1 record = d.rareClassLabel.1) :
    (∀ line ∈ t.lines.filter (· ≠ []),
      (labelFromRow (dictRow t.header line).cells =
        canonicalProfileLabel (some d.rareClassLabel.1) ↔
        cell d.targetColumn.1 (recordOf t line) = d.rareClassLabel.1)) ↔ Recognised t d := by
  have hlabel : ∀ line, cell d.targetColumn.1 (recordOf t line) ≠ [] →
      labelFromRow (dictRow t.header line).cells =
        canonicalLabel d.targetColumn.1 (.str (cell d.targetColumn.1 (recordOf t line))) :=
    fun line hne => labelFromRow_of_cell htarget hne
  constructor
  · intro hall
    refine ⟨fun hfraud record hrecord hother => ?_, fun hname => ?_,
      fun line hline hne hempty hsame => ?_⟩
    · obtain ⟨line, hline, rfl⟩ := List.mem_map.mp hrecord
      change otherSpelling _ = some (cell _ (recordOf t line)) at hother
      obtain ⟨hdiffers, hne⟩ := otherSpelling_ne hother
      refine hdiffers ((hall line hline).mp ?_)
      rw [hlabel line hne, hfraud, canonicalLabel_isFraud_iff, ← hfraud]
      exact .inr hother
    · obtain ⟨record, hrecord, hcell⟩ := hrare
      obtain ⟨line, hline, rfl⟩ := List.mem_map.mp hrecord
      change cell _ (recordOf t line) = _ at hcell
      have hflagged := (hall line hline).mpr hcell
      rw [hlabel line (by rw [hcell]; exact d.rareClassLabel.2), canonicalLabel_other hname,
        hcell] at hflagged
      exact canonicalProfileLabel_eq_self.mp hflagged.symm
    · have hcell := (hall line (List.mem_filter.mpr ⟨hline, decide_eq_true hne⟩)).mp hsame
      exact d.rareClassLabel.2 (hcell.symm.trans hempty)
  · intro hrecognised line hline
    obtain ⟨hmem, hne⟩ := List.mem_filter.mp hline
    by_cases hempty : cell d.targetColumn.1 (recordOf t line) = []
    · refine iff_of_false (hrecognised.fallback line hmem (of_decide_eq_true hne) hempty) ?_
      rw [hempty]
      exact d.rareClassLabel.2.symm
    · rw [hlabel line hempty]
      by_cases hfraud : d.targetColumn.1 = "is_fraud".toList
      · have hspelling := hrecognised.spelling hfraud _ (List.mem_map_of_mem hline)
        change otherSpelling _ ≠ some (cell _ (recordOf t line)) at hspelling
        rw [hfraud] at hspelling ⊢
        rw [canonicalLabel_isFraud_iff, or_iff_left hspelling]
      · rw [canonicalLabel_other hfraud,
          canonicalProfileLabel_eq_self.mpr (hrecognised.alone hfraud), Option.some.injEq]

end Spec

section Passports

variable {F : Type} [ShareLike F] {t : Table} {loads : Text → Option Value} {files : ArchiveFiles}
  {request : BuildManifestRequest} {contents : ArchiveContents} {d : ArchiveFileDescriptor}
  {result : BuildManifestResult} {p : Platform} {strptime : Text → Text → Bool}
  {segmentColumn : Option Text} {profile : TabularProfileReport F}

theorem inferTabularProfile_imbalance {rows : List Row} {columns : List NonEmptyStr}
    (h : inferTabularProfile F p strptime rows columns segmentColumn = .ok profile) :
    classImbalance F rows (selectTargetColumn columns) = .ok profile.classImbalance := by
  obtain ⟨-, h⟩ := check_bind_eq_ok.mp h
  obtain ⟨missingness, -, h⟩ := bind_eq_ok.mp h
  obtain ⟨imbalance, himbalance, h⟩ := bind_eq_ok.mp h
  obtain rfl := Except.ok.inj h
  exact himbalance

theorem learningValueBlock_rare {row : ManifestRow} {tabular : TabularSignals F}
    {modelSignal : Option (ObjectModelErrorSignals F)} {learning : LearningValueSignals F}
    (htabular : row.modality = .tabular)
    (h : learningValueBlock row tabular modelSignal = .ok learning) :
    learning.rareSegmentScore =
      if row.label ≠ none ∧ row.label = canonicalProfileLabel tabular.rareLabel then
        tabular.rareScore
      else some Score.zero := by
  have hskeleton : isSkeleton row.modality = false := by rw [htabular]; rfl
  rw [learningValueBlock, hskeleton, if_neg Bool.false_ne_true] at h
  obtain ⟨uncertainty, -, h⟩ := bind_eq_ok.mp h
  obtain rfl := Except.ok.inj h
  rfl

/-- The score of a line's passport is decided by the label that its manifest row was given. -/
theorem scores_of_lines {evidenceRefs : List EvidenceRef} {tabular : TabularSignals F}
    {report : Option (TextOcrReport F)} {modelSignals : Dict Text (ObjectModelErrorSignals F)}
    {passports : List (ObjectAnalyticalPassport F)}
    (hbuild : buildAssetManifest loads request (files.payloads request) contents = .ok result)
    (hd : contents.descriptorsByKind .transactions = [d]) (hcsv : files.readCsv d = .ok (some t))
    (hpassports :
      buildObjectAnalyticsPassports result.rows evidenceRefs tabular report modelSignals =
      .ok passports) :
    List.Forall₂ (fun line passport => passport.learningValue.rareSegmentScore =
        if labelFromRow (dictRow t.header line).cells ≠ none ∧
            labelFromRow (dictRow t.header line).cells =
              canonicalProfileLabel tabular.rareLabel then
          tabular.rareScore
        else some Score.zero)
      (t.lines.filter (· ≠ [])) (tabularPassports passports) := by
  refine (forall₂_comp (tabularRows_of_manifest hbuild hd hcsv)
    (tabularPassports_of_rows hpassports)).imp ?_
  rintro line passport ⟨row, hrow, htabular, textSignal, modelSignal, hpassport⟩
  have hlearning := (buildPassport_eq_ok hpassport).2.2.2.2.2.1
  rw [learningValueBlock_rare htabular hlearning, (tabularRow_eq_ok hrow).2.2.1]

omit [ShareLike F] in
theorem score_eq_iff {flagged rare : Prop} [Decidable flagged] [Decidable rare] {x y : F} :
    some (if flagged then x else y) = some (if rare then x else y) ↔ x = y ∨ (flagged ↔ rare) := by
  by_cases hf : flagged <;> by_cases hr : rare <;> simp [hf, hr, eq_comm]

/-- The passports score the rare rows of a table exactly where rare rows score zero, too, or the
rare class is recognised by the rows' labels. -/
theorem rare_scores_iff {evidenceRefs : List EvidenceRef} {tabular : TabularSignals F}
    {report : Option (TextOcrReport F)} {modelSignals : Dict Text (ObjectModelErrorSignals F)}
    {passports : List (ObjectAnalyticalPassport F)}
    (hd : resolveTransactionsDescriptor contents = .ok d) (hcsv : files.readCsv d = .ok (some t))
    (hbuild : buildAssetManifest loads request (files.payloads request) contents = .ok result)
    (hprofile :
      inferTabularProfile F p strptime t.records (namedColumns t) segmentColumn = .ok profile)
    (hpassports :
      buildObjectAnalyticsPassports result.rows evidenceRefs (withRareClass tabular profile)
      report modelSignals = .ok passports) :
    Faithful t profile.classImbalance passports ↔ ∀ rare, profile.classImbalance = some rare →
      sub (ofInt 1) rare.rareClassRatio.1 = (ofInt 0 : F) ∨ Recognised t rare := by
  have hscores := scores_of_lines hbuild (resolveTransactionsDescriptor_eq_ok hd) hcsv hpassports
  have himbalance := inferTabularProfile_imbalance hprofile
  rw [withRareClass, tabularRareClassSignal] at hscores
  dsimp only at hscores
  rw [Faithful, records_eq, List.forall₂_map_left_iff]
  cases hrare : profile.classImbalance with
  | none =>
    rw [hrare] at hscores
    refine iff_of_true (hscores.imp fun line passport hscore => ?_) fun rare h => (by cases h)
    rw [hscore, if_neg fun h => h.1 h.2]
    rfl
  | some rare =>
    rw [hrare] at hscores himbalance
    simp only [Option.map_some] at hscores
    obtain ⟨htarget, hsome, hratio⟩ := classImbalance_eq_ok himbalance
    have hlines := @forall₂_iff_forall _ _
      (fun line passport => passport.learningValue.rareSegmentScore.map Subtype.val =
        some (expectedScore (some rare) (recordOf t line))) _
      (fun line => sub (ofInt 1) rare.rareClassRatio.1 = (ofInt 0 : F) ∨
        (labelFromRow (dictRow t.header line).cells =
          canonicalProfileLabel (some rare.rareClassLabel.1) ↔
          cell rare.targetColumn.1 (recordOf t line) = rare.rareClassLabel.1)) _ _ hscores
      fun line passport hscore => by
        have hvalue : passport.learningValue.rareSegmentScore.map Subtype.val =
            some (if labelFromRow (dictRow t.header line).cells =
              canonicalProfileLabel (some rare.rareClassLabel.1) then
                sub (ofInt 1) rare.rareClassRatio.1 else (ofInt 0 : F)) := by
          rw [hscore]
          split
          · next hflag => rw [if_pos hflag.2, Option.map_some, rareScore_val hratio]
          · next hflag =>
            have hother : labelFromRow (dictRow t.header line).cells ≠
                canonicalProfileLabel (some rare.rareClassLabel.1) := fun hsame =>
              hflag ⟨by rw [hsame]; exact canonicalProfileLabel_ne_none _, hsame⟩
            rw [if_neg hother]
            rfl
        rw [hvalue, expectedScore, score_eq_iff]
    rw [hlines]
    by_cases hzero : sub (ofInt 1) rare.rareClassRatio.1 = (ofInt 0 : F)
    · exact iff_of_true (fun _ _ => .inl hzero) fun other h => .inl (Option.some.inj h ▸ hzero)
    · simp only [hzero, false_or]
      rw [recognised_iff htarget hsome]
      exact ⟨fun h other hother => .inr (Option.some.inj hother ▸ h),
        fun h => (h rare rfl).resolve_left hzero⟩

end Passports

section Example

/-- Three rows of a column that is not `is_fraud`, one of the class 1. -/
def labels : Table where
  header := ["object_id", "label"].map String.toList
  lines := [["a", "1"], ["b", "0"], ["c", "0"]].map fun line => line.map String.toList

def labelFiles : ArchiveFiles where
  bytes _ := .empty
  readCsv _ := .ok (some labels)

def labelManifest : Result BuildManifestResult :=
  buildAssetManifest loads versionRequest (labelFiles.payloads versionRequest) transactionsArchive

def labelProfile : Result (TabularProfileReport ℚ) :=
  inferTabularProfile ℚ asciiPlatform (fun _ _ => false) labels.records (namedColumns labels) none

theorem exists_labelManifest : ∃ result, labelManifest = .ok result := by
  have hbuildable :
      DataForge.Ingestion.ManifestTotals.TableBuildable versionRequest (some labels) := by
    intro t ht line hline _
    obtain rfl := Option.some.inj ht
    have hlengths : ∀ line ∈ labels.lines, line.length ≤ labels.header.length := by decide
    have hversion : ∀ c ∈ versionRequest.versionId.1, isWhiteSpace c = false := by decide
    exact ⟨.inl (hlengths line hline), hversion⟩
  obtain ⟨rows, hrows⟩ := DataForge.Ingestion.ManifestTotals.exists_tabularRows.mpr hbuildable
  have hentry : ∀ d ∈ transactionsArchive.descriptors, ∃ outcomes,
      entryOutcomes loads versionRequest (labelFiles.payloads versionRequest) d = .ok outcomes := by
    intro d hd
    obtain rfl := List.mem_singleton.mp hd
    exact ⟨_, map_eq_ok.mpr ⟨rows, bind_eq_ok.mpr ⟨some labels, rfl, hrows⟩, rfl⟩⟩
  obtain ⟨outcomes, houtcomes⟩ := exists_mapM_iff.mpr hentry
  exact ⟨_, bind_eq_ok.mpr ⟨outcomes, houtcomes, rfl⟩⟩

/-- The rare class of the profile, with its ratio. -/
theorem labelProfile_rare :
    labelProfile.toOption.map (fun profile => profile.classImbalance.map fun rare =>
    (rare.targetColumn.1, rare.rareClassLabel.1, rare.rareClassRatio.1)) =
      some (some ("label".toList, ['1'], 1 / 3)) := by
  decide +kernel

theorem exists_labelProfile : ∃ profile rare, labelProfile = .ok profile ∧
    profile.classImbalance = some rare ∧ rare.targetColumn.1 = "label".toList ∧
      rare.rareClassLabel.1 = ['1'] ∧ rare.rareClassRatio.1 = 1 / 3 := by
  have hrare := labelProfile_rare
  cases hrun : labelProfile with
  | error e =>
    rw [hrun] at hrare
    cases hrare
  | ok profile =>
    rw [hrun] at hrare
    obtain ⟨rare, himbalance, hvalues⟩ := Option.map_eq_some_iff.mp (Option.some.inj hrare)
    obtain ⟨htarget, hvalues⟩ := Prod.mk.inj hvalues
    exact ⟨profile, rare, rfl, himbalance, htarget, Prod.mk.inj hvalues⟩

theorem rare_scores_sample : ∃ result profile passports, labelManifest = .ok result ∧
    labelProfile =
      .ok profile ∧ buildObjectAnalyticsPassports result.rows [] (withRareClass noSignals profile)
      none [] = .ok passports ∧
    (Faithful labels profile.classImbalance passports ↔ ∀ rare, profile.classImbalance = some rare →
      sub (ofInt 1) rare.rareClassRatio.1 = (ofInt 0 : ℚ) ∨ Recognised labels rare) := by
  obtain ⟨result, hresult⟩ := exists_labelManifest
  obtain ⟨profile, -, hprofile, -⟩ := exists_labelProfile
  obtain ⟨passports, hpassports⟩ :=
    exists_passports (withRareClass noSignals profile) rfl rfl result.rows
  exact ⟨result, profile, passports, hresult, hprofile, hpassports,
    rare_scores_iff rfl rfl hresult hprofile hpassports⟩

/-- The one row of the rare class scores zero: its label is 1, and the passports look for fraud. -/
theorem rare_label_not_scored : ∃ result profile passports, labelManifest = .ok result ∧
    labelProfile =
      .ok profile ∧ buildObjectAnalyticsPassports result.rows [] (withRareClass noSignals profile)
      none [] = .ok passports ∧ ¬ Faithful labels profile.classImbalance passports := by
  obtain ⟨result, hresult⟩ := exists_labelManifest
  obtain ⟨profile, rare, hprofile, hrare, htarget, hlabel, hratio⟩ := exists_labelProfile
  obtain ⟨passports, hpassports⟩ :=
    exists_passports (withRareClass noSignals profile) rfl rfl result.rows
  refine ⟨result, profile, passports, hresult, hprofile, hpassports, fun hfaithful => ?_⟩
  have hscores := scores_of_lines hresult rfl rfl hpassports
  rw [Faithful, records_eq, List.forall₂_map_left_iff] at hfaithful
  have hlines : labels.lines.filter (· ≠ []) =
      ["a".toList, "1".toList] :: labels.lines.tail := by decide
  rw [hlines] at hscores hfaithful
  obtain ⟨passport, rest, hscore, -, hpassport⟩ := List.forall₂_cons_left_iff.mp hscores
  rw [hpassport] at hfaithful
  have hexpected := (List.forall₂_cons.mp hfaithful).1
  have hlooksFor : (withRareClass noSignals profile).rareLabel = some ['1'] := by
    rw [withRareClass, tabularRareClassSignal, hrare]
    exact congrArg some hlabel
  have hmissed : ¬ (labelFromRow (dictRow labels.header ["a".toList, "1".toList]).cells ≠ none ∧
      labelFromRow (dictRow labels.header ["a".toList, "1".toList]).cells =
        canonicalProfileLabel (some ['1'])) := by decide
  rw [hlooksFor, if_neg hmissed] at hscore
  have hcell : cell rare.targetColumn.1 (recordOf labels ["a".toList, "1".toList]) =
      rare.rareClassLabel.1 := by
    rw [htarget, hlabel]
    decide
  rw [hscore, hrare, expectedScore, if_pos hcell, hratio] at hexpected
  exact absurd (Option.some.inj hexpected) (by decide +kernel)

end Example

end DataForge.Plugins.ObjectAnalytics.RareEvidence
