import DataForge.Plugins.Tabular.LeakageChecks
import Mathlib.Data.Set.Card

namespace DataForge.Plugins.Tabular.LeakageExactness

open DataForge.Foundation.Strings
open DataForge.Foundation.Sha256
open DataForge.Foundation.Dictionary
open DataForge.Foundation.Canonical
open DataForge.Foundation.Grouping
open DataForge.Foundation.Numbers
open DataForge.Foundation.Scores
open DataForge.Foundation.Tables
open DataForge.Domain.Common
open DataForge.Domain.Leakage
open DataForge.Domain.Profile
open DataForge.Domain.Splits
open DataForge.Plugins.Tabular.Sources
open DataForge.Plugins.Tabular.LeakageChecks

section Contents

variable {rows : List IdentifiedRow} {row row' : IdentifiedRow}

/-- The cells of a row, without its id. -/
def content (row : IdentifiedRow) (column : Text) : Option Text :=
  if column = objectIdColumn then none else get? column row.1

def contentColumns (row : IdentifiedRow) : List Text :=
  (row.1.map Prod.fst).filter (· ≠ objectIdColumn)

/-- The canonical JSON that the signature hashes. -/
def contentBytes (row : IdentifiedRow) : Bytes := rowBytes (contentColumns row) row.1

theorem content_eq (row : IdentifiedRow) (column : Text) :
    content row column =
      if column ∈ contentColumns row then some (cell column row.1) else none := by
  have hmem : column ∈ contentColumns row ↔ column ∈ row.1.map Prod.fst ∧ column ≠
      objectIdColumn := by
    rw [contentColumns, List.mem_filter, decide_eq_true_eq]
  rw [content]
  by_cases hid : column = objectIdColumn
  · rw [if_pos hid, if_neg fun h => (hmem.mp h).2 hid]
  · rw [if_neg hid]
    cases hcell : get? column row.1 with
    | none => rw [if_neg fun h => get?_eq_none.mp hcell (hmem.mp h).1]
    | some text =>
      rw [if_pos (hmem.mpr ⟨List.mem_map_of_mem (mem_of_get? hcell), hid⟩), cell, hcell,
        Option.getD_some]

theorem content_eq_iff : content row = content row' ↔ contentBytes row = contentBytes row' := by
  rw [contentBytes, contentBytes, rowBytes_eq_iff, funext_iff]
  apply forall_congr'
  intro column
  rw [content_eq, content_eq]

theorem rowSignature_eq (row : IdentifiedRow) :
    rowSignature row = hexdigest (contentBytes row) := by
  rw [rowSignature, signature]
  rfl

/-- The row contents have digests of their own. -/
def CollisionFree (rows : List IdentifiedRow) : Prop :=
  ∀ row ∈ rows, ∀ row' ∈ rows, hexdigest (contentBytes row) = hexdigest (contentBytes row') →
    contentBytes row = contentBytes row'

theorem rowSignature_eq_iff (hsha : CollisionFree rows) (hrow : row ∈ rows) (hrow' : row' ∈ rows) :
    rowSignature row = rowSignature row' ↔ content row = content row' := by
  rw [rowSignature_eq, rowSignature_eq, content_eq_iff]
  exact ⟨hsha row hrow row' hrow', fun h => h ▸ rfl⟩

end Contents

section Counterparts

variable {rows : List IdentifiedRow} {assignments : Assignments} {row row' : IdentifiedRow}

/-- Two rows that are assigned to different splits. -/
def Apart (assignments : Assignments) (row row' : IdentifiedRow) : Prop :=
  ∃ x y, get? (objectId row).1 assignments = some x ∧ get? (objectId row').1 assignments =
    some y ∧ x.1 ≠ y.1

/-- An assigned row whose content is in another split too. -/
def HasCounterpart (rows : List IdentifiedRow) (assignments : Assignments)
    (row : IdentifiedRow) : Prop :=
  ∃ row' ∈ rows, Apart assignments row row' ∧ content row = content row'

/-- What an exact check says of rows and their assignment. -/
structure ExactlyDecided (rows : List IdentifiedRow) (assignments : Assignments)
    (check : LeakageCheckResult) : Prop where
  failed : check.status = .failed ↔
    ∃ row ∈ rows, ∃ row' ∈ rows, Apart assignments row row' ∧ content row = content row'
  affected : ∀ id, id ∈ check.affectedObjectIds ↔
    ∃ row ∈ rows, HasCounterpart rows assignments row ∧ (objectId row).1 = id
  nodup : check.affectedObjectIds.Nodup
  count : check.findingsCount =
    (content '' {row | row ∈ rows ∧ HasCounterpart rows assignments row}).ncard

/-- Two functions that tell the same elements apart have as many values. -/
theorem ncard_image_eq {α β γ : Type} {s : Set α} {f : α → β} {g : α → γ}
    (h : ∀ a ∈ s, ∀ b ∈ s, f a = f b ↔ g a = g b) : (f '' s).ncard = (g '' s).ncard := by
  apply Set.ncard_congr fun b hb => g hb.choose
  · intro b hb
    exact Set.mem_image_of_mem g hb.choose_spec.1
  · intro b b' hb hb' heq
    rw [← hb.choose_spec.2, ← hb'.choose_spec.2]
    exact (h _ hb.choose_spec.1 _ hb'.choose_spec.1).mpr heq
  · rintro _ ⟨a, ha, rfl⟩
    have himage : f a ∈ f '' s := Set.mem_image_of_mem f ha
    exact ⟨f a, himage, (h _ himage.choose_spec.1 _ ha).mp himage.choose_spec.2⟩

def bySignature (row : IdentifiedRow) : Option Text := some (rowSignature row)

/-- The groups that the check finds are those of the rows with a counterpart. -/
theorem mem_found (hsha : CollisionFree rows) {k : Text} {bySplit : Dict DataSplit (List Text)} :
    (k, bySplit) ∈ (crossing (spread bySignature rows assignments)).map Prod.fst ↔
      bySplit = groupItems (members bySignature rows assignments k) ∧
        ∃ row ∈ rows, HasCounterpart rows assignments row ∧ rowSignature row = k := by
  rw [mem_crossing]
  apply and_congr_right
  intro _
  constructor
  · rintro ⟨⟨split, id⟩, ha, ⟨split', id'⟩, hb, hne⟩
    obtain ⟨row, hrow, x, hx, hk, rfl, rfl⟩ := mem_members.mp ha
    obtain ⟨row', hrow', y, hy, hk', rfl, rfl⟩ := mem_members.mp hb
    obtain rfl := Option.some.inj hk
    have hcontent := (rowSignature_eq_iff hsha hrow' hrow).mp (Option.some.inj hk')
    exact ⟨row, hrow, ⟨row', hrow', ⟨x, y, hx, hy, hne⟩, hcontent.symm⟩, rfl⟩
  · rintro ⟨row, hrow, ⟨row', hrow', ⟨x, y, hx, hy, hne⟩, hcontent⟩, rfl⟩
    have hsignature := (rowSignature_eq_iff hsha hrow' hrow).mpr hcontent.symm
    exact ⟨_, mem_members.mpr ⟨row, hrow, x, hx, rfl, rfl, rfl⟩, _,
      mem_members.mpr ⟨row', hrow', y, hy, congrArg some hsignature, rfl, rfl⟩, hne⟩

theorem mem_memberIds {ms : List (DataSplit × Text)} {id : Text} :
    id ∈ memberIds (groupItems ms) ↔ id ∈ ms.map Prod.snd := by
  rw [memberIds, (List.perm_insertionSort _ _).mem_iff, (flatMap_groupItems ms).mem_iff]

/-- A row that shares its content with two splits has a counterpart itself. -/
theorem hasCounterpart_of_content {row other : IdentifiedRow} {x : DataSplit × Option Text}
    (hx : get? (objectId row).1 assignments = some x) (hother : other ∈ rows)
    (h : HasCounterpart rows assignments other) (hcontent : content row = content other) :
    HasCounterpart rows assignments row := by
  obtain ⟨row', hrow', ⟨y, z, hy, hz, hne⟩, hcontent'⟩ := h
  by_cases hsplit : x.1 = y.1
  · exact ⟨row', hrow', ⟨x, z, hx, hz, hsplit ▸ hne⟩, hcontent.trans hcontent'⟩
  · exact ⟨other, hother, ⟨x, y, hx, hy, hsplit⟩, hcontent⟩

theorem mem_affected (hsha : CollisionFree rows) {id : Text} :
    id ∈ (crossing (spread bySignature rows assignments)).flatMap (fun item => memberIds item.1.2) ↔
      ∃ row ∈ rows, HasCounterpart rows assignments row ∧ (objectId row).1 = id := by
  rw [List.mem_flatMap]
  constructor
  · rintro ⟨⟨⟨k, bySplit⟩, i⟩, hitem, hid⟩
    have hid : id ∈ memberIds bySplit := hid
    obtain ⟨hgroups, other, hother, hcounterpart, rfl⟩ :=
      (mem_found hsha).mp (List.mem_map_of_mem hitem)
    rw [hgroups] at hid
    obtain ⟨⟨split, _⟩, hmember, rfl⟩ := List.mem_map.mp (mem_memberIds.mp hid)
    obtain ⟨row, hrow, x, hx, hk, -, rfl⟩ := mem_members.mp hmember
    have hcontent := (rowSignature_eq_iff hsha hrow hother).mp (Option.some.inj hk)
    exact ⟨row, hrow, hasCounterpart_of_content hx hother hcounterpart hcontent, rfl⟩
  · rintro ⟨row, hrow, hcounterpart, rfl⟩
    obtain ⟨item, hitem, hfst⟩ :=
      List.mem_map.mp ((mem_found hsha).mpr ⟨rfl, row, hrow, hcounterpart, rfl⟩)
    refine ⟨item, hitem, ?_⟩
    rw [hfst]
    obtain ⟨-, -, ⟨x, -, hx, -⟩, -⟩ := hcounterpart
    exact mem_memberIds.mpr
      (List.mem_map_of_mem (mem_members.mpr ⟨row, hrow, x, hx, rfl, rfl, rfl⟩))

theorem nodup_keys_crossing (key : IdentifiedRow → Option Text) :
    ((crossing (spread key rows assignments)).map fun item => item.1.1).Nodup := by
  have hkeys : ((spread key rows assignments).map Prod.fst).Nodup := by
    show (((groupItems (keyed key rows assignments)).map _).map Prod.fst).Nodup
    rw [List.map_map]
    exact nodup_keys_groupItems _
  have hsorted :
      ((sortedItems (spread key rows assignments)).zipIdx.map fun item => item.1.1).Nodup := by
    have hmap :=
      (((sortedItems_perm (spread key rows assignments)).map Prod.fst).nodup_iff).mpr hkeys
    rwa [← List.zipIdx_map_fst 0 (sortedItems _), List.map_map] at hmap
  exact hsorted.sublist (List.filter_sublist.map _)

theorem length_found (hsha : CollisionFree rows) :
    (crossing (spread bySignature rows assignments)).length =
      (content '' {row | row ∈ rows ∧ HasCounterpart rows assignments row}).ncard := by
  have hkeys :
      ((crossing (spread bySignature rows assignments)).map fun item => item.1.1).toFinset =
      rowSignature '' {row | row ∈ rows ∧ HasCounterpart rows assignments row} := by
    ext k
    simp only [List.coe_toFinset, Set.mem_ofPred_eq, List.mem_map, Set.mem_image]
    constructor
    · rintro ⟨item, hitem, rfl⟩
      obtain ⟨-, row, hrow, hcounterpart, hk⟩ := (mem_found hsha).mp (List.mem_map_of_mem hitem)
      exact ⟨row, ⟨hrow, hcounterpart⟩, hk⟩
    · rintro ⟨row, ⟨hrow, hcounterpart⟩, rfl⟩
      obtain ⟨item, hitem, hfst⟩ :=
        List.mem_map.mp ((mem_found hsha).mpr ⟨rfl, row, hrow, hcounterpart, rfl⟩)
      exact ⟨item, hitem, congrArg Prod.fst hfst⟩
  rw [← ncard_image_eq fun a ha b hb => rowSignature_eq_iff hsha ha.1 hb.1, ← hkeys,
    Set.ncard_coe_finset, List.toFinset_card_of_nodup (nodup_keys_crossing bySignature),
    List.length_map]

theorem exactlyDecided (hsha : CollisionFree rows) :
    ExactlyDecided rows assignments (exactHashCheck rows assignments) := by
  have hcrosses : crossing (spread bySignature rows assignments) ≠ [] ↔
      ∃ row ∈ rows, HasCounterpart rows assignments row := by
    constructor
    · intro hne
      obtain ⟨⟨⟨k, bySplit⟩, i⟩, hitem⟩ := List.exists_mem_of_ne_nil _ hne
      obtain ⟨-, row, hrow, hcounterpart, -⟩ := (mem_found hsha).mp (List.mem_map_of_mem hitem)
      exact ⟨row, hrow, hcounterpart⟩
    · rintro ⟨row, hrow, hcounterpart⟩ hnil
      have hfound := (mem_found hsha).mpr ⟨rfl, row, hrow, hcounterpart, rfl⟩
      rw [hnil] at hfound
      cases hfound
  have hcheck : exactHashCheck rows assignments =
      if crossing (spread bySignature rows assignments) = []
      then _ else _ := rfl
  by_cases hnil : crossing (spread bySignature rows assignments) = []
  · have hnone := fun row hrow h => hcrosses.mpr ⟨row, hrow, h⟩ hnil
    have hlength := @length_found _ assignments hsha
    rw [hcheck, if_pos hnil]
    rw [hnil] at hlength
    refine ⟨?_, fun id => ?_, List.nodup_nil, hlength⟩
    · exact iff_of_false (by decide) fun ⟨row, hrow, h⟩ => hnone row hrow h
    · exact iff_of_false List.not_mem_nil fun ⟨row, hrow, h, _⟩ => hnone row hrow h
  · rw [hcheck, if_neg hnil]
    refine ⟨?_, fun id => ?_, ?_, ?_⟩
    · exact iff_of_true rfl (hcrosses.mp hnil)
    · exact mem_sortedSet.trans (mem_affected hsha)
    · exact nodup_sortedSet _
    · exact (List.length_map _).trans (length_found hsha)

end Counterparts

section Score

variable {F : Type} [FractionLike F] {checks : List LeakageCheckResult}

theorem foldl_raise_ne_one {levels : List (Score F)} {start : Score F}
    (hstart : start ≠ Score.one) (hlevels : ∀ level ∈ levels, level ≠ Score.one) :
    levels.foldl raiseScore start ≠ Score.one := by
  induction levels generalizing start with
  | nil => exact hstart
  | cons level levels ih =>
    obtain ⟨hlevel, hrest⟩ := List.forall_mem_cons.mp hlevels
    apply ih _ hrest
    rw [raiseScore]
    split
    · exact hlevel
    · exact hstart

/-- The risk is one exactly for a blocking leak. -/
theorem leakageRiskScore_eq_one_iff :
    (leakageRiskScore checks : Score F) = Score.one ↔ checks.any isBlocking = true := by
  have hany : ((checks.filter fun check => check.status = .failed).any fun check =>
      check.severity = .blocker) = checks.any isBlocking := by
    rw [List.any_filter]
    congr 1
    funext check
    rw [isBlocking, Bool.decide_and]
  rw [leakageRiskScore]
  simp only [hany]
  split
  · next hblocking => exact iff_of_true rfl hblocking
  · next hfree =>
    refine iff_of_false ?_ hfree
    have hfold := @foldl_raise_ne_one F _ ((checks.filter fun check => check.status = .failed).map
      fun check => if check.severity = .warning then Score.fraction 5 1 else Score.fraction 25 2)
        Score.zero
    rw [List.foldl_map] at hfold
    apply hfold
    · apply Score.one_ne_of_lt
      show FloatLike.lt (FloatLike.ofInt 0 : F) (FloatLike.ofInt 1) = true
      rw [ScoreLike.lt_ofInt 0 1 (by decide) (by decide)]
      decide
    · intro level hlevel
      obtain ⟨check, -, rfl⟩ := List.mem_map.mp hlevel
      apply Score.one_ne_of_lt
      split
      · exact FractionLike.lt_decimal_one 5 1 (by decide) (by decide)
      · exact FractionLike.lt_decimal_one 25 2 (by decide) (by decide)

/-- The report decides the exact leaks exactly, and its risk is one where any leak blocks. -/
theorem exact_hash_decided {rows : List IdentifiedRow} (hsha : CollisionFree rows)
    (manifest : SplitManifest) (profile : Option (TabularProfileReport F)) :
    ∃ check ∈ (buildReport manifest (runChecks manifest profile rows) :
      SplitLeakageReport F).checks,
      check.checkType = .exactHash ∧ ExactlyDecided rows (indexAssignments manifest) check ∧
        ((buildReport manifest (runChecks manifest profile rows) :
          SplitLeakageReport F).leakageRiskScore =
            Score.one ↔
          (buildReport manifest (runChecks manifest profile rows) :
            SplitLeakageReport F).leakageDetected =
            true) := by
  refine ⟨exactHashCheck rows (indexAssignments manifest), List.mem_cons_self, ?_,
    exactlyDecided hsha, leakageRiskScore_eq_one_iff⟩
  exact checkType_exactHashCheck rows _

end Score

section Example

def amountRow (id : NonEmptyStr) : IdentifiedRow :=
  ⟨[(objectIdColumn, id.1), ("amount".toList, "1".toList)], id.2⟩

/-- One content in two splits. -/
def sharedAmount : List IdentifiedRow := [amountRow (literal "a"), amountRow (literal "b")]

def sharedManifest : SplitManifest where
  splitManifestId := "split".toList
  targetColumn := literal "amount"
  seed := 42
  groupKey := none
  assignments := [⟨literal "a", .train, literal "1", none⟩, ⟨literal "b", .test, literal "1", none⟩]
  classDistribution := []

theorem collisionFree_sharedAmount : CollisionFree sharedAmount := by
  have hcontent : ∀ row ∈ sharedAmount, content row =
      fun column => if column = "amount".toList then some "1".toList else none := by
    intro row hrow
    obtain ⟨id, rfl⟩ : ∃ id, row = amountRow id := by
      rcases List.mem_pair.mp hrow with rfl | rfl <;> exact ⟨_, rfl⟩
    funext column
    by_cases hid : column = objectIdColumn
    · subst hid
      rw [content, if_pos rfl, if_neg (by decide)]
    · rw [content, if_neg hid, amountRow, get?, if_neg (Ne.symm hid), get?, get?_nil]
      exact if_congr eq_comm rfl rfl
  intro row hrow row' hrow' _
  rw [← content_eq_iff, hcontent row hrow, hcontent row' hrow']

def sharedReport : SplitLeakageReport ℚ :=
  buildReport sharedManifest
    (runChecks sharedManifest (none : Option (TabularProfileReport ℚ)) sharedAmount)

theorem exact_hash_sharedAmount :
    ∃ check ∈ sharedReport.checks, check.checkType = .exactHash ∧
      ExactlyDecided sharedAmount (indexAssignments sharedManifest) check ∧
        (sharedReport.leakageRiskScore = Score.one ↔ sharedReport.leakageDetected = true) :=
  exact_hash_decided collisionFree_sharedAmount sharedManifest none

end Example

end DataForge.Plugins.Tabular.LeakageExactness
