import DataForge.Foundation.ExtendedNumbers
import DataForge.Plugins.Validation.GatesRun

namespace DataForge.Plugins.Validation.SyntheticPrivacy

open DataForge.Foundation.Strings
open DataForge.Foundation.Numbers
open DataForge.Foundation.Scores
open DataForge.Foundation.Reals
open DataForge.Foundation.Tables
open DataForge.Foundation.ExtendedNumbers
open DataForge.Foundation.ExtendedNumbers.Extended (toFinite)
open DataForge.Domain.Common
open DataForge.Domain.ValidationGates
open DataForge.Plugins.Tabular.Sources
open DataForge.Plugins.Validation.Gates
open DataForge.Plugins.Validation.GatesRun
open FloatLike MetricLike
open Classical

section Euclid

/-- The numbers behind floats, if all are finite. -/
def finiteVector (v : List (Extended ℝ)) : Option (List ℝ) := v.mapM toFinite

noncomputable def euclideanDistance (xs ys : List ℝ) : ℝ :=
  √((xs.zip ys).map fun pair => (pair.1 - pair.2) ^ 2).sum

/-- What is less than nothing. -/
def Unmeasured (d : Extended ℝ) : Prop := d = .infinite false ∨ d = .nan

noncomputable def addSquare (total : Extended ℝ) (pair : Extended ℝ × Extended ℝ) : Extended ℝ :=
  let delta := sub pair.1 pair.2
  add total (mul delta delta)

theorem addSquare_finite (s x y : ℝ) :
    addSquare (.finite s) (.finite x, .finite y) = .finite (s + (x - y) ^ 2) := by
  rw [pow_two]
  rfl

theorem square_unmeasured {delta : Extended ℝ} (h : toFinite delta = none) :
    Unmeasured (mul delta delta) := by
  cases delta with
  | finite x => cases h
  | infinite a =>
    left
    cases a <;> rfl
  | nan => exact .inr rfl

theorem toFinite_sub {x y : Extended ℝ} (h : toFinite x = none ∨ toFinite y = none) :
    toFinite (sub x y) = none := by
  cases x with
  | finite x =>
    cases y with
    | finite y => simp [toFinite] at h
    | infinite b => rfl
    | nan => rfl
  | infinite a =>
    cases y with
    | finite y => rfl
    | infinite b => cases a <;> cases b <;> rfl
    | nan => rfl
  | nan => cases y <;> rfl

theorem add_unmeasured (s : ℝ) {x : Extended ℝ} (h : Unmeasured x) :
    Unmeasured (add (.finite s) x) := by
  obtain rfl | rfl := h
  · exact .inl rfl
  · exact .inr rfl

theorem unmeasured_addSquare {total : Extended ℝ} (h : Unmeasured total)
    (pair : Extended ℝ × Extended ℝ) :
    Unmeasured (addSquare total pair) := by
  have hsquare : ∀ square : Extended ℝ, Unmeasured square ∨ (∃ x, square = .finite x) →
      Unmeasured (add total square) := by
    rintro square (hsquare | ⟨x, rfl⟩)
    · obtain rfl | rfl := h <;> obtain rfl | rfl := hsquare
      · exact .inl rfl
      · exact .inr rfl
      · exact .inr rfl
      · exact .inr rfl
    · obtain rfl | rfl := h
      · exact .inl rfl
      · exact .inr rfl
  apply hsquare
  cases hdelta : sub pair.1 pair.2 with
  | finite x => exact .inr ⟨x * x, rfl⟩
  | infinite a => exact .inl (square_unmeasured rfl)
  | nan => exact .inl (square_unmeasured rfl)

theorem unmeasured_foldl {total : Extended ℝ} (h : Unmeasured total)
    (pairs : List (Extended ℝ × Extended ℝ)) :
    Unmeasured (pairs.foldl addSquare total) :=
  List.foldlRecOn pairs addSquare h fun _ hacc pair _ => unmeasured_addSquare hacc pair

/-- The squares add up over the reals, unless a float is none of them. -/
theorem foldl_addSquare {a b : List (Extended ℝ)} (hlength : a.length = b.length) (s : ℝ) :
    (∃ xs ys, finiteVector a = some xs ∧ finiteVector b = some ys ∧
      (a.zip b).foldl addSquare (.finite s) =
        .finite (s + ((xs.zip ys).map fun pair => (pair.1 - pair.2) ^ 2).sum)) ∨
      (finiteVector a = none ∨ finiteVector b = none) ∧
        Unmeasured ((a.zip b).foldl addSquare (.finite s)) := by
  induction a generalizing b s with
  | nil =>
    obtain rfl := List.length_eq_zero_iff.mp hlength.symm
    exact .inl ⟨[], [], rfl, rfl, by simp⟩
  | cons x a ih =>
    cases b with
    | nil => cases hlength
    | cons y b =>
      rw [List.zip_cons_cons, List.foldl_cons]
      by_cases hnone : toFinite x = none ∨ toFinite y = none
      · right
        refine ⟨?_, unmeasured_foldl (add_unmeasured s (square_unmeasured (toFinite_sub hnone))) _⟩
        obtain hx | hy := hnone
        · left
          simp [finiteVector, hx]
        · right
          simp [finiteVector, hy]
      · cases x with
        | infinite a => exact absurd (.inl rfl) hnone
        | nan => exact absurd (.inl rfl) hnone
        | finite x =>
          cases y with
          | infinite b => exact absurd (.inr rfl) hnone
          | nan => exact absurd (.inr rfl) hnone
          | finite y =>
            rw [addSquare_finite]
            obtain ⟨xs, ys, hxs, hys, hsum⟩ | ⟨hnone, hsum⟩ :=
              ih (Nat.succ.inj hlength) (s + (x - y) ^ 2)
            · left
              rw [finiteVector] at hxs hys
              refine ⟨x :: xs, y :: ys, by simp [finiteVector, toFinite, hxs],
                by simp [finiteVector, toFinite, hys], ?_⟩
              rw [hsum, List.zip_cons_cons, List.map_cons, List.sum_cons, add_assoc]
            · right
              refine ⟨?_, hsum⟩
              rw [finiteVector, finiteVector] at hnone
              obtain ha | hb := hnone
              · left
                simp [finiteVector, toFinite, ha]
              · right
                simp [finiteVector, toFinite, hb]

/-- The code computes the Euclidean distance of finite vectors, and no number for others. -/
theorem euclidean_cases {a b : List (Extended ℝ)} (hlength : a.length = b.length) :
    (∃ xs ys, finiteVector a = some xs ∧ finiteVector b = some ys ∧
        euclidean a b = .finite (euclideanDistance xs ys)) ∨
      (finiteVector a = none ∨ finiteVector b = none) ∧ Unmeasured (euclidean a b) := by
  have hzero : (ofInt 0 : Extended ℝ) = .finite 0 := congrArg Extended.finite Int.cast_zero
  have heuclidean : euclidean a b = sqrt ((a.zip b).foldl addSquare (.finite 0)) := by
    rw [euclidean, if_neg (not_not.mpr hlength), hzero]
    rfl
  rw [heuclidean]
  obtain ⟨xs, ys, hxs, hys, hsum⟩ | ⟨hnone, hsum⟩ := foldl_addSquare hlength 0
  · left
    refine ⟨xs, ys, hxs, hys, ?_⟩
    rw [hsum, zero_add]
    rfl
  · right
    refine ⟨hnone, ?_⟩
    obtain h | h := hsum
    · rw [h]
      exact .inl rfl
    · rw [h]
      exact .inr rfl

end Euclid

section Scan

/-- A property of the number that a float is. -/
def Holds (P : ℝ → Prop) (d : Extended ℝ) : Prop := ∃ x, d = .finite x ∧ P x

/-- The smaller distances have the property too. -/
def Downward (P : ℝ → Prop) : Prop := ∀ x y, x ≤ y → P y → P x

noncomputable def closer (best distance : Extended ℝ) : Extended ℝ :=
  if lt distance best then distance else best

/-- The search for the nearest row without its early exit. -/
noncomputable def exhaustive (vector : List (Extended ℝ)) (reals : List (List (Extended ℝ))) :
    Extended ℝ :=
  (reals.map (euclidean vector)).foldl closer inf

/-- A distance, or infinity for a search that has found none. -/
def Candidate (d : Extended ℝ) : Prop := d = .infinite false ∨ ∃ x, 0 ≤ x ∧ d = .finite x

/-- What `euclidean` can give. -/
def Distance (d : Extended ℝ) : Prop := Unmeasured d ∨ ∃ x, 0 ≤ x ∧ d = .finite x

theorem closer_unmeasured {best d : Extended ℝ} (hbest : Candidate best) (h : Unmeasured d) :
    closer best d = best := by
  have hlt : lt d best = false := by
    obtain rfl | rfl := h <;> obtain rfl | ⟨x, -, rfl⟩ := hbest <;> rfl
  rw [closer, hlt]
  rfl

theorem closer_infinite (x : ℝ) : closer (.infinite false) (.finite x) = .finite x := rfl

theorem closer_finite (x y : ℝ) :
    closer (.finite y) (.finite x) = .finite (if x < y then x else y) := by
  have hlt : lt (Extended.finite x) (.finite y) = decide (x < y) := rfl
  rw [closer, hlt]
  by_cases h : x < y
  · simp [h]
  · simp [h]

theorem candidate_closer {best d : Extended ℝ} (hbest : Candidate best) (hd : Distance d) :
    Candidate (closer best d) := by
  obtain h | ⟨x, hx, rfl⟩ := hd
  · rwa [closer_unmeasured hbest h]
  · obtain rfl | ⟨y, hy, rfl⟩ := hbest
    · exact .inr ⟨x, hx, rfl⟩
    · rw [closer_finite]
      refine .inr ⟨_, ?_, rfl⟩
      split
      · exact hx
      · exact hy

theorem holds_finite {P : ℝ → Prop} {x : ℝ} : Holds P (.finite x) ↔ P x := by
  constructor
  · rintro ⟨y, heq, hy⟩
    injection heq with heq
    rwa [heq]
  · exact fun h => ⟨x, rfl, h⟩

theorem not_holds_unmeasured {P : ℝ → Prop} {d : Extended ℝ} (h : Unmeasured d) : ¬ Holds P d := by
  rintro ⟨x, rfl, -⟩
  obtain h | h := h <;> cases h

theorem holds_closer {P : ℝ → Prop} (hP : Downward P) {best d : Extended ℝ} (hbest : Candidate best)
    (hd : Distance d) :
    Holds P (closer best d) ↔ Holds P best ∨ Holds P d := by
  obtain h | ⟨x, -, rfl⟩ := hd
  · rw [closer_unmeasured hbest h, or_iff_left (not_holds_unmeasured h)]
  · obtain rfl | ⟨y, -, rfl⟩ := hbest
    · rw [closer_infinite, or_iff_right (not_holds_unmeasured (.inl rfl))]
    · rw [closer_finite, holds_finite, holds_finite, holds_finite]
      split
      · next h => exact ⟨.inr, fun hxy => hxy.elim (hP x y h.le) id⟩
      · next h => exact ⟨.inl, fun hxy => hxy.elim id (hP y x (not_lt.mp h))⟩

theorem foldl_closer {ds : List (Extended ℝ)} (hds : ∀ d ∈ ds, Distance d) {best : Extended ℝ}
    (hbest : Candidate best) :
    Candidate (ds.foldl closer best) ∧ ∀ P, Downward P →
      (Holds P (ds.foldl closer best) ↔ Holds P best ∨ ∃ d ∈ ds, Holds P d) := by
  induction ds generalizing best with
  | nil => exact ⟨hbest, fun P _ => by simp⟩
  | cons d ds ih =>
    obtain ⟨hd, hds⟩ := List.forall_mem_cons.mp hds
    obtain ⟨hcandidate, hholds⟩ := ih hds (candidate_closer hbest hd)
    refine ⟨hcandidate, fun P hP => ?_⟩
    rw [List.foldl_cons, hholds P hP, holds_closer hP hbest hd, or_assoc]
    simp only [List.mem_cons, exists_eq_or_imp]

theorem distance_euclidean {a b : List (Extended ℝ)} (hlength : a.length = b.length) :
    Distance (euclidean a b) := by
  obtain ⟨xs, ys, -, -, h⟩ | ⟨-, h⟩ := euclidean_cases hlength
  · exact .inr ⟨_, Real.sqrt_nonneg _, h⟩
  · exact .inl h

/-- Nothing is closer than a row at distance zero. -/
theorem foldl_closer_zero {ds : List (Extended ℝ)} (hds : ∀ d ∈ ds, Distance d) :
    ds.foldl closer (.finite 0) = .finite 0 := by
  induction ds with
  | nil => rfl
  | cons d ds ih =>
    obtain ⟨hd, hds⟩ := List.forall_mem_cons.mp hds
    have hzero : closer (.finite 0) d = .finite 0 := by
      obtain h | ⟨x, hx, rfl⟩ := hd
      · exact closer_unmeasured (.inr ⟨0, le_rfl, rfl⟩) h
      · rw [closer_finite, if_neg (not_lt.mpr hx)]
    rw [List.foldl_cons, hzero, ih hds]

theorem beq_zero_iff {d : Extended ℝ} : beq d (ofInt 0) = true ↔ d = .finite 0 := by
  have hzero : (ofInt 0 : Extended ℝ) = .finite 0 := congrArg Extended.finite Int.cast_zero
  rw [hzero]
  cases d with
  | finite x =>
    rw [Extended.finite.injEq]
    exact decide_eq_true_iff
  | infinite a => exact iff_of_false nofun nofun
  | nan => exact iff_of_false nofun nofun

/-- The early exit does not change what is found. -/
theorem nearest_eq {vector : List (Extended ℝ)} {reals : List (List (Extended ℝ))}
    (hlength : ∀ real ∈ reals, vector.length = real.length) (best : Extended ℝ) :
    nearest vector best reals = (reals.map (euclidean vector)).foldl closer best := by
  induction reals generalizing best with
  | nil => rfl
  | cons real reals ih =>
    obtain ⟨hreal, hreals⟩ := List.forall_mem_cons.mp hlength
    rw [nearest, List.map_cons, List.foldl_cons]
    by_cases hlt : lt (euclidean vector real) best = true
    · have hcloser : closer best (euclidean vector real) = euclidean vector real := if_pos hlt
      rw [hcloser]
      simp only [hlt, if_true]
      split
      · next hzero =>
        rw [beq_zero_iff.mp hzero, foldl_closer_zero]
        intro d hd
        obtain ⟨other, hother, rfl⟩ := List.mem_map.mp hd
        exact distance_euclidean (hreals other hother)
      · exact ih hreals _
    · have hcloser : closer best (euclidean vector real) = best := if_neg hlt
      rw [hcloser, if_neg hlt]
      exact ih hreals best

end Scan

section Rows

variable (columns : List Text) (real : List IdentifiedRow)

noncomputable def vector (row : IdentifiedRow) : List (Extended ℝ) := rowVector columns row

/-- Two rows whose features are all finite lie at this Euclidean distance. -/
def LieAt (row other : IdentifiedRow) (d : ℝ) : Prop :=
  ∃ xs ys, finiteVector (vector columns row) =
    some xs ∧ finiteVector (vector columns other) = some ys ∧
    d = euclideanDistance xs ys

/-- A real row at such a distance, or none at a finite one. -/
def Near (P : ℝ → Prop) (row : IdentifiedRow) : Prop :=
  (∃ other ∈ real, ∃ d, LieAt columns row other d ∧ P d) ∨
    ∀ other ∈ real, ∀ d, ¬ LieAt columns row other d

noncomputable def closest (row : IdentifiedRow) : Extended ℝ :=
  distanceToClosest (real.map (vector columns)) (vector columns row)

variable {columns real} {row other : IdentifiedRow}

theorem length_vector : (vector columns row).length = (vector columns other).length := by
  rw [vector, vector, rowVector, rowVector, List.length_map, List.length_map]

theorem holds_euclidean_iff {P : ℝ → Prop} :
    Holds P (euclidean (vector columns row) (vector columns other)) ↔
      ∃ d, LieAt columns row other d ∧ P d := by
  have hlength : (vector columns row).length = (vector columns other).length := length_vector
  obtain ⟨xs, ys, hxs, hys, heuclidean⟩ | ⟨hnone, hunmeasured⟩ := euclidean_cases hlength
  · rw [heuclidean, holds_finite]
    constructor
    · exact fun h => ⟨_, ⟨xs, ys, hxs, hys, rfl⟩, h⟩
    · rintro ⟨d, ⟨xs', ys', hxs', hys', rfl⟩, h⟩
      obtain rfl := Option.some.inj (hxs.symm.trans hxs')
      obtain rfl := Option.some.inj (hys.symm.trans hys')
      exact h
  · refine iff_of_false (not_holds_unmeasured hunmeasured) ?_
    rintro ⟨d, ⟨xs, ys, hxs, hys, -⟩, -⟩
    obtain h | h := hnone
    · rw [h] at hxs
      cases hxs
    · rw [h] at hys
      cases hys

theorem length_vectors {real : List IdentifiedRow} : ∀ v ∈ real.map (vector columns),
    (vector columns row).length = v.length := by
  intro v hv
  obtain ⟨other, -, rfl⟩ := List.mem_map.mp hv
  exact length_vector

theorem closest_eq : closest columns real row =
    if Extended.isInf (exhaustive (vector columns row) (real.map (vector columns))) then .finite 0
    else exhaustive (vector columns row) (real.map (vector columns)) := by
  have hzero : (ofInt 0 : Extended ℝ) = .finite 0 := congrArg Extended.finite Int.cast_zero
  rw [exhaustive, ← nearest_eq length_vectors, ← hzero]
  rfl

theorem exhaustive_spec (columns : List Text) (real : List IdentifiedRow) (row : IdentifiedRow) :
    Candidate (exhaustive (vector columns row) (real.map (vector columns))) ∧ ∀ P, Downward P →
      (Holds P (exhaustive (vector columns row) (real.map (vector columns))) ↔
        ∃ other ∈ real, ∃ d, LieAt columns row other d ∧ P d) := by
  have hdistances : ∀ d ∈ (real.map (vector columns)).map (euclidean (vector columns row)),
      Distance d := by
    intro d hd
    obtain ⟨v, hv, rfl⟩ := List.mem_map.mp hd
    exact distance_euclidean (length_vectors v hv)
  have hinf : (inf : Extended ℝ) = .infinite false := rfl
  obtain ⟨hcandidate, hholds⟩ := foldl_closer hdistances (.inl hinf)
  refine ⟨hcandidate, fun P hP => (hholds P hP).trans ?_⟩
  rw [or_iff_right (not_holds_unmeasured (.inl hinf))]
  simp only [List.mem_map, exists_exists_and_eq_and, holds_euclidean_iff]

/-- The distance to the closest row, zero for a row that lies at no finite distance. -/
theorem closest_spec (columns : List Text) (real : List IdentifiedRow) (row : IdentifiedRow) :
    ∃ x, closest columns real row = .finite x ∧ 0 ≤ x ∧
      ∀ P, Downward P → P 0 → (P x ↔ Near columns real P row) := by
  obtain ⟨hcandidate, hfound⟩ := exhaustive_spec columns real row
  rw [closest_eq]
  generalize exhaustive (vector columns row) (real.map (vector columns)) =
    found at hcandidate hfound ⊢
  have hsomewhere := hfound (fun _ => True) fun _ _ _ _ => trivial
  obtain rfl | ⟨x, hx, rfl⟩ := hcandidate
  · refine ⟨0, rfl, le_rfl, fun P _ hzero => iff_of_true hzero (.inr fun other hother d hd => ?_)⟩
    exact not_holds_unmeasured (.inl rfl) (hsomewhere.mpr ⟨other, hother, d, hd, trivial⟩)
  · refine ⟨x, rfl, hx, fun P hP _ => ?_⟩
    rw [← holds_finite (P := P), hfound P hP, Near]
    refine ⟨.inl, fun h => h.elim id fun hnothing => ?_⟩
    obtain ⟨other, hother, d, hd, -⟩ := hsomewhere.mp (holds_finite.mpr trivial)
    exact absurd hd (hnothing other hother d)

theorem le_closest_iff {e : ℝ} (he : 0 ≤ e) :
    ScoreLike.le (closest columns real row) (.finite e) = true ↔ Near columns real (· ≤ e) row := by
  obtain ⟨x, hx, -, hspec⟩ := closest_spec columns real row
  rw [hx, ← hspec (· ≤ e) (fun _ _ => le_trans) he]
  exact decide_eq_true_iff

/-- A row with a feature that is not finite is near everything. -/
theorem near_of_not_finite {P : ℝ → Prop} (h : finiteVector (vector columns row) = none) :
    Near columns real P row := by
  refine .inr fun other _ d hd => ?_
  obtain ⟨xs, ys, hxs, -, -⟩ := hd
  rw [h] at hxs
  cases hxs

theorem euclideanDistance_self (xs : List ℝ) : euclideanDistance xs xs = 0 := by
  have hzero : ((xs.zip xs).map fun pair => (pair.1 - pair.2) ^ 2).sum = 0 := by
    induction xs with
    | nil => rfl
    | cons x xs ih => simp [ih]
  rw [euclideanDistance, hzero, Real.sqrt_zero]

/-- A row with the features of a real row is near. -/
theorem near_of_vector_eq {P : ℝ → Prop} (hzero : P 0) (hother : other ∈ real)
    (h : vector columns row = vector columns other) : Near columns real P row := by
  cases hfinite : finiteVector (vector columns row) with
  | none => exact near_of_not_finite hfinite
  | some xs =>
    have hsame : LieAt columns row other 0 :=
      ⟨xs, xs, hfinite, h ▸ hfinite, (euclideanDistance_self xs).symm⟩
    exact .inl ⟨other, hother, 0, hsame, hzero⟩

end Rows

section Gates

variable {columns : List Text} {synthetic real : List IdentifiedRow} {T e : ℝ}

noncomputable def metrics (columns : List Text) (synthetic real : List IdentifiedRow) :
    DcrMetrics (Extended ℝ) :=
  computeDcr columns synthetic real

/-- The DCR gate for a threshold `T`, under an epsilon `e`. -/
noncomputable def dcr (columns : List Text) (synthetic real : List IdentifiedRow) (T e : ℝ) :
    CandidateValidationGate :=
  dcrGate (metrics columns synthetic real) ⟨.finite e, .finite T⟩

noncomputable def neighbor (columns : List Text) (synthetic real : List IdentifiedRow) (T e : ℝ) :
    CandidateValidationGate :=
  nearestNeighborPrivacyGate (metrics columns synthetic real) ⟨.finite e, .finite T⟩

/-- Too close for the DCR gate. -/
def TooClose (T d : ℝ) : Prop := d < T ∨ d ≤ 1 / 10 ^ 9

theorem downward_lt (T : ℝ) : Downward (· < T) := fun _ _ => lt_of_le_of_lt

theorem distances_metrics :
    (metrics columns synthetic real).distances = synthetic.map (closest columns real) := rfl

theorem lt_minimum_iff (hne : synthetic ≠ []) :
    lt (metrics columns synthetic real).minimum (.finite T) = true ↔
      ∃ row ∈ synthetic, Holds (· < T) (closest columns real row) := by
  have hcandidate : ∀ row, Candidate (closest columns real row) := by
    intro row
    obtain ⟨x, hx, hnonneg, -⟩ := closest_spec columns real row
    exact .inr ⟨x, hnonneg, hx⟩
  obtain ⟨row, rows, rfl⟩ := List.exists_cons_of_ne_nil hne
  have hminimum : (metrics columns (row :: rows) real).minimum =
      (rows.map (closest columns real)).foldl closer (closest columns real row) := rfl
  have hdistances : ∀ d ∈ rows.map (closest columns real), Distance d := by
    intro d hd
    obtain ⟨other, -, rfl⟩ := List.mem_map.mp hd
    obtain ⟨x, hx, hnonneg, -⟩ := closest_spec columns real other
    exact .inr ⟨x, hnonneg, hx⟩
  obtain ⟨hfound, hholds⟩ := foldl_closer hdistances (hcandidate row)
  have hlt : ∀ d, Candidate d → (lt d (.finite T) = true ↔ Holds (· < T) d) := by
    rintro d (rfl | ⟨x, -, rfl⟩)
    · exact iff_of_false nofun (not_holds_unmeasured (.inl rfl))
    · rw [holds_finite]
      exact decide_eq_true_iff
  rw [hminimum, hlt _ hfound, hholds _ (downward_lt T)]
  simp

theorem dcrGate_failed_iff (hne : synthetic ≠ []) :
    (dcr columns synthetic real T e).status = .failed ↔
      ∃ row ∈ synthetic, Near columns real (TooClose T) row := by
  have hstatus : (dcr columns synthetic real T e).status = .failed ↔
      lt (metrics columns synthetic real).minimum (.finite T) = true ∨
        0 < (metrics columns synthetic real).belowEpsilon := by
    rw [dcr, dcrGate]
    split
    · next h => exact iff_of_true rfl h
    · next h => exact iff_of_false (fun h => by cases h) h
  have hbelow : 0 < (metrics columns synthetic real).belowEpsilon ↔
      ∃ row ∈ synthetic, Holds (· ≤ 1 / 10 ^ 9) (closest columns real row) := by
    have hcount : (metrics columns synthetic real).belowEpsilon =
        (synthetic.map (closest columns real)).countP fun d =>
          ScoreLike.le d (ScoreLike.decimal 1 9) := rfl
    rw [hcount, List.countP_pos_iff]
    simp only [List.mem_map, exists_exists_and_eq_and]
    refine exists_congr fun row => and_congr_right fun _ => ?_
    obtain ⟨x, hx, -, -⟩ := closest_spec columns real row
    have hepsilon : (ScoreLike.decimal 1 9 : Extended ℝ) = .finite (1 / 10 ^ 9) :=
      congrArg Extended.finite (by norm_num [ScoreLike.decimal, decimalReal])
    rw [hx, hepsilon, holds_finite]
    exact decide_eq_true_iff
  rw [hstatus, lt_minimum_iff hne, hbelow, ← exists_or]
  refine exists_congr fun row => ?_
  obtain ⟨x, hx, -, hspec⟩ := closest_spec columns real row
  rw [hx, holds_finite, holds_finite, ← and_or_left]
  refine and_congr_right fun _ => hspec (TooClose T) (fun a b hab => ?_) (.inr (by positivity))
  exact Or.imp (lt_of_le_of_lt hab) (le_trans hab)

theorem findings_eq (he : 0 ≤ e) :
    ((metrics columns synthetic real).distances.countP fun d => ScoreLike.le d (.finite e)) =
      synthetic.countP fun row => decide (Near columns real (· ≤ e) row) := by
  rw [distances_metrics, List.countP_map]
  refine List.countP_congr fun row _ => ?_
  rw [Function.comp_apply, le_closest_iff he, decide_eq_true_iff]

theorem neighborGate_spec (he : 0 ≤ e) :
    (neighbor columns synthetic real T e).findingsCount =
        (synthetic.countP fun row => decide (Near columns real (· ≤ e) row)) ∧
      ((neighbor columns synthetic real T e).status = .failed ↔
        ∃ row ∈ synthetic, Near columns real (· ≤ e) row) := by
  rw [neighbor, nearestNeighborPrivacyGate]
  dsimp only
  rw [findings_eq he]
  split
  · next hnone =>
    refine ⟨hnone.symm, iff_of_false (fun h => by cases h) ?_⟩
    rintro ⟨row, hrow, hnear⟩
    exact List.countP_eq_zero.mp hnone row hrow (decide_eq_true hnear)
  · next hsome =>
    refine ⟨rfl, iff_of_true rfl ?_⟩
    obtain ⟨row, hrow, hnear⟩ := List.countP_pos_iff.mp (Nat.pos_of_ne_zero hsome)
    exact ⟨row, hrow, of_decide_eq_true hnear⟩

theorem exactDuplicate_failed (h : (exactDuplicateGate columns synthetic real).status = .failed) :
    ∃ row ∈ synthetic, ∃ other ∈ real, signature columns row.1 = signature columns other.1 := by
  rw [exactDuplicateGate] at h
  split at h
  · cases h
  · next hsome =>
    obtain ⟨row, hrow, hmem⟩ := List.countP_pos_iff.mp (Nat.pos_of_ne_zero hsome)
    obtain ⟨other, hother, heq⟩ := List.mem_map.mp (of_decide_eq_true hmem)
    exact ⟨row, hrow, other, hother, heq.symm⟩

theorem vector_congr {row other : IdentifiedRow}
    (h : rowBytes columns row.1 = rowBytes columns other.1) :
    vector columns row = vector columns other :=
  List.map_congr_left fun column hcolumn => by rw [cell_of_rowBytes_eq h hcolumn]

/-- The metrics of a scan without early exit. -/
noncomputable def exhaustiveDcr (columns : List Text) (synthetic real : List IdentifiedRow) :
    DcrMetrics (Extended ℝ) :=
  let distances := synthetic.map fun row =>
    let distance := exhaustive (vector columns row) (real.map (vector columns))
    if Extended.isInf distance then .finite 0 else distance
  { distances := distances
    minimum := match distances with
      | [] => ofInt 0
      | d :: ds => minBy lt id d ds
    belowEpsilon := distances.countP fun d => ScoreLike.le d (ScoreLike.decimal 1 9) }

theorem metrics_eq : metrics columns synthetic real = exhaustiveDcr columns synthetic real := by
  have hdistances : synthetic.map (closest columns real) = synthetic.map fun row =>
      let distance := exhaustive (vector columns row) (real.map (vector columns))
      if Extended.isInf distance then .finite 0 else distance :=
    List.map_congr_left fun row _ => closest_eq
  rw [exhaustiveDcr, ← hdistances]
  cases synthetic with
  | nil => rfl
  | cons row rows => rfl

/-- The digests tell the features of a synthetic row from those of a real one. -/
def DigestsApart (columns : List Text) (synthetic real : List IdentifiedRow) : Prop :=
  ∀ row ∈ synthetic, ∀ other ∈ real, signature columns row.1 = signature columns other.1 →
    rowBytes columns row.1 = rowBytes columns other.1

/-- What the three privacy gates decide. -/
structure Decides (columns : List Text) (synthetic real : List IdentifiedRow) (T e : ℝ) : Prop where
  scan : metrics columns synthetic real = exhaustiveDcr columns synthetic real
  dcr_iff : (dcr columns synthetic real T e).status = .failed ↔
    ∃ row ∈ synthetic, Near columns real (TooClose T) row
  neighbor_iff : (neighbor columns synthetic real T e).status = .failed ↔
    ∃ row ∈ synthetic, Near columns real (· ≤ e) row
  findings : (neighbor columns synthetic real T e).findingsCount =
    synthetic.countP fun row => decide (Near columns real (· ≤ e) row)
  duplicate : DigestsApart columns synthetic real →
    (exactDuplicateGate columns synthetic real).status = .failed →
    (dcr columns synthetic real T e).status = .failed ∧
      (neighbor columns synthetic real T e).status = .failed
  notFinite : ∀ row ∈ synthetic, finiteVector (vector columns row) = none →
    (dcr columns synthetic real T e).status = .failed ∧
      (neighbor columns synthetic real T e).status = .failed

theorem both_failed (hne : synthetic ≠ []) (he : 0 ≤ e) {row : IdentifiedRow}
    (hrow : row ∈ synthetic) (hnear : ∀ P : ℝ → Prop, P 0 → Near columns real P row) :
    (dcr columns synthetic real T e).status = .failed ∧
      (neighbor columns synthetic real T e).status = .failed := by
  constructor
  · exact (dcrGate_failed_iff hne).mpr ⟨row, hrow, hnear _ (.inr (by positivity))⟩
  · exact (neighborGate_spec he).2.mpr ⟨row, hrow, hnear _ he⟩

theorem privacy_gates_decide (hne : synthetic ≠ []) (he : 0 ≤ e) :
    Decides columns synthetic real T e where
  scan := metrics_eq
  dcr_iff := dcrGate_failed_iff hne
  neighbor_iff := (neighborGate_spec he).2
  findings := (neighborGate_spec he).1
  duplicate hapart h := by
    obtain ⟨row, hrow, other, hother, hsame⟩ := exactDuplicate_failed h
    have hvector := vector_congr (hapart row hrow other hother hsame)
    exact both_failed hne he hrow fun P hzero => near_of_vector_eq hzero hother hvector
  notFinite row hrow h := both_failed hne he hrow fun P _ => near_of_not_finite h

/-- A row with one feature. -/
def featureRow (text : Text) : IdentifiedRow := identify ([("x".toList, text)], 0)

theorem privacy_gates_decide_words :
    Decides ["x".toList] [featureRow "one".toList] [featureRow "1".toList] 1 0 :=
  privacy_gates_decide (List.cons_ne_nil _ _) le_rfl

/-- A row at infinity is as close as can be. -/
theorem infinite_row_too_close :
    ¬ ((dcr ["x".toList] [featureRow "inf".toList] [featureRow "1".toList] 1 0).status = .failed ↔
      ∃ row ∈ [featureRow "inf".toList], ∃ other ∈ [featureRow "1".toList],
        ∃ d, LieAt ["x".toList] row other d ∧ TooClose 1 d) := by
  have hparse : (parse "inf".toList : Option (Extended ℝ)) = some (.infinite false) := rfl
  have hinfinite : finiteVector (vector ["x".toList] (featureRow "inf".toList)) = none := by
    have hcell : cell "x".toList (featureRow "inf".toList).1 = "inf".toList := by decide +kernel
    rw [vector, rowVector, List.map_singleton, hcell, hparse]
    rfl
  intro hiff
  have hfailed : (dcr ["x".toList] [featureRow "inf".toList] [featureRow "1".toList] 1 0).status =
      .failed :=
    (dcrGate_failed_iff (List.cons_ne_nil _ _)).mpr
      ⟨_, List.mem_singleton_self _, near_of_not_finite hinfinite⟩
  obtain ⟨row, hrow, other, -, d, ⟨xs, ys, hxs, -, -⟩, -⟩ := hiff.mp hfailed
  rw [List.mem_singleton.mp hrow, hinfinite] at hxs
  cases hxs

end Gates

end DataForge.Plugins.Validation.SyntheticPrivacy
