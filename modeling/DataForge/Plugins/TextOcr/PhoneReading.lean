import DataForge.Plugins.TextOcr.Patterns

namespace DataForge.Plugins.TextOcr.PhoneReading

open DataForge.Foundation.Strings
open DataForge.Foundation.Features
open DataForge.Foundation.Backtracking
open DataForge.Foundation.Backtracking.Regex
open DataForge.Plugins.TextOcr.Patterns

section Units

variable {c d : Cursor}

theorem isDigit_iff {x : Char} :
    isDigit x = true ↔ ∃ n ∈ decimalZeros, n ≤ x.toNat ∧ x.toNat < n + 10 := by
  rw [isDigit, decimalDigit, Option.isSome_map, List.find?_isSome]
  simp

/-- The spaces and the digits lie in different parts of the character table. -/
theorem decimalZeros_apart : ∀ n ∈ decimalZeros,
    n = 48 ∨ 1632 ≤ n ∧ n + 10 ≤ 0x1680 ∨ 0x1680 < n ∧ n + 10 ≤ 0x2000 ∨ 0x3000 < n := by
  decide

theorem isDigit_of_isSeparator {x : Char} (h : isSeparator x = true) : isDigit x = false := by
  rw [Bool.eq_false_iff]
  intro hdigit
  obtain ⟨n, hn, hle, hlt⟩ := isDigit_iff.mp hdigit
  have hapart := decimalZeros_apart n hn
  rcases Bool.or_eq_true_iff.mp h with h | h
  · simp only [isSpace, isWhiteSpace, Bool.or_eq_true, Bool.and_eq_true, decide_eq_true_eq] at h
    omega
  · have hmark : ∀ y ∈ "().-".toList, y.toNat < 48 := by decide
    have := hmark x (of_decide_eq_true h)
    omega

/-- The texts that one unit of a phone number reads. -/
def IsUnit (u : Text) : Prop :=
  ∃ p x s, (p = [] ∨ p = ['+']) ∧ isDigit x = true ∧ (∀ y ∈ s, isSeparator y = true) ∧
    u = p ++ x :: s

theorem mem_ends_sign : d ∈ (opt (oneOf "+")).ends c ↔ ∃ p, (p = [] ∨ p = ['+']) ∧ c.Reads p d := by
  rw [mem_ends_opt, oneOf, mem_ends_char]
  constructor
  · rintro (⟨x, hx, h⟩ | rfl)
    · have hplus : x = '+' := by simpa using hx
      exact ⟨['+'], .inr rfl, hplus ▸ h⟩
    · exact ⟨[], .inl rfl, d.reads_nil⟩
  · rintro ⟨p, rfl | rfl, h⟩
    · exact .inr (h.unique c.reads_nil (by rw [h.place_eq]; rfl)).2
    · exact .inl ⟨'+', by decide, h⟩

theorem mem_ends_phoneUnit : d ∈ phoneUnit.ends c ↔ ∃ u, IsUnit u ∧ c.Reads u d := by
  simp only [phoneUnit, all, mem_ends_seq, mem_ends_sign, digit, mem_ends_char, mem_ends_star_char]
  constructor
  · rintro ⟨m, ⟨p, hp, hm⟩, e, ⟨x, hx, he⟩, s, hs, h⟩
    exact ⟨p ++ ([x] ++ s), ⟨p, x, s, hp, hx, hs, rfl⟩, hm.trans (he.trans h)⟩
  · rintro ⟨u, ⟨p, x, s, hp, hx, hs, rfl⟩, h⟩
    obtain ⟨m, hm, h⟩ := h.split
    obtain ⟨e, he, h⟩ := Cursor.Reads.split (x := [x]) h
    exact ⟨m, ⟨p, hp, hm⟩, e, ⟨x, hx, he⟩, s, hs, h⟩

theorem productive_phoneUnit : phoneUnit.Productive := by
  intro c d h
  obtain ⟨u, ⟨p, x, s, -, -, -, rfl⟩, hu⟩ := mem_ends_phoneUnit.mp h
  have := hu.place_eq
  rw [List.length_append, List.length_cons] at this
  omega

theorem ends_phoneUnit_of_isSeparator (h : c.right.head?.any isSeparator = true) :
    phoneUnit.ends c = [] := by
  rw [List.eq_nil_iff_forall_not_mem]
  intro d hd
  obtain ⟨u, ⟨p, x, s, hp, hx, -, rfl⟩, hu⟩ := mem_ends_phoneUnit.mp hd
  rw [hu.1] at h
  rcases hp with rfl | rfl
  · have hdigit := isDigit_of_isSeparator (x := x) (by simpa using h)
    rw [hx] at hdigit
    cases hdigit
  · have hplus : isSeparator '+' = false := by decide
    rw [show isSeparator '+' = true by simpa using h] at hplus
    cases hplus

/-- The longest unit comes first, and after a shorter one comes a separator, where no
unit starts. -/
theorem pairwise_ends_phoneUnit (c : Cursor) :
    (phoneUnit.ends c).Pairwise fun a b => b.place ≤ a.place ∧ phoneUnit.ends b = [] := by
  have htail : ∀ c, ((seq digit (star (char isSeparator))).ends c).Pairwise
      fun a b => b.place ≤ a.place ∧ phoneUnit.ends b = [] := by
    intro c
    rw [ends, digit]
    rcases ends_char_cases isDigit c with h | ⟨x, d, -, h, -⟩
    · rw [h]
      exact List.Pairwise.nil
    · rw [h, List.flatMap_singleton]
      exact (pairwise_ends_star_char isSeparator d).imp fun hab =>
        ⟨hab.1, ends_phoneUnit_of_isSeparator hab.2⟩
  have hends : phoneUnit.ends c =
      ((oneOf "+").ends c).flatMap (seq digit (star (char isSeparator))).ends ++
      (seq digit (star (char isSeparator))).ends c := ends_opt_seq _ _ c
  rw [hends, oneOf]
  rcases ends_char_cases (fun x => decide (x ∈ "+".toList)) c with h | ⟨x, d, hx, h, hread⟩
  · rw [h]
    exact htail c
  · obtain rfl : x = '+' := by simpa using hx
    have hnone : (seq digit (star (char isSeparator))).ends c = [] := by
      rw [ends, digit]
      rcases ends_char_cases isDigit c with h | ⟨y, e, hy, -, hread'⟩
      · rw [h]
        rfl
      · obtain rfl : '+' = y := (List.cons.inj (hread.1.symm.trans hread'.1)).1
        exact absurd hy (by decide)
    rw [h, hnone, List.append_nil, List.flatMap_singleton]
    exact htail d

theorem greedy_phonePattern : phonePattern.Greedy := by
  refine Greedy.look_seq (Greedy.seq_steady (k := 1) (greedy_atLeast pairwise_ends_phoneUnit 9) ?_)
  intro c d h
  obtain ⟨m, hm, h⟩ := mem_ends_seq.mp h
  obtain ⟨x, -, hx⟩ := mem_ends_char.mp hm
  rw [(mem_ends_look.mp h).2, hx.place_eq]
  rfl

end Units

section Readings

/-- How far the reading of a phone number has come: nothing is read, a unit is read up to
its separators, or a sign waits for its digit. -/
inductive Reading where
  | start
  | inside
  | sign
  deriving DecidableEq, Repr

def next : Reading → Char → Option Reading
  | .start, x => if isDigit x then some .inside else if x = '+' then some .sign else none
  | .inside, x =>
    if isDigit x || isSeparator x then some .inside else if x = '+' then some .sign else none
  | .sign, x => if isDigit x then some .inside else none

/-- What is read after a text, where units of a phone number can be read there. -/
def read (q : Reading) (u : Text) : Option Reading := u.foldlM next q

variable {c d e : Cursor} {q : Reading} {u v : Text}

theorem read_append (q : Reading) (u v : Text) :
    read q (u ++ v) = (read q u).bind fun q' => read q' v :=
  List.foldlM_append

theorem next_of_isDigit {x : Char} (h : isDigit x = true) (q : Reading) :
    next q x = some .inside := by
  cases q with
  | start => exact if_pos h
  | inside => exact if_pos (by rw [h, Bool.true_or])
  | sign => exact if_pos h

theorem read_digits {w : Text} (hw : ∀ x ∈ w, isDigit x = true) (hne : w ≠ []) (q : Reading) :
    read q w = some .inside := by
  induction w generalizing q with
  | nil => exact absurd rfl hne
  | cons x w ih =>
    obtain ⟨hx, hw⟩ := List.forall_mem_cons.mp hw
    have hstep : read q (x :: w) = read .inside w := by
      rw [read, List.foldlM_cons, next_of_isDigit hx]
      rfl
    rw [hstep]
    cases w with
    | nil => rfl
    | cons y w => exact ih hw (List.cons_ne_nil y w) .inside

theorem read_separators {s : Text} (hs : ∀ y ∈ s, isSeparator y = true) :
    read .inside s = some .inside := by
  induction s with
  | nil => rfl
  | cons y s ih =>
    obtain ⟨hy, hs⟩ := List.forall_mem_cons.mp hs
    have hstep : next .inside y = some .inside := if_pos (by rw [hy, Bool.or_true])
    rw [read, List.foldlM_cons, hstep]
    exact ih hs

theorem IsUnit.read_eq (hu : IsUnit u) (hq : q ≠ .sign) : read q u = some .inside := by
  obtain ⟨p, x, s, hp, hx, hs, rfl⟩ := hu
  have hdigit : ∀ q, read q (x :: s) = some .inside := by
    intro q
    rw [read, List.foldlM_cons, next_of_isDigit hx]
    exact read_separators hs
  rcases hp with rfl | rfl
  · exact hdigit q
  · rw [read_append]
    have hsign : read q ['+'] = some .sign := by
      cases q with
      | start => rfl
      | inside => rfl
      | sign => exact absurd rfl hq
    rw [hsign]
    exact hdigit .sign

theorem read_of_iter {n : Nat} (h : Iter phoneUnit n c d) (hq : q ≠ .sign) :
    ∃ u, c.Reads u d ∧ ∃ q', q' ≠ .sign ∧ read q u = some q' := by
  induction h generalizing q with
  | zero c => exact ⟨[], c.reads_nil, q, hq, rfl⟩
  | succ hm _ ih =>
    obtain ⟨u, hu, hreads⟩ := mem_ends_phoneUnit.mp hm
    obtain ⟨v, hv, q', hq', hread⟩ := ih (q := .inside) (by decide)
    refine ⟨u ++ v, hreads.trans hv, q', hq', ?_⟩
    rw [read_append, hu.read_eq hq]
    exact hread

/-- The beginning of a unit that leads to a state. -/
def Begun : Reading → Text → Prop
  | .start, v => v = []
  | .inside, v => IsUnit v
  | .sign, v => v = ['+']

theorem isUnit_of_begun {x : Char} (hv : Begun q v) (hq : q ≠ .inside) (hx : isDigit x = true) :
    IsUnit (v ++ [x]) := by
  cases q with
  | start =>
    obtain rfl : v = [] := hv
    exact ⟨[], x, [], .inl rfl, hx, by simp, rfl⟩
  | inside => exact absurd rfl hq
  | sign =>
    obtain rfl : v = ['+'] := hv
    exact ⟨['+'], x, [], .inr rfl, hx, by simp, rfl⟩

theorem IsUnit.snoc {y : Char} (hu : IsUnit u) (hy : isSeparator y = true) : IsUnit (u ++ [y]) := by
  obtain ⟨p, x, s, hp, hx, hs, rfl⟩ := hu
  refine ⟨p, x, s ++ [y], hp, hx, fun z hz => ?_, by simp⟩
  rcases List.mem_append.mp hz with hz | hz
  · exact hs z hz
  · rw [List.mem_singleton.mp hz]
    exact hy

theorem begun_of_next {q' : Reading} {x : Char} (hv : Begun q v) (h : next q x = some q')
    (hx : q = .inside → isSeparator x = true) : Begun q' (v ++ [x]) := by
  cases q with
  | start =>
    rw [next] at h
    split at h
    · next hdigit =>
      obtain rfl := Option.some.inj h
      exact isUnit_of_begun hv (by decide) hdigit
    · split at h
      · next hsign =>
        obtain rfl := Option.some.inj h
        obtain rfl : v = [] := hv
        rw [hsign]
        rfl
      · cases h
  | inside =>
    rw [next, hx rfl, Bool.or_true, if_pos rfl] at h
    obtain rfl := Option.some.inj h
    exact IsUnit.snoc hv (hx rfl)
  | sign =>
    rw [next] at h
    split at h
    · next hdigit =>
      obtain rfl := Option.some.inj h
      exact isUnit_of_begun hv (by decide) hdigit
    · cases h

theorem next_inside {x : Char} (hx : isSeparator x = false) : next .inside x = next .start x := by
  simp only [next, hx, Bool.or_false]

theorem IsUnit.countP_eq (hu : IsUnit u) : u.countP isDigit = 1 := by
  obtain ⟨p, x, s, hp, hx, hs, rfl⟩ := hu
  have hseparators : s.countP isDigit = 0 := by
    rw [List.countP_eq_zero]
    intro y hy
    rw [isDigit_of_isSeparator (hs y hy)]
    exact Bool.false_ne_true
  have hsign : p.countP isDigit = 0 := by
    rcases hp with rfl | rfl
    · rfl
    · decide
  rw [List.countP_append, hsign, List.countP_cons_of_pos hx, hseparators]

/-- A text that is read up to a full unit is a repetition of units, one for each digit. -/
theorem iter_of_read (hv : Begun q v) (hstart : e.Reads v c) (hend : c.Reads u d)
    (h : read q u = some .inside) : Iter phoneUnit ((v ++ u).countP isDigit) e d := by
  induction u generalizing q v c e with
  | nil =>
    obtain rfl : q = .inside := Option.some.inj h
    obtain rfl : d = c := (hend.unique c.reads_nil (by rw [hend.place_eq]; rfl)).2
    rw [List.append_nil, IsUnit.countP_eq hv]
    exact .succ (mem_ends_phoneUnit.mpr ⟨v, hv, hstart⟩) (.zero d)
  | cons x u ih =>
    obtain ⟨c', hstep, hrest⟩ := Cursor.Reads.split (x := [x]) hend
    obtain ⟨q', hnext, hread⟩ := Option.bind_eq_some_iff.mp h
    by_cases hunit : q = .inside ∧ isSeparator x = false
    · -- the unit is complete, and the character begins another one
      obtain ⟨rfl, hx⟩ := hunit
      rw [next_inside hx] at hnext
      have hbegun : Begun q' [x] := begun_of_next (q := .start) rfl hnext nofun
      rw [List.countP_append, IsUnit.countP_eq hv, Nat.add_comm]
      exact .succ (mem_ends_phoneUnit.mpr ⟨v, hv, hstart⟩) (ih hbegun hstep hrest hread)
    · have hbegun : Begun q' (v ++ [x]) := begun_of_next hv hnext (by simpa using hunit)
      have hiter := ih hbegun (hstart.trans hstep) hrest hread
      rwa [List.append_assoc] at hiter

end Readings

section Matches

variable {c d : Cursor} {u w : Text}

/-- No digit and no dot: a phone number may start after it. -/
def Free (before : Option Char) : Prop := ∀ x ∈ before, isDigit x = false ∧ x ≠ '.'

theorem free_iff (before : Option Char) :
    (!before.any fun x => isDigit x || x = '.') = true ↔ Free before := by
  cases before <;> simp [Free]

theorem read_of_match (h : d ∈ phonePattern.ends c) :
    Free c.left.head? ∧ ∃ u, c.Reads u d ∧ read .start u = some .inside := by
  simp only [phonePattern, all, mem_ends_seq, mem_ends_look, digit, mem_ends_char,
    mem_ends_atLeast productive_phoneUnit] at h
  obtain ⟨m, ⟨hfree, rfl⟩, m', ⟨n, -, hiter⟩, e, ⟨x, hx, he⟩, -, rfl⟩ := h
  obtain ⟨u, hu, q, -, hread⟩ := read_of_iter hiter (q := .start) (by decide)
  refine ⟨(free_iff _).mp hfree, u ++ [x], hu.trans he, ?_⟩
  rw [read_append, hread]
  exact read_digits (by simpa using hx) (List.cons_ne_nil x []) q

theorem match_of_read {x : Char} (hfree : Free c.left.head?) (hreads : c.Reads (u ++ [x]) d)
    (hread : read .start u = some .inside) (hcount : 9 ≤ u.countP isDigit) (hx : isDigit x = true)
    (hlast : ∀ y ∈ d.right.head?, isDigit y = false) : d ∈ phonePattern.ends c := by
  simp only [phonePattern, all, mem_ends_seq, mem_ends_look, digit, mem_ends_char,
    mem_ends_atLeast productive_phoneUnit]
  obtain ⟨m, hm, hd⟩ := hreads.split
  have hiter := iter_of_read (q := .start) (v := []) rfl c.reads_nil hm hread
  refine ⟨c, ⟨(free_iff _).mpr hfree, rfl⟩, m, ⟨_, hcount, hiter⟩, d, ⟨x, hx, hd⟩, ?_, rfl⟩
  cases hnext : d.right.head? with
  | none => rfl
  | some y => simp [hlast y hnext]

/-- The digits that a run and the text after it begin with, the last one apart. -/
theorem exists_run (hw : ∀ x ∈ w, isDigit x = true) (hne : w ≠ []) (post : Text) :
    ∃ v x rest, w ++ post = v ++ [x] ++ rest ∧ w.length ≤ v.length + 1 ∧
      (∀ y ∈ v, isDigit y = true) ∧ isDigit x = true ∧ ∀ y ∈ rest.head?, isDigit y = false := by
  have hdigits : ∀ x ∈ w ++ post.takeWhile isDigit, isDigit x = true := by
    intro x hx
    rcases List.mem_append.mp hx with hx | hx
    · exact hw x hx
    · exact List.mem_takeWhile_imp hx
  have hne' : w ++ post.takeWhile isDigit ≠ [] := List.append_ne_nil_of_left_ne_nil hne _
  obtain ⟨v, x, hv⟩ : ∃ v x, w ++ post.takeWhile isDigit = v ++ [x] :=
    ⟨_, _, (List.dropLast_append_getLast hne').symm⟩
  refine ⟨v, x, post.dropWhile isDigit, ?_, ?_, fun y hy => ?_, ?_, fun y hy => ?_⟩
  · rw [← hv, List.append_assoc, List.takeWhile_append_dropWhile]
  · have hlength := congrArg List.length hv
    simp only [List.length_append, List.length_singleton] at hlength
    omega
  · exact hdigits y (hv ▸ List.mem_append_left _ hy)
  · exact hdigits x (hv ▸ List.mem_append_right _ List.mem_cons_self)
  · have hnot := List.head?_dropWhile_not isDigit post
    rw [Option.mem_def.mp hy] at hnot
    simpa using hnot

/-- A match that reaches ten digits in a row takes all of them. -/
theorem exists_firstEnd (b post : Text) (hfree : Free c.left.head?)
    (hright : c.right = b ++ w ++ post)
    (hb : read .start b ≠ none) (hw : ∀ x ∈ w, isDigit x = true) (hlength : 10 ≤ w.length) :
    ∃ d, phonePattern.firstEnd c = some d ∧ c.place + b.length + w.length ≤ d.place := by
  obtain ⟨v, x, rest, hsplit, hle, hv, hx, hlast⟩ :=
    exists_run hw (List.ne_nil_of_length_pos (by omega)) post
  have hreads : c.Reads (b ++ v ++ [x]) ⟨(b ++ v ++ [x]).reverse ++ c.left, rest⟩ := by
    refine ⟨?_, rfl⟩
    rw [hright, List.append_assoc, hsplit, ← List.append_assoc, ← List.append_assoc]
  obtain ⟨q, hq⟩ := Option.ne_none_iff_exists'.mp hb
  have hread : read .start (b ++ v) = some .inside := by
    rw [read_append, hq]
    exact read_digits hv (List.ne_nil_of_length_pos (by omega)) q
  have hcount : 9 ≤ (b ++ v).countP isDigit := by
    rw [List.countP_append, List.countP_eq_length.mpr hv]
    omega
  have hmem := match_of_read hfree hreads hread hcount hx hlast
  obtain ⟨e, he⟩ := Option.ne_none_iff_exists'.mp
    (fun h => List.ne_nil_of_mem hmem (List.head?_eq_none_iff.mp h))
  have hlongest := greedy_phonePattern.le_head hmem he
  have hplace := hreads.place_eq
  simp only [List.length_append, List.length_singleton] at hplace
  refine ⟨e, Option.filter_eq_some_iff.mpr ⟨he, decide_eq_true ?_⟩, ?_⟩
  · omega
  · omega

end Matches

section Reaching

variable {pre w post : Text}

/-- A phone number may start somewhere before the place and be read up to it. -/
def Reached (pre : Text) : Prop := ∃ a b, pre = a ++ b ∧ Free a.getLast? ∧ read .start b ≠ none

theorem read_ne_none_of_append {q : Reading} {u v : Text} (h : read q (u ++ v) ≠ none) :
    read q u ≠ none := by
  intro hu
  rw [read_append, hu] at h
  exact h rfl

theorem next_eq_start {q : Reading} {x : Char} (h : next q x ≠ none)
    (hstart : next .start x ≠ none) : next q x = next .start x := by
  by_cases hx : isDigit x = true
  · rw [next_of_isDigit hx, next_of_isDigit hx]
  · have hplus : x = '+' := by
      by_contra hplus
      exact hstart (by simp [next, hx, hplus])
    subst hplus
    cases q with
    | start => rfl
    | inside => decide
    | sign => exact absurd (by decide) h

/-- What can be read from the start can be read on from a match that goes on here. -/
theorem read_ne_none_of_start {q : Reading} {b u : Text} (h : read .start b ≠ none)
    (hu : read q u ≠ none) (hhead : ∀ x ∈ b.head?, u.head? = some x) : read q b ≠ none := by
  cases b with
  | nil => exact Option.some_ne_none q
  | cons x b =>
    obtain ⟨rest, rfl⟩ := List.head?_eq_some_iff.mp (hhead x rfl)
    have hnext : next q x ≠ none := by
      intro hnone
      rw [read, List.foldlM_cons, hnone] at hu
      exact hu rfl
    have hstart : next .start x ≠ none := by
      intro hnone
      rw [read, List.foldlM_cons, hnone] at h
      exact h rfl
    rw [read, List.foldlM_cons, next_eq_start hnext hstart]
    exact h

theorem match_of_mem_finditer {text : Text} {m : Cursor × Cursor}
    (hm : m ∈ phonePattern.finditer text) :
    ∃ x u, (Cursor.start text).Reads x m.1 ∧ m.1.Reads u m.2 ∧ Free m.1.left.head? ∧
      read .start u = some .inside ∧ phonePattern.firstEnd m.1 = some m.2 := by
  obtain ⟨hfirst, x, hx⟩ := (found_scan phonePattern _ _).matched m hm
  obtain ⟨hhead, -, -⟩ := firstEnd_eq_some hfirst
  obtain ⟨hfree, u, hu, hread⟩ := read_of_match (List.mem_of_mem_head? hhead)
  exact ⟨x, u, hx, hu, hfree, hread, hfirst⟩

theorem reached_of_touched (hw : ∀ x ∈ w, isDigit x = true) {m : Cursor × Cursor}
    (hm : m ∈ phonePattern.finditer (pre ++ w ++ post)) (hstart : m.1.place < pre.length + w.length)
    (hend : pre.length < m.2.place) : Reached pre := by
  obtain ⟨x, u, hx, hu, hfree, hread, -⟩ := match_of_mem_finditer hm
  rw [Cursor.head?_of_reads_start hx] at hfree
  have hplace := Cursor.place_of_reads_start hx
  have hplace' := hu.place_eq
  have htext : pre ++ (w ++ post) = x ++ (u ++ m.2.right) := by
    rw [← hu.1, ← List.append_assoc]
    exact hx.1
  rcases List.append_eq_append_iff.mp htext with ⟨w', rfl, htail⟩ | ⟨b, rfl, htail⟩
  · -- the match starts in the run, after a digit, unless it starts where the run does
    rcases List.eq_nil_or_concat' w' with rfl | ⟨v, y, rfl⟩
    · exact ⟨pre, [], (List.append_nil pre).symm, by simpa using hfree, Option.some_ne_none _⟩
    · have hall : v ++ [y] <+: w ++ post := ⟨_, htail.symm⟩
      have hbegin : v ++ [y] <+: w := by
        refine List.prefix_of_prefix_length_le hall (List.prefix_append w post) ?_
        rw [hplace, List.length_append] at hstart
        omega
      have hy := hw y (hbegin.subset (List.mem_append_right v List.mem_cons_self))
      have hfalse := (hfree y (by simp)).1
      rw [hy] at hfalse
      cases hfalse
  · have hall : b <+: u ++ m.2.right := ⟨_, htail.symm⟩
    have hbegin : b <+: u := by
      refine List.prefix_of_prefix_length_le hall (List.prefix_append u _) ?_
      rw [hplace', hplace, List.length_append] at hend
      omega
    obtain ⟨u', rfl⟩ := hbegin
    refine ⟨x, b, rfl, hfree, read_ne_none_of_append (v := u') ?_⟩
    rw [hread]
    exact Option.some_ne_none _

theorem touched_of_reached (post : Text) (hw : ∀ x ∈ w, isDigit x = true) (hlength : 10 ≤ w.length)
    (h : Reached pre) : ∃ m ∈ phonePattern.finditer (pre ++ w ++ post),
      m.1.place < pre.length + w.length ∧ pre.length < m.2.place := by
  obtain ⟨a, b, rfl, hfree, hb⟩ := h
  have hreads : (Cursor.start (a ++ b ++ w ++ post)).Reads a ⟨a.reverse, b ++ w ++ post⟩ :=
    ⟨by simp [Cursor.start], by simp [Cursor.start]⟩
  rcases scan_covers (r := phonePattern) (Nat.lt_succ_self _) hreads with ⟨m, hm, hle, hlt⟩ | hnone
  · -- a match that has begun earlier goes on at least as far
    obtain ⟨x, u, hx, hu, hfree', hread, hfirst⟩ := match_of_mem_finditer hm
    have hplace := Cursor.place_of_reads_start hx
    have hplace' := hu.place_eq
    simp only [Cursor.place, List.length_reverse] at hle hlt hplace hplace'
    obtain ⟨a', rfl⟩ : x <+: a :=
      List.prefix_of_prefix_length_le ⟨_, hx.1.symm⟩ ⟨_, hreads.1.symm⟩ (by omega)
    rw [List.length_append] at hlt
    have hright : m.1.right = a' ++ (b ++ w ++ post) := by
      have hwhole : x ++ m.1.right = x ++ (a' ++ (b ++ w ++ post)) := by
        rw [← hx.1, ← List.append_assoc x]
        exact hreads.1
      exact List.append_cancel_left hwhole
    obtain ⟨u', rfl⟩ : a' <+: u :=
      List.prefix_of_prefix_length_le ⟨_, hright.symm⟩ ⟨_, hu.1.symm⟩ (by omega)
    rw [read_append] at hread
    obtain ⟨q, hq, hread⟩ := Option.bind_eq_some_iff.mp hread
    have hrest : u' ++ m.2.right = b ++ w ++ post := by
      have hwhole : a' ++ (u' ++ m.2.right) = a' ++ (b ++ w ++ post) := by
        rw [← hright, hu.1, List.append_assoc]
      exact List.append_cancel_left hwhole
    have hne : u' ≠ [] := by
      rintro rfl
      rw [List.append_nil] at hplace'
      omega
    have hb' : read .start (a' ++ b) ≠ none := by
      rw [read_append, hq]
      refine read_ne_none_of_start hb (hread ▸ Option.some_ne_none _) fun y hy => ?_
      have hhead := congrArg List.head? hrest
      rwa [List.head?_append_of_ne_nil _ hne, List.append_assoc, List.head?_append,
        Option.mem_def.mp hy, Option.some_or] at hhead
    obtain ⟨d, hd, hreach⟩ := exists_firstEnd (a' ++ b) post hfree'
      (by rw [hright]; simp) hb' hw hlength
    obtain rfl := Option.some.inj (hfirst.symm.trans hd)
    refine ⟨m, hm, ?_, ?_⟩
    · simp only [Cursor.place, List.length_append]
      omega
    · simp only [Cursor.place, List.length_append] at hreach ⊢
      omega
  · obtain ⟨d, hd, -⟩ := exists_firstEnd (c := ⟨a.reverse, b ++ w ++ post⟩) b post
      (by rwa [List.head?_reverse]) rfl hb hw hlength
    rw [hnone] at hd
    cases hd

/-- The matches of the phone pattern find a run of ten digits exactly where a phone number
may start before it and be read up to it. -/
theorem touched_iff (post : Text) (hw : ∀ x ∈ w, isDigit x = true) (hlength : 10 ≤ w.length) :
    (∃ m ∈ phonePattern.finditer (pre ++ w ++ post),
      m.1.place < pre.length + w.length ∧ pre.length < m.2.place) ↔ Reached pre := by
  constructor
  · rintro ⟨m, hm, hstart, hend⟩
    exact reached_of_touched hw hm hstart hend
  · exact touched_of_reached post hw hlength

end Reaching

end DataForge.Plugins.TextOcr.PhoneReading
