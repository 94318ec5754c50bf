import DataForge.Foundation.Strings
import Mathlib.Data.List.Basic

namespace DataForge.Foundation.Backtracking

open DataForge.Foundation.Strings

/-- A place in a text: what stands before it, the last character first, and what is left. -/
structure Cursor where
  left : Text
  right : Text

namespace Cursor

def start (text : Text) : Cursor := ⟨[], text⟩

def place (c : Cursor) : Nat := c.left.length

/-- The one cursor is reached from the other by reading this text. -/
def Reads (c : Cursor) (x : Text) (d : Cursor) : Prop :=
  c.right = x ++ d.right ∧ d.left = x.reverse ++ c.left

theorem reads_nil (c : Cursor) : c.Reads [] c := ⟨rfl, rfl⟩

theorem Reads.trans {c d e : Cursor} {x y : Text} (h : c.Reads x d) (h' : d.Reads y e) :
    c.Reads (x ++ y) e := by
  refine ⟨?_, ?_⟩
  · rw [h.1, h'.1, List.append_assoc]
  · rw [h'.2, h.2, List.reverse_append, List.append_assoc]

theorem Reads.split {c e : Cursor} {x y : Text} (h : c.Reads (x ++ y) e) :
    ∃ d, c.Reads x d ∧ d.Reads y e := by
  refine ⟨⟨x.reverse ++ c.left, y ++ e.right⟩, ⟨?_, rfl⟩, rfl, ?_⟩
  · rw [h.1, List.append_assoc]
  · rw [h.2, List.reverse_append, List.append_assoc]

theorem Reads.place_eq {c d : Cursor} {x : Text} (h : c.Reads x d) :
    d.place = c.place + x.length := by
  rw [place, place, h.2, List.length_append, List.length_reverse, Nat.add_comm]

theorem Reads.length_eq {c d : Cursor} {x : Text} (h : c.Reads x d) :
    c.place + c.right.length = d.place + d.right.length := by
  have hplace := h.place_eq
  rw [h.1, List.length_append]
  omega

theorem Reads.unique {c d e : Cursor} {x y : Text} (h : c.Reads x d) (h' : c.Reads y e)
    (hplace : d.place = e.place) : x = y ∧ d = e := by
  have hlength : x.length = y.length := by
    have hd := h.place_eq
    have he := h'.place_eq
    omega
  obtain ⟨hxy, hright⟩ := List.append_inj (h.1.symm.trans h'.1) hlength
  subst hxy
  refine ⟨rfl, ?_⟩
  cases d
  cases e
  simp only [Cursor.mk.injEq]
  exact ⟨h.2.trans h'.2.symm, hright⟩

theorem place_of_reads_start {text x : Text} {c : Cursor} (h : (start text).Reads x c) :
    c.place = x.length := by
  rw [h.place_eq]
  exact Nat.zero_add _

theorem head?_of_reads_start {text x : Text} {c : Cursor} (h : (start text).Reads x c) :
    c.left.head? = x.getLast? := by
  rw [h.2, start, List.append_nil, List.head?_reverse]

end Cursor

/-- The regular expressions of a backtracking engine, with greedy repetition. The two
arguments of `look` are the characters before and after the place. -/
inductive Regex where
  | empty
  | char (accepts : Char → Bool)
  | look (holds : Option Char → Option Char → Bool)
  | seq (r s : Regex)
  | alt (r s : Regex)
  | star (r : Regex)

namespace Regex

/-- The ends of a repetition, from the most rounds to none. A round that reads nothing
ends it. -/
def starEnds (ends : Cursor → List Cursor) : Nat → Cursor → List Cursor
  | 0, c => [c]
  | fuel + 1, c =>
    ((ends c).filter fun d => c.place < d.place).flatMap (starEnds ends fuel) ++ [c]

/-- All ends of a match that starts at a cursor, in the order in which backtracking
finds them. -/
def ends : Regex → Cursor → List Cursor
  | empty, c => [c]
  | char _, ⟨_, []⟩ => []
  | char accepts, ⟨left, x :: right⟩ => if accepts x then [⟨x :: left, right⟩] else []
  | look holds, c => if holds c.left.head? c.right.head? then [c] else []
  | seq r s, c => (r.ends c).flatMap s.ends
  | alt r s, c => r.ends c ++ s.ends c
  | star r, c => starEnds r.ends c.right.length c

def opt (r : Regex) : Regex := alt r empty

/-- `r{n}`. -/
def copies : Nat → Regex → Regex
  | 0, _ => empty
  | n + 1, r => seq r (copies n r)

/-- `r{n,}`. -/
def atLeast (n : Nat) (r : Regex) : Regex := seq (copies n r) (star r)

/-- `r{0,n}`. -/
def upTo : Nat → Regex → Regex
  | 0, _ => empty
  | n + 1, r => opt (seq r (upTo n r))

/-- `r{m,m+n}`. -/
def between (m n : Nat) (r : Regex) : Regex := seq (copies m r) (upTo n r)

def plus (r : Regex) : Regex := atLeast 1 r

/-- All of them, one after the other. -/
def all : List Regex → Regex
  | [] => empty
  | [r] => r
  | r :: rs => seq r (all rs)

def any : List Regex → Regex
  | [] => char fun _ => false
  | [r] => r
  | r :: rs => alt r (any rs)

section Ends

variable {r s : Regex} {c d : Cursor}

@[simp] theorem mem_ends_empty : d ∈ empty.ends c ↔ d = c := List.mem_singleton

@[simp] theorem mem_ends_look {holds : Option Char → Option Char → Bool} :
    d ∈ (look holds).ends c ↔ holds c.left.head? c.right.head? = true ∧ d = c := by
  rw [ends]
  split
  · next h => simp [h]
  · next h => simp [h]

theorem ends_char_cases (accepts : Char → Bool) (c : Cursor) :
    (char accepts).ends c = [] ∨
      ∃ x d, accepts x = true ∧ (char accepts).ends c = [d] ∧ c.Reads [x] d := by
  obtain ⟨left, right⟩ := c
  cases right with
  | nil => exact .inl rfl
  | cons x right =>
    rw [ends]
    by_cases hx : accepts x = true
    · exact .inr ⟨x, ⟨x :: left, right⟩, hx, if_pos hx, rfl, rfl⟩
    · exact .inl (if_neg hx)

theorem mem_ends_char {accepts : Char → Bool} :
    d ∈ (char accepts).ends c ↔ ∃ x, accepts x = true ∧ c.Reads [x] d := by
  constructor
  · intro h
    rcases ends_char_cases accepts c with hnone | ⟨x, e, hx, hends, hread⟩
    · rw [hnone] at h
      cases h
    · rw [hends] at h
      obtain rfl := List.mem_singleton.mp h
      exact ⟨x, hx, hread⟩
  · rintro ⟨x, hx, hright, hleft⟩
    obtain ⟨left, right⟩ := c
    obtain ⟨leftD, rightD⟩ := d
    obtain rfl : right = x :: rightD := hright
    obtain rfl : leftD = x :: left := hleft
    rw [ends, if_pos hx]
    exact List.mem_singleton.mpr rfl

@[simp] theorem mem_ends_seq : d ∈ (seq r s).ends c ↔ ∃ m ∈ r.ends c, d ∈ s.ends m :=
  List.mem_flatMap

@[simp] theorem mem_ends_alt : d ∈ (alt r s).ends c ↔ d ∈ r.ends c ∨ d ∈ s.ends c := List.mem_append

theorem mem_ends_opt : d ∈ (opt r).ends c ↔ d ∈ r.ends c ∨ d = c := by
  rw [opt, mem_ends_alt, mem_ends_empty]

theorem ends_opt_seq (r s : Regex) (c : Cursor) :
    (seq (opt r) s).ends c = (r.ends c).flatMap s.ends ++ s.ends c := by
  rw [ends, opt, ends, ends, List.flatMap_append, List.flatMap_singleton]

theorem reads_of_mem_starEnds {f : Cursor → List Cursor}
    (hf : ∀ {c d}, d ∈ f c → ∃ x, c.Reads x d) {fuel : Nat} (h : d ∈ starEnds f fuel c) :
    ∃ x, c.Reads x d := by
  induction fuel generalizing c with
  | zero => exact ⟨[], List.mem_singleton.mp h ▸ c.reads_nil⟩
  | succ fuel ih =>
    rcases List.mem_append.mp h with h | h
    · obtain ⟨m, hm, h⟩ := List.mem_flatMap.mp h
      obtain ⟨x, hx⟩ := hf (List.mem_of_mem_filter hm)
      obtain ⟨y, hy⟩ := ih h
      exact ⟨x ++ y, hx.trans hy⟩
    · exact ⟨[], List.mem_singleton.mp h ▸ c.reads_nil⟩

/-- A match reads a piece of the text. -/
theorem reads_of_mem_ends (h : d ∈ r.ends c) : ∃ x, c.Reads x d := by
  induction r generalizing c d with
  | empty => exact ⟨[], mem_ends_empty.mp h ▸ c.reads_nil⟩
  | char accepts =>
    obtain ⟨x, -, h⟩ := mem_ends_char.mp h
    exact ⟨[x], h⟩
  | look holds => exact ⟨[], (mem_ends_look.mp h).2 ▸ c.reads_nil⟩
  | seq r s ihr ihs =>
    obtain ⟨m, hm, h⟩ := mem_ends_seq.mp h
    obtain ⟨x, hx⟩ := ihr hm
    obtain ⟨y, hy⟩ := ihs h
    exact ⟨x ++ y, hx.trans hy⟩
  | alt r s ihr ihs =>
    rcases mem_ends_alt.mp h with h | h
    · exact ihr h
    · exact ihs h
  | star r ih => exact reads_of_mem_starEnds ih h

/-- A number of rounds, one after the other. -/
inductive Iter (r : Regex) : Nat → Cursor → Cursor → Prop where
  | zero (c : Cursor) : Iter r 0 c c
  | succ {n : Nat} {c m d : Cursor} (hm : m ∈ r.ends c) (h : Iter r n m d) : Iter r (n + 1) c d

theorem mem_ends_copies {n : Nat} : d ∈ (copies n r).ends c ↔ Iter r n c d := by
  induction n generalizing c with
  | zero =>
    constructor
    · intro h
      rw [mem_ends_empty.mp h]
      exact .zero c
    · rintro ⟨⟩
      exact mem_ends_empty.mpr rfl
  | succ n ih =>
    rw [copies, mem_ends_seq]
    constructor
    · rintro ⟨m, hm, h⟩
      exact .succ hm (ih.mp h)
    · intro h
      cases h with
      | succ hm h => exact ⟨_, hm, ih.mpr h⟩

/-- Every match reads a character at least. -/
def Productive (r : Regex) : Prop := ∀ {c d}, d ∈ r.ends c → c.place < d.place

theorem mem_starEnds (hr : r.Productive) {fuel : Nat} (hfuel : c.right.length ≤ fuel) :
    d ∈ starEnds r.ends fuel c ↔ ∃ n, Iter r n c d := by
  have hshorter : ∀ {m}, m ∈ r.ends c → m.right.length < c.right.length := by
    intro m hm
    obtain ⟨x, hx⟩ := reads_of_mem_ends hm
    have hlength := hx.length_eq
    have hplace := hr hm
    omega
  induction fuel generalizing c with
  | zero =>
    constructor
    · intro h
      rw [List.mem_singleton.mp h]
      exact ⟨0, .zero c⟩
    · rintro ⟨n, h⟩
      cases h with
      | zero => exact List.mem_singleton.mpr rfl
      | succ hm _ =>
        have := hshorter hm
        omega
  | succ fuel ih =>
    have hrest : ∀ {m}, m ∈ r.ends c → (d ∈ starEnds r.ends fuel m ↔ ∃ n, Iter r n m d) := by
      intro m hm
      have hm' := hshorter hm
      refine ih (by omega) fun {m'} hmem => ?_
      obtain ⟨x, hx⟩ := reads_of_mem_ends hmem
      have hlength := hx.length_eq
      have hplace := hr hmem
      omega
    rw [starEnds, List.mem_append, List.mem_singleton, List.mem_flatMap]
    constructor
    · rintro (⟨m, hm, h⟩ | rfl)
      · obtain ⟨n, h⟩ := (hrest (List.mem_of_mem_filter hm)).mp h
        exact ⟨n + 1, .succ (List.mem_of_mem_filter hm) h⟩
      · exact ⟨0, .zero d⟩
    · rintro ⟨n, h⟩
      cases h with
      | zero => exact .inr rfl
      | succ hm h =>
        exact .inl ⟨_, List.mem_filter.mpr ⟨hm, decide_eq_true (hr hm)⟩, (hrest hm).mpr ⟨_, h⟩⟩

theorem mem_ends_star (hr : r.Productive) : d ∈ (star r).ends c ↔ ∃ n, Iter r n c d :=
  mem_starEnds hr (le_refl _)

theorem Iter.trans {n k : Nat} {m : Cursor} (h : Iter r n c m) (h' : Iter r k m d) :
    Iter r (n + k) c d := by
  induction h with
  | zero => rwa [Nat.zero_add]
  | succ hm _ ih =>
    rw [Nat.succ_add]
    exact .succ hm (ih h')

theorem Iter.split {n k : Nat} (h : Iter r (n + k) c d) : ∃ m, Iter r n c m ∧ Iter r k m d := by
  induction n generalizing c with
  | zero => exact ⟨c, .zero c, by rwa [Nat.zero_add] at h⟩
  | succ n ih =>
    rw [Nat.succ_add] at h
    cases h with
    | succ hm h =>
      obtain ⟨m, h, h'⟩ := ih h
      exact ⟨m, .succ hm h, h'⟩

theorem mem_ends_atLeast (hr : r.Productive) {n : Nat} :
    d ∈ (atLeast n r).ends c ↔ ∃ k, n ≤ k ∧ Iter r k c d := by
  rw [atLeast, mem_ends_seq]
  simp only [mem_ends_copies, mem_ends_star hr]
  constructor
  · rintro ⟨m, h, k, h'⟩
    exact ⟨n + k, Nat.le_add_right n k, h.trans h'⟩
  · rintro ⟨k, hk, h⟩
    obtain ⟨j, rfl⟩ := Nat.exists_eq_add_of_le hk
    obtain ⟨m, h, h'⟩ := h.split
    exact ⟨m, h, j, h'⟩

/-- A greedy repetition of a class may stop after any of its characters. -/
theorem mem_ends_star_char {accepts : Char → Bool} :
    d ∈ (star (char accepts)).ends c ↔ ∃ x, (∀ y ∈ x, accepts y = true) ∧ c.Reads x d := by
  have hproductive : (char accepts).Productive := by
    intro c d h
    obtain ⟨x, -, hx⟩ := mem_ends_char.mp h
    have := hx.place_eq
    rw [this]
    exact Nat.lt_succ_self _
  rw [mem_ends_star hproductive]
  constructor
  · rintro ⟨n, h⟩
    induction h with
    | zero c => exact ⟨[], by simp, c.reads_nil⟩
    | succ hm _ ih =>
      obtain ⟨y, hy, hread⟩ := mem_ends_char.mp hm
      obtain ⟨x, hx, hrest⟩ := ih
      exact ⟨[y] ++ x, by simpa using ⟨hy, hx⟩, hread.trans hrest⟩
  · rintro ⟨x, hx, hread⟩
    refine ⟨x.length, ?_⟩
    induction x generalizing c with
    | nil =>
      have hsame : d = c := (hread.unique c.reads_nil (by rw [hread.place_eq]; rfl)).2
      rw [hsame]
      exact .zero c
    | cons y x ih =>
      obtain ⟨hy, hx⟩ := List.forall_mem_cons.mp hx
      have hstep : c.Reads [y] ⟨y :: c.left, x ++ d.right⟩ := ⟨hread.1, rfl⟩
      refine .succ (mem_ends_char.mpr ⟨y, hy, hstep⟩) (ih hx ⟨rfl, ?_⟩)
      rw [hread.2, List.reverse_cons, List.append_assoc]
      rfl

end Ends

section Order

variable {c d : Cursor}

theorem place_le_of_mem_ends {r : Regex} (h : d ∈ r.ends c) : c.place ≤ d.place := by
  obtain ⟨x, hx⟩ := reads_of_mem_ends h
  rw [hx.place_eq]
  exact Nat.le_add_right _ _

/-- The longer repetition comes first, and where a shorter one stops the class goes on. -/
theorem pairwise_ends_star_char (accepts : Char → Bool) (c : Cursor) :
    ((star (char accepts)).ends c).Pairwise fun a b =>
      b.place ≤ a.place ∧ b.right.head?.any accepts = true := by
  rw [ends]
  generalize c.right.length = fuel
  induction fuel generalizing c with
  | zero => exact List.pairwise_singleton _ _
  | succ fuel ih =>
    rw [starEnds, List.pairwise_append]
    refine ⟨?_, List.pairwise_singleton _ _, fun a ha b hb => ?_⟩
    · rw [List.pairwise_flatMap]
      refine ⟨fun m _ => ih m, List.Pairwise.filter _ ?_⟩
      obtain ⟨left, right⟩ := c
      cases right with
      | nil => exact List.Pairwise.nil
      | cons x right =>
        rw [ends]
        split
        · exact List.pairwise_singleton _ _
        · exact List.Pairwise.nil
    · obtain rfl := List.mem_singleton.mp hb
      obtain ⟨m, hm, ha⟩ := List.mem_flatMap.mp ha
      obtain ⟨hm, hplace⟩ := List.mem_filter.mp hm
      obtain ⟨x, hx⟩ := reads_of_mem_starEnds reads_of_mem_ends ha
      obtain ⟨y, hy, hread⟩ := mem_ends_char.mp hm
      have hm' := of_decide_eq_true hplace
      have ha' := hx.place_eq
      refine ⟨by omega, ?_⟩
      rw [hread.1]
      simpa using hy

theorem ends_seq_copies_succ (n : Nat) (r s : Regex) (c : Cursor) :
    (seq (copies (n + 1) r) s).ends c = (r.ends c).flatMap (seq (copies n r) s).ends := by
  rw [ends, copies, ends, List.flatMap_assoc]
  rfl

/-- Backtracking finds the longest match first. -/
def Greedy (r : Regex) : Prop := ∀ c, (r.ends c).Pairwise fun a b => b.place ≤ a.place

theorem Greedy.le_head {r : Regex} (hr : r.Greedy) {e : Cursor} (hd : d ∈ r.ends c)
    (he : (r.ends c).head? = some e) : d.place ≤ e.place := by
  have hpairs := hr c
  cases hends : r.ends c with
  | nil => simp [hends] at hd
  | cons first rest =>
    rw [hends] at hd he hpairs
    obtain rfl := Option.some.inj he
    rcases List.mem_cons.mp hd with rfl | hd
    · exact le_refl _
    · exact (List.pairwise_cons.mp hpairs).1 d hd

theorem Greedy.look_seq {holds : Option Char → Option Char → Bool} {r : Regex} (hr : r.Greedy) :
    (seq (look holds) r).Greedy := by
  intro c
  rw [ends, ends]
  split
  · rw [List.flatMap_singleton]
    exact hr c
  · exact List.Pairwise.nil

theorem Greedy.seq_steady {r s : Regex} {k : Nat} (hr : r.Greedy)
    (hs : ∀ {c d}, d ∈ s.ends c → d.place = c.place + k) : (seq r s).Greedy := by
  intro c
  rw [ends, List.pairwise_flatMap]
  refine ⟨fun m _ => ?_, (hr c).imp fun {a b} hab x hx y hy => ?_⟩
  · refine List.pairwise_of_forall_mem_list fun a ha b hb => ?_
    rw [hs ha, hs hb]
  · rw [hs hx, hs hy]
    exact Nat.add_le_add_right hab k

section Rounds

variable {r : Regex}

/-- A repetition is greedy where the longest round comes first and no round follows
a shorter one. -/
theorem greedy_starEnds
    (hr : ∀ c, (r.ends c).Pairwise fun a b => b.place ≤ a.place ∧ r.ends b = []) (fuel : Nat)
    (c : Cursor) : (starEnds r.ends fuel c).Pairwise fun a b => b.place ≤ a.place := by
  induction fuel generalizing c with
  | zero => exact List.pairwise_singleton _ _
  | succ fuel ih =>
    rw [starEnds, List.pairwise_append]
    refine ⟨?_, List.pairwise_singleton _ _, fun a ha b hb => ?_⟩
    · rw [List.pairwise_flatMap]
      refine ⟨fun m _ => ih m, ((hr c).filter _).imp fun {a b} hab x hx y hy => ?_⟩
      obtain ⟨z, hz⟩ := reads_of_mem_starEnds reads_of_mem_ends hx
      have hb : y = b := by
        cases fuel with
        | zero => exact List.mem_singleton.mp hy
        | succ fuel => simpa [starEnds, hab.2] using hy
      have hplace := hz.place_eq
      rw [hb]
      omega
    · obtain rfl := List.mem_singleton.mp hb
      have hmem : a ∈ starEnds r.ends (fuel + 1) b := List.mem_append_left [b] ha
      obtain ⟨x, hx⟩ := reads_of_mem_starEnds reads_of_mem_ends hmem
      rw [hx.place_eq]
      exact Nat.le_add_right _ _

theorem greedy_atLeast
    (hr : ∀ c, (r.ends c).Pairwise fun a b => b.place ≤ a.place ∧ r.ends b = []) (n : Nat) :
    (atLeast n r).Greedy := by
  intro c
  rw [atLeast]
  induction n generalizing c with
  | zero =>
    rw [copies, ends, ends, List.flatMap_singleton]
    exact greedy_starEnds hr _ c
  | succ n ih =>
    rw [ends_seq_copies_succ, List.pairwise_flatMap]
    refine ⟨fun m _ => ih m, (hr c).imp fun {a b} hab x hx y hy => ?_⟩
    have hb : y = b := by
      cases n with
      | zero =>
        rw [copies, ends, ends, List.flatMap_singleton, ends] at hy
        cases hfuel : b.right.length with
        | zero => exact List.mem_singleton.mp (by rwa [hfuel] at hy)
        | succ fuel => simpa [hfuel, starEnds, hab.2] using hy
      | succ n => simp [ends_seq_copies_succ, hab.2] at hy
    rw [hb]
    exact hab.1.trans (place_le_of_mem_ends hx)

end Rounds

end Order

section Search

variable {r : Regex} {c d : Cursor}

/-- The match at a cursor: the first end, unless it reads nothing. -/
def firstEnd (r : Regex) (c : Cursor) : Option Cursor :=
  (r.ends c).head?.filter fun d => c.place < d.place

/-- The matches from a cursor on, each from its start to its end. -/
def scan (r : Regex) : Nat → Cursor → List (Cursor × Cursor)
  | 0, _ => []
  | fuel + 1, c =>
    match r.firstEnd c with
    | some d => (c, d) :: scan r fuel d
    | none =>
      match c.right with
      | [] => []
      | x :: right => scan r fuel ⟨x :: c.left, right⟩

/-- `re.finditer`, for a pattern that does not match the empty text. -/
def finditer (r : Regex) (text : Text) : List (Cursor × Cursor) :=
  scan r (text.length + 1) (Cursor.start text)

theorem firstEnd_eq_some (h : r.firstEnd c = some d) :
    (r.ends c).head? = some d ∧ c.place < d.place ∧ ∃ x, c.Reads x d := by
  obtain ⟨hhead, hplace⟩ := Option.filter_eq_some_iff.mp h
  exact ⟨hhead, of_decide_eq_true hplace, reads_of_mem_ends (List.mem_of_mem_head? hhead)⟩

/-- What one run of the search finds: matches in their order, apart from each other. -/
structure Found (r : Regex) (c : Cursor) (ms : List (Cursor × Cursor)) : Prop where
  matched : ∀ m ∈ ms, r.firstEnd m.1 = some m.2 ∧ ∃ x, c.Reads x m.1
  apart : ms.Pairwise fun m m' => m.2.place ≤ m'.1.place

theorem found_scan (r : Regex) (fuel : Nat) (c : Cursor) : Found r c (scan r fuel c) := by
  induction fuel generalizing c with
  | zero => exact ⟨fun m hm => absurd hm List.not_mem_nil, List.Pairwise.nil⟩
  | succ fuel ih =>
    rw [scan]
    cases hfirst : r.firstEnd c with
    | some d =>
      obtain ⟨-, -, x, hx⟩ := firstEnd_eq_some hfirst
      obtain ⟨hmatched, hapart⟩ := ih d
      constructor
      · intro m hm
        rcases List.mem_cons.mp hm with rfl | hm
        · exact ⟨hfirst, [], c.reads_nil⟩
        · obtain ⟨hm, y, hy⟩ := hmatched m hm
          exact ⟨hm, x ++ y, hx.trans hy⟩
      · refine List.pairwise_cons.mpr ⟨fun m hm => ?_, hapart⟩
        obtain ⟨-, y, hy⟩ := hmatched m hm
        have := hy.place_eq
        dsimp only
        omega
    | none =>
      dsimp only
      split
      · exact ⟨fun m hm => absurd hm List.not_mem_nil, List.Pairwise.nil⟩
      · next x right hright =>
        have hstep : c.Reads [x] ⟨x :: c.left, right⟩ := ⟨hright, rfl⟩
        obtain ⟨hmatched, hapart⟩ := ih ⟨x :: c.left, right⟩
        refine ⟨fun m hm => ?_, hapart⟩
        obtain ⟨hm, y, hy⟩ := hmatched m hm
        exact ⟨hm, [x] ++ y, hstep.trans hy⟩

/-- A place that the search passes lies in a match, or no match starts there. -/
theorem scan_covers {fuel : Nat} (hfuel : c.right.length < fuel) {x : Text} (h : c.Reads x d) :
    (∃ m ∈ scan r fuel c, m.1.place ≤ d.place ∧ d.place < m.2.place) ∨ r.firstEnd d = none := by
  induction fuel generalizing c x with
  | zero => omega
  | succ fuel ih =>
    rw [scan]
    cases hfirst : r.firstEnd c with
    | some e =>
      obtain ⟨-, hplace, y, hy⟩ := firstEnd_eq_some hfirst
      by_cases hinside : d.place < e.place
      · have hle := h.place_eq
        exact .inl ⟨(c, e), List.mem_cons_self, by dsimp only; omega, hinside⟩
      · have hlonger : y.length ≤ x.length := by
          have hd := h.place_eq
          have he := hy.place_eq
          omega
        obtain ⟨z, rfl⟩ : ∃ z, x = y ++ z := by
          refine ⟨x.drop y.length, ?_⟩
          have htake : x.take y.length = y := by
            have heq := congrArg (List.take y.length) (h.1.symm.trans hy.1)
            rwa [List.take_append_of_le_length hlonger, List.take_left] at heq
          rw [← htake, List.length_take_of_le hlonger, List.take_append_drop]
        have hrest : e.Reads z d := by
          refine ⟨?_, ?_⟩
          · exact List.append_cancel_left
              (hy.1.symm.trans (h.1.trans (List.append_assoc y z d.right)))
          · rw [h.2, hy.2, List.reverse_append, List.append_assoc]
        have hlength := hy.length_eq
        rcases ih (by omega) hrest with ⟨m, hm, hcover⟩ | hnone
        · exact .inl ⟨m, List.mem_cons_of_mem _ hm, hcover⟩
        · exact .inr hnone
    | none =>
      dsimp only
      cases x with
      | nil =>
        have hsame : d = c := (h.unique c.reads_nil (by rw [h.place_eq]; rfl)).2
        exact .inr (hsame ▸ hfirst)
      | cons first x =>
        have hright : c.right = first :: (x ++ d.right) := h.1
        rw [hright]
        dsimp only
        refine ih ?_ ⟨rfl, ?_⟩
        · rw [hright] at hfuel
          exact Nat.lt_of_succ_lt_succ hfuel
        · rw [h.2, List.reverse_cons, List.append_assoc, List.singleton_append]

end Search

end Regex

end DataForge.Foundation.Backtracking
