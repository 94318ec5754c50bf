import Mathlib.Algebra.GroupWithZero.Nat
import Mathlib.Data.Char
import Mathlib.Data.List.Infix
import Mathlib.Data.List.TakeWhile

namespace DataForge.Foundation.Strings

/-- A string is its sequence of code points. -/
abbrev Text := List Char

instance lawfulBEqText : LawfulBEq Text := List.instLawfulBEq

/-- The characters with the Unicode white space property. -/
def isWhiteSpace (c : Char) : Bool :=
  let n := c.toNat
  (9 ≤ n && n ≤ 13) || n = 32 || n = 0x85 || n = 0xA0 || n = 0x1680 ||
    (0x2000 ≤ n && n ≤ 0x200A) || n = 0x2028 || n = 0x2029 || n = 0x202F || n = 0x205F || n = 0x3000

/-- `str.isspace` also counts the four ASCII information separators. -/
def isSpace (c : Char) : Bool := isWhiteSpace c || (28 ≤ c.toNat && c.toNat ≤ 31)

/-- A decidable fact about each member, by evaluation along the list. -/
theorem forall_mem_of_all {α : Type} {P : α → Prop} [DecidablePred P] {xs : List α}
    (h : (xs.all fun x => decide (P x)) = true) : ∀ x ∈ xs, P x := by
  simpa using h

/-- A fact about the characters of a text is evaluated along it, not over all characters. -/
instance decidableForallText {P : Char → Prop} [DecidablePred P] (s : Text) :
    Decidable (∀ c ∈ s, P c) :=
  List.decidableBAll P s

instance decidableForallOption {P : Char → Prop} [DecidablePred P] :
    (o : Option Char) → Decidable (∀ c ∈ o, P c)
  | none => .isTrue fun _ h => nomatch h
  | some c => decidable_of_iff (P c) (by simp)

theorem char_le_iff (c d : Char) : c ≤ d ↔ c.toNat ≤ d.toNat := Iff.rfl

def lstripBy (p : Char → Bool) (s : Text) : Text := s.dropWhile p

def rstripBy (p : Char → Bool) (s : Text) : Text := (s.reverse.dropWhile p).reverse

def stripBy (p : Char → Bool) (s : Text) : Text := rstripBy p (lstripBy p s)

def strip (s : Text) : Text := stripBy isSpace s

/-- Remove a leading text when it is there, as `str.removeprefix` does. -/
def removePrefix (pre s : Text) : Text := if pre.isPrefixOf s then s.drop pre.length else s

/-- `{n:0{width}d}`. -/
def zeroPadded (width n : Nat) : Text :=
  List.replicate (width - (Nat.toDigits 10 n).length) '0' ++ Nat.toDigits 10 n

def joinWith (sep : Char) (parts : List Text) : Text := [sep].intercalate parts

def hexDigits : Text := "0123456789abcdef".toList

def hexDigit (n : Nat) : Char := hexDigits.getD (n % 16) '0'

theorem hexDigit_mem (n : Nat) : hexDigit n ∈ hexDigits := by
  have hn : n % 16 < hexDigits.length := Nat.mod_lt _ (by decide)
  rw [hexDigit, List.getD_eq_getElem?_getD, List.getElem?_eq_getElem hn]
  exact List.getElem_mem hn

theorem lstripBy_eq_self {p : Char → Bool} {s : Text} (h : ∀ c ∈ s.head?, p c = false) :
    lstripBy p s = s := by
  cases s with
  | nil => rfl
  | cons c s => simp [lstripBy, h c (by simp)]

theorem rstripBy_eq_self {p : Char → Bool} {s : Text} (h : ∀ c ∈ s.getLast?, p c = false) :
    rstripBy p s = s := by
  have hr := lstripBy_eq_self (p := p) (s := s.reverse) (by simpa using h)
  rw [lstripBy] at hr
  rw [rstripBy, hr, List.reverse_reverse]

theorem stripBy_eq_self {p : Char → Bool} {s : Text} (hhead : ∀ c ∈ s.head?, p c = false)
    (hlast : ∀ c ∈ s.getLast?, p c = false) : stripBy p s = s := by
  rw [stripBy, lstripBy_eq_self hhead, rstripBy_eq_self hlast]

theorem head?_lstripBy (p : Char → Bool) (s : Text) : ∀ c ∈ (lstripBy p s).head?, p c = false := by
  intro c hc
  have hd := List.head?_dropWhile_not p s
  rw [lstripBy, Option.mem_def] at hc
  rw [hc] at hd
  simpa using hd

theorem getLast?_rstripBy (p : Char → Bool) (s : Text) :
    ∀ c ∈ (rstripBy p s).getLast?, p c = false := by
  intro c hc
  rw [rstripBy, List.getLast?_reverse] at hc
  exact head?_lstripBy p s.reverse c hc

theorem isPrefix_rstripBy (p : Char → Bool) (s : Text) : rstripBy p s <+: s := by
  have h := List.dropWhile_suffix p (l := s.reverse)
  rw [rstripBy, ← List.reverse_suffix, List.reverse_reverse]
  exact h

theorem isInfix_stripBy (p : Char → Bool) (s : Text) : stripBy p s <:+: s :=
  (isPrefix_rstripBy p _).isInfix.trans (List.dropWhile_suffix p).isInfix

theorem getLast?_stripBy (p : Char → Bool) (s : Text) : ∀ c ∈ (stripBy p s).getLast?, p c = false :=
  getLast?_rstripBy p _

theorem head?_stripBy (p : Char → Bool) (s : Text) : ∀ c ∈ (stripBy p s).head?, p c = false := by
  intro c hc
  obtain ⟨t, ht⟩ := isPrefix_rstripBy p (lstripBy p s)
  refine head?_lstripBy p s c ?_
  rw [← ht]
  cases hs : rstripBy p (lstripBy p s) with
  | nil => simp [stripBy, hs] at hc
  | cons d ds => simpa [stripBy, hs] using hc

theorem stripBy_idem (p : Char → Bool) (s : Text) : stripBy p (stripBy p s) = stripBy p s := by
  exact stripBy_eq_self (head?_stripBy p s) (getLast?_stripBy p s)

theorem stripBy_ne_nil {p : Char → Bool} {c : Char} {s : Text} (hc : p c = false) :
    stripBy p (c :: s) ≠ [] := by
  intro h
  have hall := List.reverse_eq_nil_iff.mp h
  rw [lstripBy, List.dropWhile_cons_of_neg (by simp [hc]), List.dropWhile_eq_nil_iff] at hall
  simpa [hc] using hall c (by simp)

theorem removePrefix_append (pre s : Text) : removePrefix pre (pre ++ s) = s := by
  simp [removePrefix]

theorem joinWith_nil (sep : Char) : joinWith sep [] = [] := rfl

theorem joinWith_singleton (sep : Char) (s : Text) : joinWith sep [s] = s := by
  simp [joinWith]

theorem joinWith_cons (sep : Char) (s : Text) {parts : List Text} (h : parts ≠ []) :
    joinWith sep (s :: parts) = s ++ sep :: joinWith sep parts := by
  cases parts with
  | nil => exact absurd rfl h
  | cons t ts => simp [joinWith, List.intercalate_cons_cons]

theorem joinWith_append (sep : Char) {as bs : List Text} (ha : as ≠ []) (hb : bs ≠ []) :
    joinWith sep (as ++ bs) = joinWith sep as ++ sep :: joinWith sep bs := by
  induction as with
  | nil => exact absurd rfl ha
  | cons a as ih =>
    by_cases hn : as = []
    · subst as
      rw [List.singleton_append, joinWith_cons sep a hb, joinWith_singleton]
    · rw [List.cons_append, joinWith_cons sep a (by simp [hn]), ih hn, joinWith_cons sep a hn]
      simp

theorem joinWith_splitOn (sep : Char) (s : Text) : joinWith sep (s.splitOn sep) = s :=
  List.intercalate_splitOn sep

theorem splitOn_joinWith (sep : Char) {parts : List Text} (h : ∀ p ∈ parts, sep ∉ p)
    (hne : parts ≠ []) : (joinWith sep parts).splitOn sep = parts :=
  List.splitOn_intercalate sep h hne

/-- Texts made from components without the separator agree only when their
components do. -/
theorem joinWith_injective (sep : Char) {as bs : List Text} (ha : ∀ p ∈ as, sep ∉ p)
    (hb : ∀ p ∈ bs, sep ∉ p) (hna : as ≠ []) (hnb : bs ≠ [])
    (h : joinWith sep as = joinWith sep bs) : as = bs := by
  rw [← splitOn_joinWith sep ha hna, h, splitOn_joinWith sep hb hnb]

theorem not_mem_of_mem_splitOn (sep : Char) (s : Text) : ∀ p ∈ s.splitOn sep, sep ∉ p := by
  induction s with
  | nil => simp
  | cons c s ih =>
    intro p hp
    rw [List.splitOn_cons_eq_if_modifyHead] at hp
    by_cases hc : (c == sep) = true
    · rw [if_pos hc] at hp
      rcases List.mem_cons.mp hp with rfl | hp
      · simp
      · exact ih p hp
    · rw [if_neg hc] at hp
      have hcs : c ≠ sep := by simpa using hc
      cases hs : s.splitOn sep with
      | nil => exact absurd hs (List.splitOn_ne_nil sep s)
      | cons q qs =>
        rw [hs] at hp ih
        rcases List.mem_cons.mp hp with rfl | hp
        · simp [Ne.symm hcs, ih q (by simp)]
        · exact ih p (by simp [hp])

/-- A text starts with a joined path and a separator exactly when the path's
components open the list of its components and do not exhaust it. -/
theorem joinWith_sep_prefix_iff (sep : Char) {segs : List Text} (hs : ∀ p ∈ segs, sep ∉ p)
    (hne : segs ≠ []) (s : Text) :
    joinWith sep segs ++ [sep] <+: s ↔ ∃ rest, rest ≠ [] ∧ s.splitOn sep = segs ++ rest := by
  constructor
  · rintro ⟨t, ht⟩
    refine ⟨t.splitOn sep, List.splitOn_ne_nil sep t, ?_⟩
    rw [← ht, List.append_assoc, List.singleton_append, List.splitOn_append_cons_self,
      splitOn_joinWith sep hs hne]
  · rintro ⟨rest, hr, hsplit⟩
    refine ⟨joinWith sep rest, ?_⟩
    rw [← joinWith_splitOn sep s, hsplit, joinWith_append sep hne hr]
    simp

/-- Splitting a joined text splits its parts. -/
theorem splitOn_joinWith_flatMap (sep : Char) {parts : List Text} (h : parts ≠ []) :
    (joinWith sep parts).splitOn sep = parts.flatMap (·.splitOn sep) := by
  induction parts with
  | nil => exact absurd rfl h
  | cons s parts ih =>
    by_cases hn : parts = []
    · subst parts
      simp [joinWith_singleton]
    · rw [joinWith_cons sep s hn, List.splitOn_append_cons_self, ih hn, List.flatMap_cons]

theorem cons_joinWith_append (sep : Char) {parts : List Text} (h : parts ≠ []) :
    sep :: joinWith sep parts = parts.flatMap (sep :: ·) := by
  induction parts with
  | nil => exact absurd rfl h
  | cons s parts ih =>
    by_cases hn : parts = []
    · subst parts
      simp [joinWith_singleton]
    · rw [joinWith_cons sep s hn, ih hn]
      simp

/-- A component of a text stands between two separators in the text enclosed by
separators. -/
theorem isInfix_of_mem_splitOn {sep : Char} {s seg : Text} (h : seg ∈ s.splitOn sep) :
    sep :: seg ++ [sep] <:+: sep :: s ++ [sep] := by
  obtain ⟨as, bs, hs⟩ := List.append_of_mem h
  have hjoin : sep :: s = as.flatMap (sep :: ·) ++ (sep :: seg) ++ bs.flatMap (sep :: ·) := by
    rw [← joinWith_splitOn sep s, cons_joinWith_append sep (List.splitOn_ne_nil sep s), hs]
    simp
  rw [hjoin]
  cases bs with
  | nil => exact ⟨as.flatMap (sep :: ·), [], by simp⟩
  | cons b bs => exact ⟨as.flatMap (sep :: ·), b ++ bs.flatMap (sep :: ·) ++ [sep], by simp⟩

/-- Conversely what stands between two separators is a component. -/
theorem mem_splitOn_of_isInfix {sep : Char} {s seg : Text} (hseg : sep ∉ seg) (hne : seg ≠ [])
    (h : sep :: seg ++ [sep] <:+: sep :: s ++ [sep]) : seg ∈ s.splitOn sep := by
  obtain ⟨x, y, hxy⟩ := h
  have hleft : (x ++ sep :: (seg ++ sep :: y)).splitOn sep =
      x.splitOn sep ++ (seg :: y.splitOn sep) := by
    rw [List.splitOn_append_cons_self, List.splitOn_append_cons_self,
      List.splitOn_eq_singleton hseg, List.singleton_append]
  have hright : ([] ++ sep :: (s ++ sep :: [])).splitOn sep = [[]] ++ (s.splitOn sep ++ [[]]) := by
    rw [List.splitOn_append_cons_self, List.splitOn_append_cons_self]
    simp
  have heq : x ++ sep :: (seg ++ sep :: y) = [] ++ sep :: (s ++ sep :: []) := by simpa using hxy
  rw [heq, hright] at hleft
  have hm : seg ∈ [[]] ++ (s.splitOn sep ++ [[]]) := by
    rw [hleft]
    simp
  simpa [hne] using hm

theorem cons_lstripBy_suffix (sep : Char) (s : Text) :
    sep :: lstripBy (· == sep) s <:+ sep :: s := by
  induction s with
  | nil => exact List.suffix_refl _
  | cons c s ih =>
    by_cases hc : c = sep
    · subst c
      simpa [lstripBy] using ih.trans (List.suffix_cons sep (sep :: s))
    · simp [lstripBy, hc]

/-- Stripping separators loses nothing between two separators. -/
theorem isInfix_enclosed_stripBy (sep : Char) (s : Text) :
    sep :: stripBy (· == sep) s ++ [sep] <:+: sep :: s ++ [sep] := by
  have hr : sep :: stripBy (· == sep) s ++ [sep] <+: sep :: lstripBy (· == sep) s ++ [sep] := by
    have h := cons_lstripBy_suffix sep (lstripBy (· == sep) s).reverse
    rw [← List.reverse_prefix] at h
    simpa [stripBy, rstripBy, lstripBy] using h
  obtain ⟨t, ht⟩ := cons_lstripBy_suffix sep s
  refine hr.isInfix.trans ⟨t, [], ?_⟩
  rw [← ht]
  simp

end DataForge.Foundation.Strings
