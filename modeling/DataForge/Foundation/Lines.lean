import DataForge.Foundation.Strings
import Mathlib.Data.List.Basic
import Mathlib.Algebra.Order.BigOperators.Group.List
import Mathlib.Algebra.Order.Group.Nat

namespace DataForge.Foundation.Lines

open DataForge.Foundation.Strings

/-- The characters at which `str.splitlines` ends a line. -/
def isLineBoundary (c : Char) : Bool :=
  let n := c.toNat
  (10 ≤ n && n ≤ 13) || (28 ≤ n && n ≤ 30) || n = 0x85 || n = 0x2028 || n = 0x2029

/-- `str.splitlines` with what has been read of the current line. -/
def splitLinesFrom (line : Text) : Text → List Text
  | [] => if line = [] then [] else [line]
  | '\r' :: '\n' :: s => line :: splitLinesFrom [] s
  | c :: s =>
    if isLineBoundary c then line :: splitLinesFrom [] s else splitLinesFrom (line ++ [c]) s

def splitLines (s : Text) : List Text := splitLinesFrom [] s

/-- The characters that end a line of a text stream with untranslated newlines. -/
def isNewline (c : Char) : Bool := c = '\n' || c = '\r'

/-- The lines of such a stream, with their ends. -/
def streamLinesFrom (line : Text) : Text → List Text
  | [] => if line = [] then [] else [line]
  | '\r' :: '\n' :: s => (line ++ ['\r', '\n']) :: streamLinesFrom [] s
  | c :: s =>
    if isNewline c then (line ++ [c]) :: streamLinesFrom [] s else streamLinesFrom (line ++ [c]) s

def streamLines (s : Text) : List Text := streamLinesFrom [] s

theorem isLineBoundary_of_isNewline {c : Char} (h : isNewline c = true) :
    isLineBoundary c = true := by
  simp only [isNewline, Bool.or_eq_true, decide_eq_true_eq] at h
  obtain rfl | rfl := h <;> rfl

theorem isSpace_of_isLineBoundary {c : Char} (h : isLineBoundary c = true) : isSpace c = true := by
  simp only [isLineBoundary, Bool.or_eq_true, Bool.and_eq_true, decide_eq_true_eq] at h
  simp only [isSpace, isWhiteSpace, Bool.or_eq_true, Bool.and_eq_true, decide_eq_true_eq]
  omega

theorem splitLinesFrom_crlf (line s : Text) :
    splitLinesFrom line ('\r' :: '\n' :: s) = line :: splitLinesFrom [] s := by
  rw [splitLinesFrom]

theorem splitLinesFrom_cons {c : Char} {s : Text} (h : ¬ (c = '\r' ∧ s.head? = some '\n'))
    (line : Text) : splitLinesFrom line (c :: s) =
      if isLineBoundary c then line :: splitLinesFrom [] s else splitLinesFrom (line ++ [c]) s := by
  rw [splitLinesFrom]
  rintro s' rfl rfl
  exact h ⟨rfl, rfl⟩

theorem splitLinesFrom_line {line : Text} (h : ∀ c ∈ line, isLineBoundary c = false)
    (done s : Text) :
    splitLinesFrom done (line ++ '\n' :: s) = (done ++ line) :: splitLinesFrom [] s := by
  induction line generalizing done with
  | nil =>
    have hlf : ¬ ('\n' = '\r' ∧ s.head? = some '\n') := fun h => absurd h.1 (by decide)
    rw [List.nil_append, splitLinesFrom_cons hlf, if_pos (by decide), List.append_nil]
  | cons c line ih =>
    have hc : isLineBoundary c = false := h c (by simp)
    have hcr : ¬ (c = '\r' ∧ (line ++ '\n' :: s).head? = some '\n') := by
      rintro ⟨rfl, -⟩
      exact absurd hc (by decide)
    rw [List.cons_append, splitLinesFrom_cons hcr, hc, if_neg Bool.false_ne_true,
      ih (fun d hd => h d (by simp [hd])), List.append_assoc, List.singleton_append]

/-- Lines that are ended one by one are read back. -/
theorem splitLines_flatMap {lines : List Text}
    (h : ∀ line ∈ lines, ∀ c ∈ line, isLineBoundary c = false) :
    splitLines (lines.flatMap fun line => line ++ ['\n']) = lines := by
  induction lines with
  | nil => rfl
  | cons line lines ih =>
    rw [List.flatMap_cons, List.append_assoc, List.singleton_append, splitLines,
      splitLinesFrom_line (h line (by simp)), List.nil_append]
    exact congrArg (line :: ·) (ih fun l hl => h l (by simp [hl]))

/-- A piece that holds no newline is read on its own, up to the newline that ends it. -/
theorem splitLinesFrom_append {done line s : Text} {stop : Text}
    (hline : ∀ c ∈ line, isNewline c = false)
    (hstop : ∀ acc,
      splitLinesFrom acc (stop ++ s) = splitLinesFrom acc stop ++ splitLinesFrom [] s) :
    splitLinesFrom done (line ++ (stop ++ s)) =
      splitLinesFrom done (line ++ stop) ++ splitLinesFrom [] s := by
  induction line generalizing done with
  | nil => exact hstop done
  | cons c line ih =>
    obtain ⟨hc, hline⟩ := List.forall_mem_cons.mp hline
    have hne : ∀ rest : Text, ¬ (c = '\r' ∧ rest.head? = some '\n') := by
      rintro rest ⟨rfl, -⟩
      exact absurd hc (by decide)
    rw [List.cons_append, List.cons_append, splitLinesFrom_cons (hne _),
      splitLinesFrom_cons (hne _)]
    split
    · rw [ih hline, List.cons_append]
    · exact ih hline

theorem splitLinesFrom_newline {c : Char} {s : Text} (hc : isNewline c = true)
    (h : ¬ (c = '\r' ∧ s.head? = some '\n')) (acc : Text) :
    splitLinesFrom acc ([c] ++ s) = splitLinesFrom acc [c] ++ splitLinesFrom [] s := by
  have hboundary := isLineBoundary_of_isNewline hc
  rw [List.singleton_append, splitLinesFrom_cons h, if_pos hboundary,
    splitLinesFrom_cons (by simp), if_pos hboundary, splitLinesFrom, if_pos rfl]
  rfl

/-- Cutting a text at all boundaries cuts each line of its stream further. -/
theorem splitLines_eq_flatMap (s : Text) : splitLines s = (streamLines s).flatMap splitLines := by
  have hgen : ∀ line : Text, (∀ c ∈ line, isNewline c = false) →
      splitLines (line ++ s) = (streamLinesFrom line s).flatMap splitLines := by
    intro line
    induction line, s using streamLinesFrom.induct with
    | case1 => intro _; rfl
    | case2 line hne =>
      intro _
      rw [List.append_nil, streamLinesFrom, if_neg hne, List.flatMap_singleton]
    | case3 line s ih =>
      intro hline
      have happend := @splitLinesFrom_append [] line s ['\r', '\n'] hline
        fun acc => splitLinesFrom_crlf acc s
      rw [streamLinesFrom, List.flatMap_cons, ← ih (by simp)]
      exact happend
    | case4 line c s hcrlf hc ih =>
      intro hline
      have hnot : ¬ (c = '\r' ∧ s.head? = some '\n') := by
        rintro ⟨rfl, hs⟩
        obtain ⟨s', rfl⟩ := List.head?_eq_some_iff.mp hs
        exact hcrlf s' rfl rfl
      have happend := @splitLinesFrom_append [] line s [c] hline
        (splitLinesFrom_newline hc hnot)
      rw [streamLinesFrom, if_pos hc, List.flatMap_cons, ← ih (by simp)]
      · exact happend
      · exact hcrlf
    | case5 line c s hcrlf hc ih =>
      intro hline
      rw [streamLinesFrom, if_neg hc, ← ih, List.append_assoc, List.singleton_append]
      · intro d hd
        obtain hd | hd := List.mem_append.mp hd
        · exact hline d hd
        · rw [List.mem_singleton.mp hd]
          simpa using hc
      · exact hcrlf
  exact hgen [] (by simp)

/-- What stands in a piece is there in the text, and only boundaries are lost. -/
theorem mem_splitLinesFrom {line s : Text} {c : Char} (hc : c ∈ line ∨ c ∈ s)
    (hboundary : isLineBoundary c = false) : ∃ piece ∈ splitLinesFrom line s, c ∈ piece := by
  induction line, s using splitLinesFrom.induct with
  | case1 => simp at hc
  | case2 line hne =>
    rw [splitLinesFrom, if_neg hne]
    exact ⟨line, List.mem_singleton.mpr rfl, by simpa using hc⟩
  | case3 line s ih =>
    rw [splitLinesFrom]
    obtain hline | hs := hc
    · exact ⟨line, List.mem_cons_self, hline⟩
    · have hrest : c ∈ s := by
        rcases hs with _ | ⟨_, _ | ⟨_, hs⟩⟩
        · exact absurd hboundary (by decide)
        · exact absurd hboundary (by decide)
        · exact hs
      obtain ⟨piece, hpiece, hmem⟩ := ih (Or.inr hrest)
      exact ⟨piece, List.mem_cons_of_mem _ hpiece, hmem⟩
  | case4 line d s hcrlf hd ih =>
    rw [splitLinesFrom, if_pos hd]
    · obtain hline | hs := hc
      · exact ⟨line, List.mem_cons_self, hline⟩
      · have hrest : c ∈ s := by
          obtain rfl | hs := List.mem_cons.mp hs
          · exact absurd hd (by simp [hboundary])
          · exact hs
        obtain ⟨piece, hpiece, hmem⟩ := ih (Or.inr hrest)
        exact ⟨piece, List.mem_cons_of_mem _ hpiece, hmem⟩
    · exact hcrlf
  | case5 line d s hcrlf hd ih =>
    rw [splitLinesFrom, if_neg hd]
    · apply ih
      rw [List.mem_cons] at hc
      rwa [List.mem_append, List.mem_singleton, or_assoc]
    · exact hcrlf

theorem of_mem_splitLinesFrom {line s piece : Text} {c : Char}
    (hpiece : piece ∈ splitLinesFrom line s) (hc : c ∈ piece) : c ∈ line ∨ c ∈ s := by
  induction line, s using splitLinesFrom.induct with
  | case1 => simp [splitLinesFrom] at hpiece
  | case2 line hne =>
    rw [splitLinesFrom, if_neg hne, List.mem_singleton] at hpiece
    exact Or.inl (hpiece ▸ hc)
  | case3 line s ih =>
    rw [splitLinesFrom] at hpiece
    obtain rfl | hpiece := List.mem_cons.mp hpiece
    · exact Or.inl hc
    · have := ih hpiece
      simp_all
  | case4 line d s hcrlf hd ih =>
    rw [splitLinesFrom, if_pos hd] at hpiece
    · obtain rfl | hpiece := List.mem_cons.mp hpiece
      · exact Or.inl hc
      · have := ih hpiece
        simp_all
    · exact hcrlf
  | case5 line d s hcrlf hd ih =>
    rw [splitLinesFrom, if_neg hd] at hpiece
    · have := ih hpiece
      simp_all [or_assoc]
    · exact hcrlf

/-- A line with nothing but white space, which the readers skip. -/
def Blank (line : Text) : Prop := strip line = []

instance (line : Text) : Decidable (Blank line) := inferInstanceAs (Decidable (_ = _))

theorem blank_iff {line : Text} : Blank line ↔ ∀ c ∈ line, isSpace c = true := by
  constructor
  · intro h c hc
    by_contra hspace
    obtain ⟨pre, post, rfl⟩ := List.append_of_mem hc
    have hleft : c ∈ lstripBy isSpace (pre ++ c :: post) := by
      rw [lstripBy, List.dropWhile_append]
      split
      · rw [List.dropWhile_cons_of_neg hspace]
        exact List.mem_cons_self
      · exact List.mem_append_right _ List.mem_cons_self
    rw [Blank, strip, stripBy, rstripBy, List.reverse_eq_nil_iff, List.dropWhile_eq_nil_iff] at h
    exact hspace (h c (List.mem_reverse.mpr hleft))
  · intro h
    rw [Blank, strip, stripBy, lstripBy, List.dropWhile_eq_nil_iff.mpr h]
    rfl

theorem blank_of_mem_splitLines {line piece : Text} (h : Blank line)
    (hp : piece ∈ splitLines line) : Blank piece := by
  rw [blank_iff] at h ⊢
  intro c hc
  exact h c ((of_mem_splitLinesFrom hp hc).resolve_left List.not_mem_nil)

theorem exists_piece_of_not_blank {line : Text} (h : ¬ Blank line) :
    ∃ piece ∈ splitLines line, ¬ Blank piece := by
  rw [blank_iff] at h
  simp only [not_forall] at h
  obtain ⟨c, hc, hspace⟩ := h
  have hboundary : isLineBoundary c = false := by
    by_contra hb
    exact hspace (isSpace_of_isLineBoundary (by simpa using hb))
  obtain ⟨piece, hpiece, hmem⟩ := @mem_splitLinesFrom [] _ _ (Or.inr hc) hboundary
  exact ⟨piece, hpiece, fun hblank => hspace (blank_iff.mp hblank c hmem)⟩

/-- Two ways to expand the members of a list, the first never longer, give the same
list exactly when they agree on each member. -/
theorem flatMap_eq_flatMap_iff {α β : Type} {f g : α → List β} {xs : List α}
    (h : ∀ x ∈ xs, (f x).length ≤ (g x).length) :
    xs.flatMap f = xs.flatMap g ↔ ∀ x ∈ xs, f x = g x := by
  refine ⟨fun heq => ?_, fun hall => List.flatMap_congr hall⟩
  induction xs with
  | nil => simp
  | cons x xs ih =>
    obtain ⟨hx, hxs⟩ := List.forall_mem_cons.mp h
    have hle : ∀ ys : List α, (∀ y ∈ ys, (f y).length ≤ (g y).length) →
        (ys.flatMap f).length ≤ (ys.flatMap g).length := by
      intro ys hys
      rw [List.length_flatMap, List.length_flatMap]
      exact List.sum_le_sum hys
    rw [List.flatMap_cons, List.flatMap_cons] at heq
    have hlen := congrArg List.length heq
    rw [List.length_append, List.length_append] at hlen
    have hrest := hle xs hxs
    obtain ⟨hfirst, htail⟩ := List.append_inj heq (by omega)
    rw [List.forall_mem_cons]
    exact ⟨hfirst, ih hxs htail⟩

section Records

variable {α : Type} (read : Text → α)

/-- What a reader makes of the lines that are not blank. -/
def readLines (lines : List Text) : List α :=
  (lines.filter fun line => decide (¬ Blank line)).map read

theorem readLines_flatMap (cut : Text → List Text) (lines : List Text) :
    readLines read (lines.flatMap cut) = lines.flatMap fun line => readLines read (cut line) := by
  simp [readLines, List.filter_flatMap, List.map_flatMap]

/-- Reading the lines of the stream and reading the lines of `str.splitlines` agree
exactly when each line that is not blank keeps its reading when it is cut. -/
theorem readLines_streamLines_eq_iff (s : Text) :
    readLines read (streamLines s) = readLines read (splitLines s) ↔
      ∀ line ∈ streamLines s, ¬ Blank line → readLines read (splitLines line) = [read line] := by
  have hone : ∀ line : Text, readLines read [line] = if Blank line then [] else [read line] := by
    intro line
    by_cases hb : Blank line <;> simp [readLines, hb]
  have hnil : ∀ line : Text, Blank line → readLines read (splitLines line) = [] := by
    intro line hb
    rw [readLines, List.map_eq_nil_iff, List.filter_eq_nil_iff]
    intro piece hpiece
    simpa using blank_of_mem_splitLines hb hpiece
  have hstream : readLines read (streamLines s) =
      (streamLines s).flatMap fun line => readLines read [line] := by
    rw [← readLines_flatMap read (fun line => [line]), List.flatMap_singleton']
  rw [splitLines_eq_flatMap, readLines_flatMap, hstream, flatMap_eq_flatMap_iff]
  · refine forall₂_congr fun line _ => ?_
    rw [hone]
    by_cases hb : Blank line
    · simp [hb, hnil line hb]
    · rw [if_neg hb, eq_comm]
      simp [hb]
  · intro line _
    rw [hone]
    split
    · exact Nat.zero_le _
    · next hb =>
      obtain ⟨piece, hpiece, hnot⟩ := exists_piece_of_not_blank hb
      rw [readLines, List.length_map]
      exact List.length_pos_of_mem (List.mem_filter.mpr ⟨hpiece, by simpa using hnot⟩)

end Records

end DataForge.Foundation.Lines
