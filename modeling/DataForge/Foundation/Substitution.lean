import DataForge.Foundation.Backtracking

namespace DataForge.Foundation.Substitution

open DataForge.Foundation.Strings
open DataForge.Foundation.Backtracking
open DataForge.Foundation.Backtracking.Regex

section Sub

/-- `re.sub` from a cursor on. -/
def subFrom (r : Regex) (replacement : Text) : Nat → Cursor → Text
  | 0, c => c.right
  | fuel + 1, c =>
    match r.firstEnd c with
    | some d => replacement ++ subFrom r replacement fuel d
    | none =>
      match c.right with
      | [] => []
      | x :: right => x :: subFrom r replacement fuel ⟨x :: c.left, right⟩

/-- `re.sub`, for a pattern that does not match the empty text. -/
def sub (r : Regex) (replacement text : Text) : Text :=
  subFrom r replacement (text.length + 1) (Cursor.start text)

variable {r : Regex} {replacement : Text} {fuel : Nat} {c d : Cursor}

theorem subFrom_some (h : r.firstEnd c = some d) :
    subFrom r replacement (fuel + 1) c = replacement ++ subFrom r replacement fuel d := by
  rw [subFrom, h]

theorem subFrom_nil (h : r.firstEnd c = none) (hright : c.right = []) :
    subFrom r replacement (fuel + 1) c = [] := by
  rw [subFrom, h, hright]

theorem subFrom_cons (h : r.firstEnd c = none) {x : Char} {right : Text}
    (hright : c.right = x :: right) :
    subFrom r replacement (fuel + 1) c =
      x :: subFrom r replacement fuel ⟨x :: c.left, right⟩ := by
  rw [subFrom, h, hright]

end Sub

section Languages

theorem ends_seq_assoc (r s t : Regex) :
    (Regex.seq (Regex.seq r s) t).ends = (Regex.seq r (Regex.seq s t)).ends := by
  funext c
  rw [ends, ends, ends, List.flatMap_assoc]
  rfl

theorem ends_seq_congr (r : Regex) {s s' : Regex} (h : s.ends = s'.ends) :
    (Regex.seq r s).ends = (Regex.seq r s').ends := by
  funext c
  rw [ends, ends, h]

variable {r s : Regex} {lang lang' : Text → Prop}

/-- What an expression reads depends on the text that it reads alone. -/
def Language (r : Regex) (lang : Text → Prop) : Prop :=
  ∀ c d, d ∈ r.ends c ↔ ∃ y, c.Reads y d ∧ lang y

theorem language_char (accepts : Char → Bool) :
    Language (char accepts) fun y => ∃ x, y = [x] ∧ accepts x = true := by
  intro c d
  rw [mem_ends_char]
  constructor
  · rintro ⟨x, hx, hreads⟩
    exact ⟨[x], hreads, x, rfl, hx⟩
  · rintro ⟨y, hreads, x, rfl, hx⟩
    exact ⟨x, hx, hreads⟩

theorem Language.seq (hr : Language r lang) (hs : Language s lang') :
    Language (Regex.seq r s) fun y => ∃ u v, y = u ++ v ∧ lang u ∧ lang' v := by
  intro c d
  rw [mem_ends_seq]
  constructor
  · rintro ⟨m, hm, hd⟩
    obtain ⟨u, hu, hlang⟩ := (hr c m).mp hm
    obtain ⟨v, hv, hlang'⟩ := (hs m d).mp hd
    exact ⟨u ++ v, hu.trans hv, u, v, rfl, hlang, hlang'⟩
  · rintro ⟨y, hreads, u, v, rfl, hu, hv⟩
    obtain ⟨m, hcm, hmd⟩ := hreads.split
    exact ⟨m, (hr c m).mpr ⟨u, hcm, hu⟩, (hs m d).mpr ⟨v, hmd, hv⟩⟩

theorem language_copies_char (accepts : Char → Bool) (n : Nat) :
    Language (copies n (char accepts)) fun y => y.length = n ∧ ∀ x ∈ y, accepts x = true := by
  induction n with
  | zero =>
    intro c d
    rw [copies, mem_ends_empty]
    constructor
    · rintro rfl
      exact ⟨[], d.reads_nil, rfl, by simp⟩
    · rintro ⟨y, hreads, hlength, -⟩
      obtain rfl := List.length_eq_zero_iff.mp hlength
      exact (hreads.unique c.reads_nil (by rw [hreads.place_eq]; rfl)).2
  | succ n ih =>
    intro c d
    refine ((language_char accepts).seq ih c d).trans ⟨?_, ?_⟩
    · rintro ⟨y, hreads, u, v, rfl, ⟨x, rfl, hx⟩, hlength, hv⟩
      exact ⟨_, hreads, by simp [hlength], List.forall_mem_cons.mpr ⟨hx, hv⟩⟩
    · rintro ⟨y, hreads, hlength, hy⟩
      cases y with
      | nil => simp at hlength
      | cons x y =>
        obtain ⟨hx, hy⟩ := List.forall_mem_cons.mp hy
        exact ⟨_, hreads, [x], y, rfl, ⟨x, rfl, hx⟩, by simpa using hlength, hy⟩

theorem language_atLeast_char (accepts : Char → Bool) (n : Nat) :
    Language (atLeast n (char accepts)) fun y => n ≤ y.length ∧ ∀ x ∈ y, accepts x = true := by
  have hstar : Language (star (char accepts)) fun y => ∀ x ∈ y, accepts x = true := fun c d => by
    rw [mem_ends_star_char]
    simp only [and_comm]
  intro c d
  refine ((language_copies_char accepts n).seq hstar c d).trans ⟨?_, ?_⟩
  · rintro ⟨y, hreads, u, v, rfl, ⟨hlength, hu⟩, hv⟩
    exact ⟨_, hreads, by simp [hlength], List.forall_mem_append.mpr ⟨hu, hv⟩⟩
  · rintro ⟨y, hreads, hlength, hy⟩
    refine ⟨y, hreads, y.take n, y.drop n, (List.take_append_drop n y).symm,
      ⟨List.length_take_of_le hlength, fun x hx => hy x (List.mem_of_mem_take hx)⟩,
      fun x hx => hy x (List.mem_of_mem_drop hx)⟩

end Languages

section Delimited

/-- An expression that reads a text of a language between two places where the same is asked of
the characters on both sides. -/
structure Delimited (r : Regex) (holds : Option Char → Option Char → Bool) (lang : Text → Prop) :
    Prop where
  ends : ∀ c d, d ∈ r.ends c ↔ holds c.left.head? c.right.head? = true ∧
    holds d.left.head? d.right.head? = true ∧ ∃ y, c.Reads y d ∧ lang y
  nonempty : ∀ y, lang y → y ≠ []

variable {r core : Regex} {holds : Option Char → Option Char → Bool} {lang : Text → Prop}
  {c d : Cursor}

theorem Language.delimited (h : Language core lang) (hne : ∀ y, lang y → y ≠ []) :
    Delimited (Regex.seq (look holds) (Regex.seq core (look holds))) holds lang where
  nonempty := hne
  ends c d := by
    simp only [mem_ends_seq, mem_ends_look]
    constructor
    · rintro ⟨_, ⟨hc, rfl⟩, m, hm, hd, rfl⟩
      exact ⟨hc, hd, (h _ _).mp hm⟩
    · rintro ⟨hc, hd, hreads⟩
      exact ⟨c, ⟨hc, rfl⟩, d, (h c d).mpr hreads, hd, rfl⟩

theorem Delimited.start (h : Delimited r holds lang) (hfirst : r.firstEnd c = some d) :
    holds c.left.head? c.right.head? = true := by
  have hmem := List.mem_of_mem_head? (firstEnd_eq_some hfirst).1
  exact ((h.ends c d).mp hmem).1

theorem Delimited.stop (h : Delimited r holds lang) (hfirst : r.firstEnd c = some d) :
    holds d.left.head? d.right.head? = true := by
  have hmem := List.mem_of_mem_head? (firstEnd_eq_some hfirst).1
  exact ((h.ends c d).mp hmem).2.1

theorem Delimited.productive (h : Delimited r holds lang) : r.Productive := by
  intro c d hd
  obtain ⟨-, -, y, hreads, hy⟩ := (h.ends c d).mp hd
  have hlength := List.length_pos_iff.mpr (h.nonempty y hy)
  rw [hreads.place_eq]
  omega

theorem ends_eq_nil_of_firstEnd (h : r.Productive) (hnone : r.firstEnd c = none) :
    r.ends c = [] := by
  cases hends : r.ends c with
  | nil => rfl
  | cons d ds =>
    have hplace := h (hends ▸ List.mem_cons_self : d ∈ r.ends c)
    rw [firstEnd, hends, List.head?_cons, Option.filter_some, if_pos (by simpa using hplace)] at hnone
    cases hnone

end Delimited

section Clean

variable {r : Regex} {holds : Option Char → Option Char → Bool} {lang : Text → Prop}
  {inClass : Char → Prop} {replacement text : Text} {c : Cursor}

/-- A replacement that no match of the language can touch. -/
structure Inert (inClass : Char → Prop) (lang : Text → Prop) (replacement : Text) : Prop where
  letters : ∀ y, lang y → ∀ x ∈ y, inClass x
  first : ∀ x ∈ replacement.head?, ¬ inClass x
  last : ∃ x ∈ replacement.getLast?, ¬ inClass x
  inside : ∀ y, lang y → ¬ y <:+: replacement

/-- What the result of a substitution starts with was in the text, where the replacement is not
a part of it. -/
theorem reads_of_subFrom (h : Delimited r holds lang) (hinert : Inert inClass lang replacement)
    {fuel : Nat} {c : Cursor} (hfuel : c.right.length < fuel) {y v : Text}
    (hy : ∀ x ∈ y, inClass x) (hout : subFrom r replacement fuel c = y ++ v) :
    ∃ e, c.Reads y e ∧
      (v.head? = e.right.head? ∨ holds e.left.head? e.right.head? = true) := by
  induction fuel generalizing c y with
  | zero => omega
  | succ fuel ih =>
    cases hfirst : r.firstEnd c with
    | some d =>
      rw [subFrom_some hfirst] at hout
      cases y with
      | nil => exact ⟨c, c.reads_nil, .inr (h.start hfirst)⟩
      | cons x y =>
        obtain ⟨z, hz, -⟩ := hinert.last
        cases replacement with
        | nil => cases hz
        | cons w ws =>
          obtain rfl : w = x := (List.cons.inj hout).1
          exact absurd (hy w List.mem_cons_self) (hinert.first w rfl)
    | none =>
      cases hright : c.right with
      | nil =>
        rw [subFrom_nil hfirst hright] at hout
        obtain ⟨rfl, rfl⟩ := List.append_eq_nil_iff.mp hout.symm
        exact ⟨c, c.reads_nil, .inl (by rw [hright])⟩
      | cons x right =>
        rw [subFrom_cons hfirst hright] at hout
        rw [hright] at hfuel
        cases y with
        | nil =>
          obtain rfl : x :: _ = v := hout
          exact ⟨c, c.reads_nil, .inl (by rw [hright]; rfl)⟩
        | cons w y =>
          obtain ⟨rfl, htail⟩ := List.cons.inj hout
          have hstep : c.Reads [x] ⟨x :: c.left, right⟩ := ⟨hright, rfl⟩
          obtain ⟨e, hreads, hend⟩ := ih (c := ⟨x :: c.left, right⟩)
            (Nat.lt_of_succ_lt_succ hfuel) (fun z hz => hy z (List.mem_cons_of_mem x hz)) htail
          exact ⟨e, hstep.trans hreads, hend⟩

/-- No match in a text that follows a character. -/
def Clean (holds : Option Char → Option Char → Bool) (lang : Text → Prop) (before : Option Char)
    (text : Text) : Prop :=
  ∀ u y v, text = u ++ (y ++ v) → lang y → holds (u.getLast?.or before) y.head? = true →
    holds y.getLast? v.head? = false

theorem clean_after_replacement (hinert : Inert inClass lang replacement)
    {before : Option Char} {rest : Text}
    (hrest : Clean holds lang (replacement.getLast?.or before) rest) :
    Clean holds lang before (replacement ++ rest) := by
  intro u y v hout hlang hstart
  obtain ⟨w, rfl, hrest'⟩ | ⟨w, rfl, hw⟩ := List.append_eq_append_iff.mp hout
  · exact hrest _ y v hrest' hlang (by rwa [List.getLast?_append, Option.or_assoc] at hstart)
  · obtain ⟨z, rfl, -⟩ | ⟨z, rfl, hrest'⟩ := List.append_eq_append_iff.mp hw
    · exact absurd ⟨u, z, by rw [List.append_assoc]⟩ (hinert.inside y hlang)
    · cases w with
      | nil => exact hrest [] _ v hrest' hlang (by simpa using hstart)
      | cons x xs =>
        -- the last character of the replacement is one of the match
        obtain ⟨last, hlast, hclass⟩ := hinert.last
        rw [List.getLast?_append_of_ne_nil _ (List.cons_ne_nil x xs)] at hlast
        exact absurd (hinert.letters _ hlang last
          (List.mem_append_left z (List.mem_of_getLast? hlast))) hclass

theorem clean_subFrom (h : Delimited r holds lang) (hinert : Inert inClass lang replacement)
    {fuel : Nat} {c : Cursor} (hfuel : c.right.length < fuel) {before : Option Char}
    (hbefore : before = c.left.head? ∨ holds c.left.head? c.right.head? = true) :
    Clean holds lang before (subFrom r replacement fuel c) := by
  induction fuel generalizing c before with
  | zero => omega
  | succ fuel ih =>
    cases hfirst : r.firstEnd c with
    | some d =>
      obtain ⟨-, hplace, x, hreads⟩ := firstEnd_eq_some hfirst
      have hlength := hreads.length_eq
      rw [subFrom_some hfirst]
      exact clean_after_replacement hinert (ih (by omega) (.inr (h.stop hfirst)))
    | none =>
      intro u y v hout hlang hstart
      have hne := h.nonempty y hlang
      cases hright : c.right with
      | nil =>
        rw [subFrom_nil hfirst hright] at hout
        obtain ⟨-, hyv⟩ := List.append_eq_nil_iff.mp hout.symm
        exact absurd (List.append_eq_nil_iff.mp hyv).1 hne
      | cons x right =>
        cases u with
        | cons w u =>
          rw [subFrom_cons hfirst hright] at hout
          obtain ⟨rfl, htail⟩ := List.cons.inj hout
          rw [hright] at hfuel
          have hclean := @ih ⟨x :: c.left, right⟩ (Nat.lt_of_succ_lt_succ hfuel) (some x) (.inl rfl)
          refine hclean u y v htail hlang ?_
          rw [List.getLast?_cons] at hstart
          cases hu : u.getLast? <;> simpa [hu] using hstart
        | nil =>
          obtain ⟨e, hreads, hend⟩ := reads_of_subFrom h hinert hfuel (hinert.letters y hlang) hout
          have hhead : c.right.head? = y.head? := by
            rw [hreads.1, List.head?_append_of_ne_nil _ hne]
          have hlast : e.left.head? = y.getLast? := by
            rw [hreads.2, List.head?_append_of_ne_nil _ (by simpa using hne), List.head?_reverse]
          have hopen : holds c.left.head? c.right.head? = true := by
            obtain rfl | hopen := hbefore
            · rw [hhead]
              simpa using hstart
            · exact hopen
          by_contra hclose
          rw [Bool.not_eq_false] at hclose
          have hstop : holds e.left.head? e.right.head? = true := by
            obtain heq | hstop := hend
            · rw [← heq, hlast]
              exact hclose
            · exact hstop
          have hmem := (h.ends c e).mpr ⟨hopen, hstop, y, hreads, hlang⟩
          rw [ends_eq_nil_of_firstEnd h.productive hfirst] at hmem
          cases hmem

/-- No match is left after a substitution, wherever it is looked for. -/
theorem ends_sub (h : Delimited r holds lang) (hinert : Inert inClass lang replacement)
    (text : Text) {x : Text} {c : Cursor}
    (hc : (Cursor.start (sub r replacement text)).Reads x c) : r.ends c = [] := by
  have hclean : Clean holds lang none (sub r replacement text) :=
    clean_subFrom h hinert (Nat.lt_succ_self _) (.inl rfl)
  refine List.eq_nil_iff_forall_not_mem.mpr fun d hd => ?_
  obtain ⟨hopen, hclose, y, hreads, hlang⟩ := (h.ends c d).mp hd
  have hne := h.nonempty y hlang
  have hout : sub r replacement text = x ++ (y ++ d.right) := by
    rw [← hreads.1]
    exact hc.1
  have hstart : c.left.head? = x.getLast? := Cursor.head?_of_reads_start hc
  have hlast : d.left.head? = y.getLast? := by
    rw [hreads.2, List.head?_append_of_ne_nil _ (by simpa using hne), List.head?_reverse]
  rw [hreads.1, List.head?_append_of_ne_nil _ hne, hstart] at hopen
  have hfalse := hclean x y d.right hout hlang (by rwa [Option.or_none])
  rw [hlast, hfalse] at hclose
  cases hclose

theorem firstEnd_eq_none (h : r.ends c = []) : r.firstEnd c = none := by
  rw [firstEnd, h]
  rfl

theorem subFrom_of_scan {fuel : Nat} (h : scan r fuel c = []) :
    subFrom r replacement fuel c = c.right := by
  induction fuel generalizing c with
  | zero => rfl
  | succ fuel ih =>
    rw [scan] at h
    cases hfirst : r.firstEnd c with
    | some d =>
      rw [hfirst] at h
      cases h
    | none =>
      rw [hfirst] at h
      cases hright : c.right with
      | nil => exact subFrom_nil hfirst hright
      | cons x right =>
        rw [hright] at h
        rw [subFrom_cons hfirst hright, ih h]

/-- Where nothing is found, nothing is replaced. -/
theorem sub_eq_self (h : r.finditer text = []) : sub r replacement text = text := subFrom_of_scan h

theorem finditer_eq_nil (h : ∀ x d, (Cursor.start text).Reads x d → r.ends d = []) :
    r.finditer text = [] := by
  cases hfound : r.finditer text with
  | nil => rfl
  | cons m ms =>
    have hmem : m ∈ r.finditer text := by
      rw [hfound]
      exact List.mem_cons_self
    obtain ⟨hfirst, x, hreads⟩ := (found_scan r _ _).matched m hmem
    rw [firstEnd_eq_none (h x m.1 hreads)] at hfirst
    cases hfirst

/-- A substitution leaves nothing to substitute. -/
theorem finditer_sub (h : Delimited r holds lang) (hinert : Inert inClass lang replacement)
    (text : Text) : r.finditer (sub r replacement text) = [] :=
  finditer_eq_nil fun _ _ => ends_sub h hinert text

end Clean

end DataForge.Foundation.Substitution
