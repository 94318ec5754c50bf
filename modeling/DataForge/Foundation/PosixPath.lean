import DataForge.Foundation.Strings

namespace DataForge.Foundation.PosixPath

open DataForge.Foundation.Strings

def dot : Text := ['.']

def dotdot : Text := ['.', '.']

/-- The component loop of `posixpath.normpath`; `done` holds the kept components
in reverse order. -/
def normComponents (rooted : Bool) : List Text → List Text → List Text
  | [], done => done.reverse
  | comp :: comps, done =>
    if comp = [] ∨ comp = dot then normComponents rooted comps done
    else if comp ≠ dotdot ∨ (rooted = false ∧ done = []) ∨ done.head? = some dotdot then
      normComponents rooted comps (comp :: done)
    else normComponents rooted comps done.tail

def initialSlashes (path : Text) : Nat :=
  if ['/', '/', '/'].isPrefixOf path then 1
  else if ['/', '/'].isPrefixOf path then 2
  else if ['/'].isPrefixOf path then 1
  else 0

def normpath (path : Text) : Text :=
  if path = [] then dot
  else
    let slashes := initialSlashes path
    let comps := normComponents (slashes ≠ 0) (path.splitOn '/') []
    let out := List.replicate slashes '/' ++ joinWith '/' comps
    if out = [] then dot else out

def basename (path : Text) : Text := (path.splitOn '/').getLast?.getD []

/-- `posixpath.join` of two texts. -/
def join (root path : Text) : Text :=
  if path.head? = some '/' then path
  else if root = [] ∨ root.getLast? = some '/' then root ++ path
  else root ++ '/' :: path

theorem normpath_ne_nil (path : Text) : normpath path ≠ [] := by
  rw [normpath]
  split
  · simp [dot]
  · dsimp only
    split
    · simp [dot]
    · next hout => exact hout

/-- A component that normalisation keeps wherever it stands. -/
def Plain (comp : Text) : Prop := comp ≠ [] ∧ comp ≠ dot ∧ comp ≠ dotdot ∧ '/' ∉ comp

instance (comp : Text) : Decidable (Plain comp) := inferInstanceAs (Decidable (_ ∧ _))

theorem normComponents_plain (rooted : Bool) {comps : List Text} (h : ∀ p ∈ comps, Plain p)
    (done : List Text) : normComponents rooted comps done = done.reverse ++ comps := by
  induction comps generalizing done with
  | nil => simp [normComponents]
  | cons comp comps ih =>
    obtain ⟨hn, hd, hdd, -⟩ := h comp (by simp)
    rw [normComponents, if_neg (by simp [hn, hd]), if_pos (Or.inl hdd),
      ih fun p hp => h p (by simp [hp])]
    simp

theorem initialSlashes_of_head {path : Text} (h : path.head? ≠ some '/') :
    initialSlashes path = 0 := by
  cases path with
  | nil => rfl
  | cons c s =>
    have hc : c ≠ '/' := by simpa using h
    have hb : ('/' == c) = false := by simpa using Ne.symm hc
    simp [initialSlashes, List.isPrefixOf, hb]

theorem head?_joinWith {comps : List Text} (h : ∀ p ∈ comps, p ≠ [] ∧ '/' ∉ p) (hne : comps ≠ []) :
    (joinWith '/' comps).head? ≠ some '/' ∧ joinWith '/' comps ≠ [] := by
  cases comps with
  | nil => exact absurd rfl hne
  | cons comp comps =>
    obtain ⟨hn, hs⟩ := h comp (by simp)
    cases comp with
    | nil => exact absurd rfl hn
    | cons c s =>
      have hc : c ≠ '/' := fun he => hs (by simp [he])
      cases comps with
      | nil => simp [joinWith, hc]
      | cons d ds => simp [joinWith, List.intercalate_cons_cons, hc]

theorem mem_normComponents {rooted : Bool} {comps done : List Text} {p : Text}
    (hp : p ∈ normComponents rooted comps done) : (p ∈ comps ∧ p ≠ []) ∨ p ∈ done := by
  induction comps generalizing done with
  | nil => exact Or.inr (by simpa [normComponents] using hp)
  | cons comp comps ih =>
    rw [normComponents] at hp
    split at hp
    · obtain ⟨hm, hn⟩ | hd := ih hp
      · exact Or.inl ⟨by simp [hm], hn⟩
      · exact Or.inr hd
    · split at hp
      · obtain ⟨hm, hn⟩ | hd := ih hp
        · exact Or.inl ⟨by simp [hm], hn⟩
        · rcases List.mem_cons.mp hd with rfl | hd
          · exact Or.inl ⟨by simp, by simp_all⟩
          · exact Or.inr hd
      · obtain ⟨hm, hn⟩ | hd := ih hp
        · exact Or.inl ⟨by simp [hm], hn⟩
        · exact Or.inr (List.mem_of_mem_tail hd)

theorem head?_normpath {path : Text} (h : path.head? ≠ some '/') :
    (normpath path).head? ≠ some '/' := by
  by_cases hp : path = []
  · subst path
    decide
  · have hcomps : ∀ p ∈ normComponents false (path.splitOn '/') [], p ≠ [] ∧ '/' ∉ p := by
      intro p hp
      obtain ⟨hm, hn⟩ | hd := mem_normComponents hp
      · exact ⟨hn, not_mem_of_mem_splitOn '/' path p hm⟩
      · simp at hd
    simp only [normpath, if_neg hp, initialSlashes_of_head h, List.replicate_zero, List.nil_append,
      ne_eq, not_true_eq_false, decide_false]
    by_cases hne : normComponents false (path.splitOn '/') [] = []
    · simp [hne, joinWith_nil, dot]
    · obtain ⟨hhead, hnil⟩ := head?_joinWith hcomps hne
      rw [if_neg hnil]
      exact hhead

/-- A relative path of plain components is already normal. -/
theorem normpath_joinWith {comps : List Text} (h : ∀ p ∈ comps, Plain p) (hne : comps ≠ []) :
    normpath (joinWith '/' comps) = joinWith '/' comps := by
  obtain ⟨hhead, hnil⟩ := head?_joinWith (fun p hp => ⟨(h p hp).1, (h p hp).2.2.2⟩) hne
  have hslash := initialSlashes_of_head hhead
  have hsplit := splitOn_joinWith '/' (fun p hp => (h p hp).2.2.2) hne
  simp only [normpath, if_neg hnil, hslash, hsplit, normComponents_plain _ h, List.reverse_nil,
    List.nil_append, List.replicate_zero]

theorem normComponents_append (rooted : Bool) (comps rest done : List Text) :
    normComponents rooted (comps ++ rest) done =
      normComponents rooted rest (normComponents rooted comps done).reverse := by
  induction comps generalizing done with
  | nil => rw [List.nil_append, normComponents, List.reverse_reverse]
  | cons comp comps ih =>
    rw [List.cons_append, normComponents, normComponents]
    split
    · exact ih done
    · split
      · exact ih (comp :: done)
      · exact ih done.tail

/-- Without `..` normalisation drops empty components and dots, and nothing else. -/
theorem normComponents_of_inside (rooted : Bool) {comps : List Text} (h : dotdot ∉ comps)
    (done : List Text) : normComponents rooted comps done =
      done.reverse ++ comps.filter fun comp => decide (comp ≠ [] ∧ comp ≠ dot) := by
  induction comps generalizing done with
  | nil => simp [normComponents]
  | cons comp comps ih =>
    rw [List.mem_cons, not_or] at h
    obtain ⟨hne, hrest⟩ := h
    rw [normComponents, List.filter_cons]
    split
    · next hskip =>
      rw [ih hrest, if_neg (by simpa using fun hn => hskip.resolve_left hn)]
    · next hkeep =>
      rw [if_pos (Or.inl (Ne.symm hne)), ih hrest, if_pos (by simpa [not_or] using hkeep)]
      simp

/-- The components a path walks through once it is normalised. -/
def components (path : Text) : List Text :=
  normComponents (initialSlashes path ≠ 0) (path.splitOn '/') []

/-- The path stays below the root. -/
def Under (root path : Text) : Prop :=
  initialSlashes path = initialSlashes root ∧ components root <+: components path

def slashesKept : Nat → Nat
  | 0 => 0
  | 2 => 2
  | _ => 1

/-- Only the run of slashes at the start decides how many are kept. -/
theorem initialSlashes_eq (path : Text) :
    initialSlashes path = slashesKept (path.takeWhile (· == '/')).length := by
  match path with
  | [] => rfl
  | [c] => by_cases hc : c = '/' <;> simp [initialSlashes, slashesKept, hc, @eq_comm _ '/' c]
  | [c, d] =>
    by_cases hc : c = '/' <;> by_cases hd : d = '/' <;>
      simp [initialSlashes, slashesKept, hc, hd, @eq_comm _ '/' c, @eq_comm _ '/' d]
  | c :: d :: e :: s =>
    by_cases hc : c = '/' <;> by_cases hd : d = '/' <;> by_cases he : e = '/' <;>
      simp [initialSlashes, slashesKept, hc, hd, he, @eq_comm _ '/' c, @eq_comm _ '/' d,
        @eq_comm _ '/' e]

theorem initialSlashes_append {root path : Text}
    (h : path.head? ≠ some '/' ∨ ∃ c ∈ root, c ≠ '/') :
    initialSlashes (root ++ path) = initialSlashes root := by
  have hrun : (root ++ path).takeWhile (· == '/') = root.takeWhile (· == '/') := by
    rw [List.takeWhile_append]
    split
    · next hall =>
      have hroot : root.takeWhile (· == '/') = root :=
        (List.takeWhile_prefix _).eq_of_length hall
      obtain hhead | ⟨c, hc, hne⟩ := h
      · cases path with
        | nil => rw [hroot, List.takeWhile_nil, List.append_nil]
        | cons c s =>
          rw [hroot, List.takeWhile_cons_of_neg (by simpa using hhead), List.append_nil]
      · rw [List.takeWhile_eq_self_iff] at hroot
        exact absurd (by simpa using hroot c hc) hne
    · rfl
  rw [initialSlashes_eq, hrun, ← initialSlashes_eq]

theorem splitOn_join {root path : Text} (h : path.head? ≠ some '/') :
    ∃ comps, (join root path).splitOn '/' = comps ++ path.splitOn '/' ∧
      ∀ rooted, normComponents rooted comps [] = normComponents rooted (root.splitOn '/') [] := by
  rw [join, if_neg h]
  split
  · next hroot =>
    obtain rfl | hlast := hroot
    · exact ⟨[], by simp, fun rooted => by simp [normComponents]⟩
    · obtain ⟨init, rfl⟩ := List.getLast?_eq_some_iff.mp hlast
      refine ⟨init.splitOn '/', ?_, fun rooted => ?_⟩
      · rw [List.append_assoc, List.singleton_append, List.splitOn_append_cons_self]
      · rw [List.splitOn_append_cons_self, List.splitOn_nil, normComponents_append, normComponents,
          if_pos (Or.inl rfl), normComponents, List.reverse_reverse]
  · exact ⟨root.splitOn '/', List.splitOn_append_cons_self .., fun _ => rfl⟩

theorem initialSlashes_join {root path : Text} (h : path.head? ≠ some '/') :
    initialSlashes (join root path) = initialSlashes root := by
  rw [join, if_neg h]
  split
  · exact initialSlashes_append (Or.inl h)
  · next hroot =>
    rw [not_or] at hroot
    refine initialSlashes_append (Or.inr ?_)
    refine ⟨root.getLast hroot.1, List.getLast_mem _, fun hlast => hroot.2 ?_⟩
    rw [List.getLast?_eq_some_getLast hroot.1, hlast]

/-- A relative path without `..` stays below whatever root it is joined to. -/
theorem under_join {root path : Text} (hhead : path.head? ≠ some '/')
    (hinside : dotdot ∉ path.splitOn '/') : Under root (join root path) := by
  have hslashes : initialSlashes (join root path) = initialSlashes root := initialSlashes_join hhead
  obtain ⟨comps, hsplit, hcomps⟩ := @splitOn_join root path hhead
  refine ⟨hslashes, ?_⟩
  rw [components, components, hslashes, hsplit, normComponents_append,
    normComponents_of_inside _ hinside, List.reverse_reverse, hcomps]
  exact List.prefix_append ..

theorem basename_eq {path : Text} {init : List Text} {last : Text}
    (h : path.splitOn '/' = init ++ [last]) : basename path = last := by
  simp [basename, h]

theorem splitOn_eq_append_basename (path : Text) :
    ∃ init, path.splitOn '/' = init ++ [basename path] := by
  obtain ⟨init, last, h⟩ := List.eq_nil_or_concat (path.splitOn '/') |>.resolve_left
    (List.splitOn_ne_nil '/' path)
  rw [List.concat_eq_append] at h
  exact ⟨init, by rw [basename_eq h, h]⟩

/-- The components of a normalised relative path are those normalisation kept. -/
theorem splitOn_normpath {path : Text} (hhead : path.head? ≠ some '/')
    (hcomps : normComponents false (path.splitOn '/') [] ≠ []) :
    (normpath path).splitOn '/' = normComponents false (path.splitOn '/') [] := by
  have hplain : ∀ p ∈ normComponents false (path.splitOn '/') [], p ≠ [] ∧ '/' ∉ p := by
    intro p hp
    obtain ⟨hm, hn⟩ | hd := mem_normComponents hp
    · exact ⟨hn, not_mem_of_mem_splitOn '/' path p hm⟩
    · exact absurd hd List.not_mem_nil
  have hne : path ≠ [] := fun he => hcomps (by simp [he, normComponents])
  have hslashes := initialSlashes_of_head hhead
  simp only [normpath, if_neg hne, hslashes, List.replicate_zero, List.nil_append, ne_eq,
    not_true_eq_false, decide_false, if_neg (head?_joinWith hplain hcomps).2]
  exact splitOn_joinWith '/' (fun p hp => (hplain p hp).2) hcomps

/-- Normalisation keeps the last component of a relative path unless it is a dot
or two. -/
theorem basename_normpath {path : Text} (hhead : path.head? ≠ some '/')
    (hbase : Plain (basename path)) : basename (normpath path) = basename path := by
  obtain ⟨init, hsplit⟩ := splitOn_eq_append_basename path
  have hcomps : normComponents false (path.splitOn '/') [] =
      normComponents false init [] ++ [basename path] := by
    rw [hsplit, normComponents_append, normComponents_plain false (by simpa using hbase),
      List.reverse_reverse]
  have hnorm : (normpath path).splitOn '/' = normComponents false init [] ++ [basename path] := by
    rw [splitOn_normpath hhead (by simp [hcomps]), hcomps]
  exact basename_eq hnorm

example : normpath "a/./b//../c".toList = "a/c".toList := by decide

example : normpath "//a/../../b/".toList = "//b".toList := by decide

end DataForge.Foundation.PosixPath
