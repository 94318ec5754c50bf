import DataForge.Foundation.JsonReader
import Mathlib.Tactic.SplitIfs

namespace DataForge.Foundation.JsonRoundTrip

open DataForge.Foundation.Strings
open DataForge.Foundation.Dictionary
open DataForge.Foundation.Canonical
open DataForge.Foundation.Json
open DataForge.Foundation.JsonReader
open DataForge.Foundation.JsonErrors

section Text

variable {rest : Text}

theorem toLower_hexDigit : ∀ n < 16, (hexDigit n).toLower = hexDigit n := by decide

theorem readHex4_hex4 {n : Nat} (h : n < 0x10000) (rest : Text) :
    readHex4 (hex4 n ++ rest) = some (n, rest) := by
  have hlower : ∀ m, (hexDigit m).toLower = hexDigit m := fun m => by
    rw [← hexDigit_mod, toLower_hexDigit _ (Nat.mod_lt _ (by decide))]
  have hvalue : ∀ m, hexValue (hexDigit m) = m % 16 := fun m => by
    rw [← hexDigit_mod, hexValue_hexDigit _ (Nat.mod_lt _ (by decide))]
  simp only [hex4, List.cons_append, List.nil_append, readHex4, List.all_cons, List.all_nil,
    hlower, hexDigit_mem, decide_true, Bool.and_self, if_true, List.foldl_cons, List.foldl_nil,
    hvalue, Option.some.injEq, Prod.mk.injEq, and_true]
  omega

theorem readUnicode_hex4 {n : Nat} (h : n < 0x10000) (hn : ¬ (0xd800 ≤ n ∧ n < 0xe000))
    (rest : Text) : readUnicode (hex4 n ++ rest) = some (Char.ofNat n, rest) := by
  rw [readUnicode, readHex4_hex4 h]
  dsimp only
  rw [if_neg (by omega), if_neg (by omega)]

theorem readUnicode_pair {a b : Nat} (ha : 0xd800 ≤ a ∧ a < 0xdc00) (hb : 0xdc00 ≤ b ∧ b < 0xe000)
    (rest : Text) : readUnicode (hex4 a ++ '\\' :: 'u' :: (hex4 b ++ rest)) =
      some (Char.ofNat (0x10000 + (a - 0xd800) * 0x400 + (b - 0xdc00)), rest) := by
  have ha' : a < 0x10000 := by omega
  have hb' : b < 0x10000 := by omega
  simp only [readUnicode, readHex4_hex4 ha', readHex4_hex4 hb', if_pos ha, if_pos hb]

theorem readUnicode_surrogates {n : Nat} (h : 0x10000 ≤ n) (h' : n < 0x110000) (rest : Text) :
    readUnicode (hex4 (0xd800 + (n - 0x10000) / 0x400) ++
      '\\' :: 'u' :: (hex4 (0xdc00 + (n - 0x10000) % 0x400) ++ rest)) =
      some (Char.ofNat n, rest) := by
  have hvalue : 0x10000 + (0xd800 + (n - 0x10000) / 0x400 - 0xd800) * 0x400 +
      (0xdc00 + (n - 0x10000) % 0x400 - 0xdc00) = n := by omega
  rw [readUnicode_pair (by omega) (by omega), hvalue]

/-- An escape is read back, and a character that needs none stands for itself. -/
theorem readString_escapeChar (fuel : Nat) (c : Char) (rest : Text) :
    readString (fuel + 1) (escapeChar c ++ rest) =
      (readString fuel rest).map fun read => (c :: read.1, read.2) := by
  have hvalid : c.toNat < 0xd800 ∨ 0xdfff < c.toNat ∧ c.toNat < 0x110000 := c.valid
  have hchar : ∀ n, c.toNat = n → Char.ofNat n = c := by
    rintro n rfl
    exact Char.ofNat_toNat c
  have hescaped : ∀ s, readEscape (s ++ rest) = some (c, rest) →
      readString (fuel + 1) ('\\' :: s ++ rest) =
        (readString fuel rest).map fun read => (c :: read.1, read.2) := by
    intro s hs
    rw [List.cons_append, readString, if_neg (by decide), if_pos rfl, hs]
    rfl
  unfold escapeChar
  dsimp only
  split_ifs with hquote hslash hn hr ht hf hb hprint hunit
  · subst c
    exact hescaped ['"'] rfl
  · subst c
    exact hescaped ['\\'] rfl
  · exact hescaped ['n'] (by rw [← hchar 10 hn]; rfl)
  · exact hescaped ['r'] (by rw [← hchar 13 hr]; rfl)
  · exact hescaped ['t'] (by rw [← hchar 9 ht]; rfl)
  · exact hescaped ['f'] (by rw [← hchar 12 hf]; rfl)
  · exact hescaped ['b'] (by rw [← hchar 8 hb]; rfl)
  · rw [List.singleton_append, readString, if_neg hquote, if_neg hslash, if_neg (by omega)]
  · refine hescaped ('u' :: hex4 c.toNat) ?_
    have h := readUnicode_hex4 (n := c.toNat) hunit (by omega) rest
    rwa [Char.ofNat_toNat] at h
  · have h := readUnicode_surrogates (n := c.toNat) (by omega) (by omega) rest
    rw [Char.ofNat_toNat] at h
    rw [List.cons_append, List.cons_append]
    refine hescaped _ ?_
    simpa [readEscape] using h

theorem readString_quote {fuel : Nat} {s : Text} (h : s.length < fuel) (rest : Text) :
    readString fuel (s.flatMap escapeChar ++ '"' :: rest) = some (s, rest) := by
  induction s generalizing fuel with
  | nil =>
    obtain _ | fuel := fuel
    · simp at h
    · rfl
  | cons c s ih =>
    obtain _ | fuel := fuel
    · simp at h
    · rw [List.flatMap_cons, List.append_assoc, readString_escapeChar,
        ih (by simpa using h)]
      rfl

theorem escapeChar_ne_nil (c : Char) : escapeChar c ≠ [] := by
  unfold escapeChar
  dsimp only
  split_ifs <;> simp

theorem length_quote (s : Text) : s.length + 2 ≤ (quote s).length := by
  have hflat : s.length ≤ (s.flatMap escapeChar).length := by
    induction s with
    | nil => simp
    | cons c s ih =>
      have hpos := List.length_pos_iff.mpr (escapeChar_ne_nil c)
      rw [List.flatMap_cons, List.length_append, List.length_cons]
      omega
  rw [quote]
  simp only [List.cons_append, List.length_cons, List.length_append, List.length_nil]
  omega

end Text

section Values

/-- A number that the scanner reads as it stands, whatever ends it. -/
def Scans (token : NumberToken) : Prop :=
  ∀ rest, Follows rest → readScalar (token.1 ++ rest) = some (.num token, rest)

/-- Values as a reader makes them: their numbers are written in one way, and no object has a
key twice. -/
inductive Wellformed (number : NumberToken → Prop) : Value → Prop
  | null : Wellformed number .null
  | bool (b : Bool) : Wellformed number (.bool b)
  | num {token : NumberToken} (h : number token) : Wellformed number (.num token)
  | str (s : Text) : Wellformed number (.str s)
  | arr {vs : List Value} (h : ∀ v ∈ vs, Wellformed number v) : Wellformed number (.arr vs)
  | obj {ms : List (Text × Value)} (hkeys : (ms.map Prod.fst).Nodup)
      (h : ∀ m ∈ ms, Wellformed number m.2) : Wellformed number (.obj ms)

abbrev Readable : Value → Prop := Wellformed Scans

/-- The value is read back from its rendering, if its end is marked. -/
def Reads (v : Value) : Prop :=
  ∀ fuel rest, 2 * (render v).length ≤ fuel → Follows rest →
    readValue fuel (render v ++ rest) = some (v, rest)

/-- The first character of a rendering is neither white space nor a closing bracket. -/
theorem exists_render_eq_cons (v : Value) :
    ∃ c s, render v = c :: s ∧ c ∈ "n\"tf[\x7b-0123456789NI".toList := by
  cases v with
  | null => exact ⟨'n', _, rfl, by decide⟩
  | bool b => cases b <;> exact ⟨_, _, rfl, by decide⟩
  | num token =>
    obtain ⟨token, htoken⟩ := token
    cases token with
    | nil => exact htoken.elim
    | cons c s =>
      have hall : ∀ c ∈ "-0123456789NI".toList, c ∈ "n\"tf[\x7b-0123456789NI".toList :=
        forall_mem_of_all (by decide)
      exact ⟨c, s, rfl, hall c htoken.1⟩
  | str s => exact ⟨'"', _, rfl, by decide⟩
  | arr vs => cases vs <;> exact ⟨'[', _, rfl, by decide⟩
  | obj ms => cases ms <;> exact ⟨'\x7b', _, rfl, by decide⟩

theorem skipSpace_cons {c : Char} {s : Text} (h : c ≠ ' ' ∧ c ≠ '\t' ∧ c ≠ '\n' ∧ c ≠ '\r') :
    skipSpace (c :: s) = c :: s := by
  simp [skipSpace, h]

theorem skipSpace_render (v : Value) (rest : Text) :
    skipSpace (render v ++ rest) = render v ++ rest := by
  obtain ⟨c, s, hv, hc⟩ := exists_render_eq_cons v
  have hall : ∀ c ∈ "n\"tf[\x7b-0123456789NI".toList, c ≠ ' ' ∧ c ≠ '\t' ∧ c ≠ '\n' ∧ c ≠ '\r' :=
    forall_mem_of_all (by decide)
  rw [hv, List.cons_append, skipSpace_cons (hall c hc)]

theorem length_render_pos (v : Value) : 0 < (render v).length := by
  obtain ⟨c, s, hv, -⟩ := exists_render_eq_cons v
  rw [hv]
  simp

theorem readValue_scalar {fuel : Nat} {c : Char} {s : Text}
    (h : c ≠ '"' ∧ c ≠ '[' ∧ c ≠ '\x7b') : readValue (fuel + 1) (c :: s) = readScalar (c :: s) := by
  rw [readValue]
  · simp [h.1]
  · simp [h.2.1]
  · simp [h.2.2]

theorem reads_num {token : NumberToken} (h : Scans token) : Reads (.num token) := by
  intro fuel rest hfuel hrest
  obtain _ | fuel := fuel
  · have hpos := length_render_pos (.num token)
    omega
  · have hscan := h rest hrest
    obtain ⟨token, htoken⟩ := token
    cases token with
    | nil => exact htoken.elim
    | cons c s =>
      have hall : ∀ c ∈ "-0123456789NI".toList, c ≠ '"' ∧ c ≠ '[' ∧ c ≠ '\x7b' :=
        forall_mem_of_all (by decide)
      rw [render, List.cons_append, readValue_scalar (hall c htoken.1)]
      exact hscan

theorem reads_str (s : Text) : Reads (.str s) := by
  intro fuel rest hfuel _
  have hlength := length_quote s
  rw [render] at hfuel
  obtain _ | fuel := fuel
  · omega
  · rw [render, quote, List.append_assoc, List.cons_append, readValue]
    rw [List.singleton_append, readString_quote (by omega)]
    rfl

theorem readItems_render {v : Value} {vs : List Value} (hv : Reads v) (hvs : ∀ w ∈ vs, Reads w)
    {fuel : Nat} (hfuel : 2 * (render v ++ renderItems vs).length ≤ fuel + 1) (rest : Text) :
    readItems fuel (render v ++ (renderItems vs ++ rest)) = some (v :: vs, rest) := by
  induction vs generalizing v fuel with
  | nil =>
    have hpos := length_render_pos v
    simp only [renderItems, List.length_append, List.length_singleton] at hfuel
    obtain _ | fuel := fuel
    · omega
    · rw [readItems, hv fuel _ (by omega) (follows_renderItems [] rest)]
      rfl
  | cons w vs ih =>
    have hpos := length_render_pos v
    simp only [renderItems, List.length_append, List.length_cons] at hfuel
    obtain _ | fuel := fuel
    · omega
    · have htail := ih (hvs w (by simp)) (fun u hu => hvs u (by simp [hu]))
        (show 2 * (render w ++ renderItems vs).length ≤ fuel + 1 by
          rw [List.length_append]; omega)
      rw [readItems, hv fuel _ (by omega) (follows_renderItems (w :: vs) rest)]
      simp only [Option.bind_some, renderItems, List.cons_append, List.append_assoc,
        skipSpace_cons (show ',' ≠ ' ' ∧ ',' ≠ '\t' ∧ ',' ≠ '\n' ∧ ',' ≠ '\r' by decide),
        skipSpace_render, htail, Option.map_some]

theorem renderMember_append (k : Text) (v : Value) (s : Text) : renderMember (k, v) ++ s =
    '"' :: (k.flatMap escapeChar ++ '"' :: ':' :: (render v ++ s)) := by
  simp [renderMember, quote]

theorem readMembers_render {k : Text} {v : Value} {ms : List (Text × Value)} (hv : Reads v)
    (hms : ∀ m ∈ ms, Reads m.2) {fuel : Nat}
    (hfuel : 2 * (renderMember (k, v) ++ renderMembers ms).length ≤ fuel + 1) (rest : Text) :
    readMembers fuel (renderMember (k, v) ++ (renderMembers ms ++ rest)) =
      some ((k, v) :: ms, rest) := by
  induction ms generalizing k v fuel with
  | nil =>
    have hpos := length_render_pos v
    have hquote := length_quote k
    simp only [renderMember, renderMembers, List.length_append, List.length_cons,
      List.length_nil] at hfuel
    obtain _ | fuel := fuel
    · omega
    · rw [renderMember_append, readMembers, readString_quote (by omega)]
      simp only [Option.bind_some, skipSpace_render,
        skipSpace_cons (show ':' ≠ ' ' ∧ ':' ≠ '\t' ∧ ':' ≠ '\n' ∧ ':' ≠ '\r' by decide)]
      rw [hv fuel _ (by omega) (follows_renderMembers [] rest)]
      rfl
  | cons m ms ih =>
    obtain ⟨j, w⟩ := m
    have hpos := length_render_pos v
    have hquote := length_quote k
    simp only [renderMembers, List.length_append, List.length_cons] at hfuel
    have hlength : (renderMember (k, v)).length = (quote k).length + 1 + (render v).length := by
      simp [renderMember]
      omega
    obtain _ | fuel := fuel
    · omega
    · have htail := ih (k := j) (hms (j, w) (by simp)) (fun u hu => hms u (by simp [hu]))
        (show 2 * (renderMember (j, w) ++ renderMembers ms).length ≤ fuel + 1 by
          rw [List.length_append]; omega)
      rw [renderMember_append, readMembers, readString_quote (by omega)]
      simp only [Option.bind_some, skipSpace_render,
        skipSpace_cons (show ':' ≠ ' ' ∧ ':' ≠ '\t' ∧ ':' ≠ '\n' ∧ ':' ≠ '\r' by decide)]
      rw [hv fuel _ (by omega) (follows_renderMembers ((j, w) :: ms) rest)]
      have hopen : skipSpace (renderMember (j, w) ++ (renderMembers ms ++ rest)) =
          renderMember (j, w) ++ (renderMembers ms ++ rest) := by
        rw [renderMember_append]
        exact skipSpace_cons (by decide)
      simp only [Option.bind_some, renderMembers, List.cons_append, List.append_assoc,
        skipSpace_cons (show ',' ≠ ' ' ∧ ',' ≠ '\t' ∧ ',' ≠ '\n' ∧ ',' ≠ '\r' by decide),
        hopen, htail, Option.map_some]

theorem reads_of_readable {v : Value} (h : Readable v) : Reads v := by
  induction h with
  | null =>
    intro fuel rest hfuel _
    obtain _ | fuel := fuel
    · exact absurd hfuel (by decide)
    · rfl
  | bool b =>
    intro fuel rest hfuel _
    obtain _ | fuel := fuel
    · exact absurd hfuel (by cases b <;> decide)
    · cases b <;> rfl
  | num h => exact reads_num h
  | str s => exact reads_str s
  | @arr vs _ ih =>
    intro fuel rest hfuel _
    obtain _ | fuel := fuel
    · have hpos := length_render_pos (.arr vs)
      omega
    · cases vs with
      | nil => rfl
      | cons v vs =>
        have htail : ∀ w ∈ vs, Reads w := fun w hw => ih w (List.mem_cons_of_mem v hw)
        have hlength : 2 * (render v ++ renderItems vs).length ≤ fuel + 1 := by
          simp only [render, List.length_cons, List.cons_append] at hfuel
          omega
        have hitems := readItems_render (ih v List.mem_cons_self) htail hlength rest
        obtain ⟨c, s, hc, hmem⟩ := exists_render_eq_cons v
        have hall : ∀ c ∈ "n\"tf[\x7b-0123456789NI".toList, c ≠ ']' := forall_mem_of_all (by decide)
        have hbracket := hall c hmem
        rw [render, List.cons_append, List.cons_append, List.append_assoc, readValue,
          skipSpace_render]
        rw [hc, List.cons_append] at hitems ⊢
        simpa [hbracket] using hitems
  | @obj ms hkeys _ ih =>
    intro fuel rest hfuel _
    obtain _ | fuel := fuel
    · have hpos := length_render_pos (.obj ms)
      omega
    · cases ms with
      | nil => rfl
      | cons m ms =>
        obtain ⟨k, v⟩ := m
        have htail : ∀ m ∈ ms, Reads m.2 := fun m hm => ih m (List.mem_cons_of_mem _ hm)
        have hlength : 2 * (renderMember (k, v) ++ renderMembers ms).length ≤ fuel + 1 := by
          simp only [render, List.length_cons, List.cons_append] at hfuel
          omega
        have hmembers := readMembers_render (ih (k, v) List.mem_cons_self) htail hlength rest
        have hupdate : update [] ((k, v) :: ms) = (k, v) :: ms := update_eq_append (d := []) hkeys
        rw [renderMember_append] at hmembers
        rw [render, List.cons_append, List.cons_append, List.append_assoc, renderMember_append,
          readValue, skipSpace_cons (by decide)]
        simp [hmembers, hupdate]

end Values

section Numbers

/-- The text is empty or starts with one of the characters. -/
def HeadIn (cs s : Text) : Prop := ∀ c ∈ s.head?, c ∈ cs

theorem headIn_of_follows {rest : Text} (h : Follows rest) : HeadIn ",]\x7d".toList rest := by
  cases rest with
  | nil => simp [HeadIn]
  | cons c s =>
    intro d hd
    obtain rfl : c = d := by simpa using hd
    obtain rfl | rfl | rfl := h <;> decide

def DigitRun (s : Text) : Prop := s ≠ [] ∧ ∀ c ∈ s, c.isDigit = true

def IsInteger (s : Text) : Prop := s = ['0'] ∨ DigitRun s ∧ s.head? ≠ some '0'

def IsFraction (s : Text) : Prop := s = [] ∨ ∃ digits, DigitRun digits ∧ s = '.' :: digits

def IsExponent (s : Text) : Prop :=
  s = [] ∨ ∃ e sign digits, (e = 'e' ∨ e = 'E') ∧ (sign = [] ∨ sign = ['+'] ∨ sign = ['-']) ∧
    DigitRun digits ∧ s = e :: sign ++ digits

/-- The numbers of the grammar. -/
def IsLexeme (s : Text) : Prop :=
  ∃ sign integer fraction exponent, (sign = [] ∨ sign = ['-']) ∧ IsInteger integer ∧
    IsFraction fraction ∧ IsExponent exponent ∧ s = sign ++ integer ++ fraction ++ exponent

theorem span_digits {digits s : Text} (h : ∀ c ∈ digits, c.isDigit = true)
    (hs : HeadIn ",]\x7deE.".toList s) : (digits ++ s).span Char.isDigit = (digits, s) := by
  rw [List.span_eq_takeWhile_dropWhile, List.takeWhile_append_of_pos h,
    List.dropWhile_append_of_pos h]
  cases s with
  | nil => simp
  | cons c s =>
    have hall : ∀ c ∈ ",]\x7deE.".toList, c.isDigit = false := forall_mem_of_all (by decide)
    have hc := hall c (hs c rfl)
    simp [hc]

theorem headIn_mono {cs ds s : Text} (h : HeadIn cs s) (hcs : ∀ c ∈ cs, c ∈ ds) : HeadIn ds s :=
  fun c hc => hcs c (h c hc)

theorem readSign_digits {digits rest : Text} (hne : digits ≠ [])
    (hdigits : ∀ c ∈ digits, c.isDigit = true) :
    readSign (digits ++ rest) = ([], digits ++ rest) := by
  obtain ⟨d, ds, rfl⟩ := List.exists_cons_of_ne_nil hne
  have hd : d ≠ '-' := by
    rintro rfl
    exact absurd (hdigits '-' List.mem_cons_self) (by decide)
  simp [readSign, hd]

theorem readExponent_append {exponent rest : Text} (h : IsExponent exponent)
    (hrest : HeadIn ",]\x7d".toList rest) :
    readExponent (exponent ++ rest) = (exponent, rest) := by
  have hend : HeadIn ",]\x7deE.".toList rest := headIn_mono hrest (by decide)
  obtain rfl | ⟨e, sign, digits, he, hsign, ⟨hne, hdigits⟩, rfl⟩ := h
  · cases rest with
    | nil => rfl
    | cons c s =>
      have hall : ∀ c ∈ ",]\x7d".toList, ¬ (c = 'e' ∨ c = 'E') := forall_mem_of_all (by decide)
      rw [List.nil_append, readExponent, if_neg (hall c (hrest c rfl))]
  · have hspan := span_digits hdigits hend
    rw [List.cons_append, List.cons_append, List.append_assoc, readExponent, if_pos he]
    have hplus : (digits ++ rest).head? ≠ some '+' := by
      obtain ⟨d, ds, rfl⟩ := List.exists_cons_of_ne_nil hne
      have hdigit := hdigits d List.mem_cons_self
      rintro hd
      obtain rfl : d = '+' := by simpa using hd
      simp at hdigit
    have hminus : readSign (digits ++ rest) = ([], digits ++ rest) :=
      readSign_digits hne hdigits
    obtain rfl | rfl | rfl := hsign
    · simp only [List.nil_append, if_neg hplus, hminus, hspan, if_neg hne,
        List.cons_append]
    · simp only [List.head?_cons, if_true, List.tail_cons, hspan,
        if_neg hne, List.cons_append, List.nil_append]
    · have hsigned : readSign ('-' :: (digits ++ rest)) = (['-'], digits ++ rest) := rfl
      have hhead : ('-' :: (digits ++ rest)).head? ≠ some '+' := by simp
      simp only [if_neg hhead, hsigned, hspan, if_neg hne,
        List.cons_append, List.nil_append]

theorem readFraction_append {fraction rest : Text} (h : IsFraction fraction)
    (hrest : HeadIn ",]\x7deE".toList rest) :
    readFraction (fraction ++ rest) = (fraction, rest) := by
  have hend : HeadIn ",]\x7deE.".toList rest := headIn_mono hrest (by decide)
  obtain rfl | ⟨digits, ⟨hne, hdigits⟩, rfl⟩ := h
  · cases rest with
    | nil => rfl
    | cons c s =>
      have hall : ∀ c ∈ ",]\x7deE".toList, c ≠ '.' := forall_mem_of_all (by decide)
      have hc := hall c (hrest c rfl)
      simp [readFraction, hc]
  · have hspan := span_digits hdigits hend
    simp only [List.cons_append, readFraction, hspan, if_neg hne]

theorem readInteger_append {integer rest : Text} (h : IsInteger integer)
    (hrest : HeadIn ",]\x7deE.".toList rest) :
    readInteger (integer ++ rest) = some (integer, rest) := by
  obtain rfl | ⟨⟨hne, hdigits⟩, hzero⟩ := h
  · rfl
  · have hspan := span_digits hdigits hrest
    obtain ⟨d, ds, rfl⟩ := List.exists_cons_of_ne_nil hne
    have hd : d ≠ '0' := by simpa using hzero
    rw [List.cons_append] at hspan ⊢
    rw [readInteger, if_neg hd, if_pos (hdigits d List.mem_cons_self), hspan]

theorem headIn_exponent {exponent rest : Text} (h : IsExponent exponent)
    (hrest : HeadIn ",]\x7d".toList rest) : HeadIn ",]\x7deE".toList (exponent ++ rest) := by
  obtain rfl | ⟨e, sign, digits, he, -, -, rfl⟩ := h
  · exact headIn_mono hrest (by decide)
  · intro c hc
    obtain rfl : e = c := by simpa using hc
    obtain rfl | rfl := he <;> decide

theorem headIn_fraction {fraction rest : Text} (h : IsFraction fraction)
    (hrest : HeadIn ",]\x7deE".toList rest) : HeadIn ",]\x7deE.".toList (fraction ++ rest) := by
  obtain rfl | ⟨digits, -, rfl⟩ := h
  · exact headIn_mono hrest (by decide)
  · intro c hc
    obtain rfl : '.' = c := by simpa using hc
    decide

/-- A number is read as it stands where nothing that follows can be a part of it. -/
theorem readNumber_append {token rest : Text} (h : IsLexeme token) (hrest : Follows rest) :
    readNumber (token ++ rest) = some (token, rest) := by
  obtain ⟨sign, integer, fraction, exponent, hsign, hinteger, hfraction, hexponent, rfl⟩ := h
  have hend := headIn_of_follows hrest
  have hmiddle := headIn_exponent hexponent hend
  have hsigned : readSign (sign ++ (integer ++ (fraction ++ (exponent ++ rest)))) =
      (sign, integer ++ (fraction ++ (exponent ++ rest))) := by
    obtain rfl | rfl := hsign
    · obtain rfl | ⟨⟨hne, hdigits⟩, -⟩ := hinteger
      · rfl
      · exact @readSign_digits integer _ hne hdigits
    · rfl
  have hwhole := readInteger_append hinteger (headIn_fraction hfraction hmiddle)
  rw [readNumber, List.append_assoc, List.append_assoc, List.append_assoc, hsigned]
  simp only [hwhole, readFraction_append hfraction hmiddle, readExponent_append hexponent hend,
    Option.map_some]

theorem digitRun_span {s : Text} (h : (s.span Char.isDigit).1 ≠ []) :
    DigitRun (s.span Char.isDigit).1 := by
  refine ⟨h, ?_⟩
  rw [List.span_eq_takeWhile_dropWhile]
  exact fun c hc => List.mem_takeWhile_imp hc

theorem isInteger_of_read {s integer rest : Text} (h : readInteger s = some (integer, rest)) :
    IsInteger integer := by
  cases s with
  | nil => simp [readInteger] at h
  | cons c s =>
    rw [readInteger] at h
    split_ifs at h with hzero hdigit
    · obtain ⟨rfl, -⟩ := Prod.mk.inj (Option.some.inj h)
      exact .inl rfl
    · have hspan := Option.some.inj h
      have hfirst : (c :: s).span Char.isDigit = (integer, rest) := hspan
      have hinteger : integer = c :: s.takeWhile Char.isDigit := by
        rw [List.span_eq_takeWhile_dropWhile, List.takeWhile_cons_of_pos hdigit] at hfirst
        exact (Prod.mk.inj hfirst).1.symm
      have hrun := digitRun_span (s := c :: s) (by rw [hfirst, hinteger]; exact List.cons_ne_nil _ _)
      rw [hfirst] at hrun
      refine .inr ⟨hrun, ?_⟩
      rw [hinteger]
      simpa using hzero

theorem isFraction_read (s : Text) : IsFraction (readFraction s).1 := by
  unfold readFraction
  split
  · next rest =>
    dsimp only
    split_ifs with hnil
    · exact .inl rfl
    · exact .inr ⟨_, digitRun_span hnil, rfl⟩
  · exact .inl rfl

theorem sign_read (s : Text) : (readSign s).1 = [] ∨ (readSign s).1 = ['-'] := by
  unfold readSign
  split
  · exact .inr rfl
  · exact .inl rfl

theorem isExponent_read (s : Text) : IsExponent (readExponent s).1 := by
  cases s with
  | nil => exact .inl rfl
  | cons c s =>
    rw [readExponent]
    split_ifs with he hplus
    · dsimp only
      split_ifs with hnil
      · exact .inl rfl
      · exact .inr ⟨c, ['+'], _, he, .inr (.inl rfl), digitRun_span hnil, rfl⟩
    · dsimp only
      split_ifs with hnil
      · exact .inl rfl
      · refine .inr ⟨c, _, _, he, ?_, digitRun_span hnil, rfl⟩
        exact (sign_read s).imp_right .inr
    · exact .inl rfl

theorem isLexeme_of_read {s token rest : Text} (h : readNumber s = some (token, rest)) :
    IsLexeme token := by
  rw [readNumber] at h
  obtain ⟨⟨integer, rest'⟩, hinteger, htoken⟩ := Option.map_eq_some_iff.mp h
  obtain ⟨rfl, -⟩ := Prod.mk.inj htoken
  exact ⟨_, integer, _, _, sign_read s, isInteger_of_read hinteger, isFraction_read _,
    isExponent_read _, rfl⟩

/-- A number of the grammar is none of the words. -/
theorem find?_literals_lexeme {token : Text} (h : IsLexeme token) (rest : Text) :
    (literals.find? fun word => word.1.isPrefixOf (token ++ rest)) = none := by
  obtain ⟨sign, integer, fraction, exponent, hsign, hinteger, -, -, rfl⟩ := h
  obtain ⟨d, ds, hd, hdigit⟩ : ∃ d ds, integer = d :: ds ∧ d.isDigit = true := by
    obtain rfl | ⟨⟨hne, hdigits⟩, -⟩ := hinteger
    · exact ⟨'0', [], rfl, by decide⟩
    · obtain ⟨d, ds, rfl⟩ := List.exists_cons_of_ne_nil hne
      exact ⟨d, ds, rfl, hdigits d List.mem_cons_self⟩
  subst hd
  have hne : ∀ c ∈ "ntfNI-".toList, (c == d) = false := by
    intro c hc
    have hall : ∀ c ∈ "ntfNI-".toList, c.isDigit = false := forall_mem_of_all (by decide)
    rw [beq_eq_false_iff_ne]
    rintro rfl
    rw [hall c hc] at hdigit
    cases hdigit
  obtain rfl | rfl := hsign
  · simp [literals, List.isPrefixOf, hne 'n' (by decide), hne 't' (by decide),
      hne 'f' (by decide), hne 'N' (by decide), hne 'I' (by decide), hne '-' (by decide)]
  · simp [literals, List.isPrefixOf, hne 'I' (by decide)]

theorem scans_of_isLexeme {token : NumberToken} (h : IsLexeme token.1) : Scans token := by
  intro rest hrest
  rw [readScalar, find?_literals_lexeme h, readNumber_append h hrest]
  simp only [Option.bind_some, numberValue, dif_pos token.2, Option.map_some]

def numberWords : List Text := ["NaN".toList, "Infinity".toList, "-Infinity".toList]

/-- The tokens that the scanner finds. -/
def Written (token : NumberToken) : Prop := IsLexeme token.1 ∨ token.1 ∈ numberWords

/-- A word that is a number is found before what follows it. -/
theorem scans_word {token : NumberToken} (h : token.1 ∈ numberWords) : Scans token := by
  intro rest _
  obtain ⟨token, htoken⟩ := token
  simp only [numberWords, List.mem_cons, List.not_mem_nil, or_false] at h
  obtain rfl | rfl | rfl := h <;> rfl

theorem scans_of_written {token : NumberToken} (h : Written token) : Scans token :=
  h.elim scans_of_isLexeme scans_word

theorem printable_digits {s : Text} (h : ∀ c ∈ s, c.isDigit = true) : Printable s := by
  intro c hc
  have hdigit := h c hc
  simp only [Char.isDigit, Bool.and_eq_true, decide_eq_true_eq, UInt32.le_iff_toNat_le] at hdigit
  obtain ⟨hlow, hhigh⟩ := hdigit
  change 48 ≤ c.toNat at hlow
  change c.toNat ≤ 57 at hhigh
  omega

theorem printable_of_isLexeme {s : Text} (h : IsLexeme s) : Printable s := by
  obtain ⟨sign, integer, fraction, exponent, hsign, hinteger, hfraction, hexponent, rfl⟩ := h
  have hs : Printable sign := by obtain rfl | rfl := hsign <;> decide
  have hi : Printable integer := by
    obtain rfl | ⟨⟨-, hdigits⟩, -⟩ := hinteger
    · decide
    · exact printable_digits hdigits
  have hf : Printable fraction := by
    obtain rfl | ⟨digits, ⟨-, hdigits⟩, rfl⟩ := hfraction
    · decide
    · exact printable_append (s := ['.']) (by decide) (printable_digits hdigits)
  have he : Printable exponent := by
    obtain rfl | ⟨e, sign, digits, he, hsign, ⟨-, hdigits⟩, rfl⟩ := hexponent
    · decide
    · have hmark : Printable [e] := by obtain rfl | rfl := he <;> decide
      have hminus : Printable sign := by obtain rfl | rfl | rfl := hsign <;> decide
      exact printable_append (printable_append hmark hminus) (printable_digits hdigits)
  exact printable_append (printable_append (printable_append hs hi) hf) he

theorem printable_of_written {token : NumberToken} (h : Written token) : Printable token.1 := by
  obtain h | h := h
  · exact printable_of_isLexeme h
  · have hall : ∀ word ∈ numberWords, Printable word := forall_mem_of_all (by decide)
    exact hall _ h

theorem wellformed_of_readScalar {s rest : Text} {v : Value}
    (h : readScalar s = some (v, rest)) : Wellformed Written v := by
  rw [readScalar] at h
  cases hfind : literals.find? fun word => word.1.isPrefixOf s with
  | some found =>
    have hmem := List.mem_of_find?_eq_some hfind
    obtain ⟨word, value⟩ := found
    rw [hfind] at h
    obtain ⟨w, hw, hv⟩ := Option.map_eq_some_iff.mp h
    obtain ⟨rfl, -⟩ := Prod.mk.inj hv
    simp only [literals, List.mem_cons, List.not_mem_nil, or_false, Prod.mk.injEq] at hmem
    have hnumber : ∀ word : Text, word ∈ numberWords → numberValue word = some w →
        Wellformed Written w := by
      intro word hword hnumber
      rw [numberValue] at hnumber
      split_ifs at hnumber with hvalid
      obtain rfl := Option.some.inj hnumber
      exact .num (.inr hword)
    obtain ⟨-, hvalue⟩ | ⟨-, hvalue⟩ | ⟨-, hvalue⟩ | ⟨-, hvalue⟩ | ⟨-, hvalue⟩ | ⟨-, hvalue⟩ := hmem
    · obtain rfl := Option.some.inj (hw.symm.trans hvalue)
      exact .null
    · obtain rfl := Option.some.inj (hw.symm.trans hvalue)
      exact .bool true
    · obtain rfl := Option.some.inj (hw.symm.trans hvalue)
      exact .bool false
    · exact hnumber _ (by simp [numberWords]) (hvalue.symm.trans hw)
    · exact hnumber _ (by simp [numberWords]) (hvalue.symm.trans hw)
    · exact hnumber _ (by simp [numberWords]) (hvalue.symm.trans hw)
  | none =>
    rw [hfind] at h
    obtain ⟨⟨token, rest'⟩, htoken, hv⟩ := Option.bind_eq_some_iff.mp h
    obtain ⟨w, hw, hv⟩ := Option.map_eq_some_iff.mp hv
    obtain ⟨rfl, -⟩ := Prod.mk.inj hv
    rw [numberValue] at hw
    split_ifs at hw with hvalid
    obtain rfl := Option.some.inj hw
    exact .num (.inl (isLexeme_of_read htoken))

end Numbers

section Loads

theorem mem_update {k : Text} {v : Value} {items d : Dict Text Value}
    (h : (k, v) ∈ update d items) : (k, v) ∈ d ∨ (k, v) ∈ items := by
  induction items generalizing d with
  | nil => exact .inl h
  | cons item items ih =>
    obtain hd | hitems := ih h
    · obtain hd | heq := mem_set hd
      · exact .inl hd
      · exact .inr (by rw [heq]; exact List.mem_cons_self)
    · exact .inr (List.mem_cons_of_mem _ hitems)

/-- What the reader returns can be written and read again. -/
theorem wellformed_of_read (fuel : Nat) :
    (∀ s v rest, readValue fuel s = some (v, rest) → Wellformed Written v) ∧
      (∀ s vs rest, readItems fuel s = some (vs, rest) → ∀ v ∈ vs, Wellformed Written v) ∧
      ∀ s ms rest, readMembers fuel s = some (ms, rest) →
        ∀ m ∈ ms, Wellformed Written m.2 := by
  induction fuel with
  | zero => simp [readValue, readItems, readMembers]
  | succ fuel ih =>
    obtain ⟨hvalue, hitems, hmembers⟩ := ih
    refine ⟨fun s v rest h => ?_, fun s vs rest h => ?_, fun s ms rest h => ?_⟩
    · unfold readValue at h
      split at h
      · obtain ⟨read, -, hv⟩ := Option.map_eq_some_iff.mp h
        obtain ⟨rfl, -⟩ := Prod.mk.inj hv
        exact .str _
      · split at h
        · obtain ⟨rfl, -⟩ := Prod.mk.inj (Option.some.inj h)
          exact .arr (by simp)
        · obtain ⟨read, hread, hv⟩ := Option.map_eq_some_iff.mp h
          obtain ⟨rfl, -⟩ := Prod.mk.inj hv
          exact .arr (hitems _ _ _ hread)
      · split at h
        · obtain ⟨rfl, -⟩ := Prod.mk.inj (Option.some.inj h)
          exact .obj (by simp) (by simp)
        · obtain ⟨read, hread, hv⟩ := Option.map_eq_some_iff.mp h
          obtain ⟨rfl, -⟩ := Prod.mk.inj hv
          refine .obj (nodup_keys_update (by simp) _) fun m hm => ?_
          have hmem := (mem_update (k := m.1) (v := m.2) hm).resolve_left (by simp)
          exact hmembers _ _ _ hread _ hmem
      · exact wellformed_of_readScalar h
    · rw [readItems] at h
      obtain ⟨⟨v, rest'⟩, hv, h⟩ := Option.bind_eq_some_iff.mp h
      have hfirst := hvalue _ _ _ hv
      dsimp only at h
      split at h
      · obtain ⟨rfl, -⟩ := Prod.mk.inj (Option.some.inj h)
        simpa using hfirst
      · obtain ⟨read, hread, heq⟩ := Option.map_eq_some_iff.mp h
        obtain ⟨rfl, -⟩ := Prod.mk.inj heq
        exact List.forall_mem_cons.mpr ⟨hfirst, hitems _ _ _ hread⟩
      · cases h
    · unfold readMembers at h
      split at h
      · obtain ⟨⟨k, rest'⟩, -, h⟩ := Option.bind_eq_some_iff.mp h
        dsimp only at h
        split at h
        · obtain ⟨⟨v, rest''⟩, hv, h⟩ := Option.bind_eq_some_iff.mp h
          have hfirst := hvalue _ _ _ hv
          dsimp only at h
          split at h
          · obtain ⟨rfl, -⟩ := Prod.mk.inj (Option.some.inj h)
            simpa using hfirst
          · obtain ⟨read, hread, heq⟩ := Option.map_eq_some_iff.mp h
            obtain ⟨rfl, -⟩ := Prod.mk.inj heq
            exact List.forall_mem_cons.mpr ⟨hfirst, hmembers _ _ _ hread⟩
          · cases h
        · cases h
      · cases h

theorem wellformed_of_loads {s : Text} {v : Value} (h : loads s = some v) :
    Wellformed Written v := by
  rw [loads] at h
  split_ifs at h
  obtain ⟨⟨w, rest⟩, hread, h⟩ := Option.bind_eq_some_iff.mp h
  dsimp only at h
  split_ifs at h
  obtain rfl := Option.some.inj h
  exact (wellformed_of_read _).1 _ _ _ hread

theorem Wellformed.mono {P Q : NumberToken → Prop} (h : ∀ token, P token → Q token) {v : Value}
    (hv : Wellformed P v) : Wellformed Q v := by
  induction hv with
  | null => exact .null
  | bool b => exact .bool b
  | num hnumber => exact .num (h _ hnumber)
  | str s => exact .str s
  | arr _ ih => exact .arr ih
  | obj hkeys _ ih => exact .obj hkeys ih

theorem printable_render {number : NumberToken → Prop} (hnumber : ∀ token, number token →
    Printable token.1) {v : Value} (h : Wellformed number v) : Printable (render v) := by
  induction h with
  | null => decide
  | bool b => cases b <;> decide
  | num h => exact hnumber _ h
  | str s => exact printable_quote s
  | @arr vs _ ih =>
    cases vs with
    | nil => decide
    | cons v vs =>
      have htail : ∀ ws : List Value, (∀ w ∈ ws, Printable (render w)) →
          Printable (renderItems ws) := by
        intro ws hws
        induction ws with
        | nil => decide
        | cons w ws ihws =>
          have hrest := ihws fun u hu => hws u (List.mem_cons_of_mem w hu)
          exact printable_append (s := [',']) (by decide)
            (printable_append (hws w List.mem_cons_self) hrest)
      exact printable_append (s := ['[']) (by decide) (printable_append
        (ih v List.mem_cons_self) (htail vs fun w hw => ih w (List.mem_cons_of_mem v hw)))
  | obj _ _ ih => exact printable_render_obj ih

/-- A readable value is read back from its rendering. -/
theorem loads_render {v : Value} (h : Readable v) : loads (render v) = some v := by
  obtain ⟨c, s, hv, hc⟩ := exists_render_eq_cons v
  have hall : ∀ c ∈ "n\"tf[\x7b-0123456789NI".toList, c ≠ Char.ofNat 0xfeff :=
    forall_mem_of_all (by decide)
  have hmark : (render v).head? ≠ some (Char.ofNat 0xfeff) := by
    rw [hv]
    simpa using hall c hc
  have hspace : skipSpace (render v) = render v := by
    simpa using skipSpace_render v []
  have hread := reads_of_readable h (2 * (render v).length + 1) [] (by omega) trivial
  rw [List.append_nil] at hread
  rw [loads, if_neg hmark, hspace, hread]
  rfl

theorem sortKeysMembers_eq_map (ms : List (Text × Value)) :
    sortKeysMembers ms = ms.map fun m => (m.1, sortKeys m.2) := by
  induction ms with
  | nil => rfl
  | cons m ms ih =>
    obtain ⟨k, v⟩ := m
    simp [sortKeysMembers, sortKeysMember, ih]

theorem wellformed_sortKeys {number : NumberToken → Prop} {v : Value} (h : Wellformed number v) :
    Wellformed number (sortKeys v) := by
  induction h with
  | null => exact .null
  | bool b => exact .bool b
  | num h => exact .num h
  | str s => exact .str s
  | arr _ ih =>
    rw [sortKeys, sortKeysItems_eq_map]
    exact .arr (List.forall_mem_map.mpr ih)
  | @obj ms hkeys _ ih =>
    rw [sortKeys]
    refine .obj (nodup_keys_sortedItems (by rwa [keys_sortKeysMembers])) fun m hm => ?_
    have hmem := (sortedItems_perm _).mem_iff.mp hm
    rw [sortKeysMembers_eq_map] at hmem
    obtain ⟨n, hn, rfl⟩ := List.mem_map.mp hmem
    exact ih n hn

/-- The canonical text of a readable value is read as the value with its keys in order. -/
theorem loads_dumps {v : Value} (h : Readable v) : loads (dumps v) = some (sortKeys v) :=
  loads_render (wellformed_sortKeys h)

end Loads

section Modules

variable {ε : Type}

/-- A JSON module that reads what `dumps` writes of the values it makes. -/
structure Lawful (json : JsonModule ε) (number : NumberToken → Prop) : Prop where
  ascii : ∀ token, number token → Printable token.1
  made : ∀ {s : Text} {v : Value}, json.loads s = .value v → Wellformed number v
  back : ∀ {v : Value}, Wellformed number v → json.loads (dumps v) = .value (sortKeys v)

theorem lawful_scanner : Lawful (scanner ε) Written where
  ascii _ := printable_of_written
  made {s v} h := by
    have hloads : (loads s).elim .decodeError .value = (.value v : Loaded ε) := h
    cases hread : loads s with
    | none =>
      rw [hread] at hloads
      cases hloads
    | some w =>
      rw [hread] at hloads
      obtain rfl := Loaded.value.inj hloads
      exact wellformed_of_loads hread
  back {v} h := by
    have hread := loads_dumps (h.mono fun _ => scans_of_written)
    change (loads (dumps v)).elim _ _ = _
    rw [hread]
    rfl

end Modules

end DataForge.Foundation.JsonRoundTrip
