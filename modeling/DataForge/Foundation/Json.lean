import DataForge.Foundation.Canonical
import Mathlib.Tactic.SplitIfs

namespace DataForge.Foundation.Json

open DataForge.Foundation.Strings
open DataForge.Foundation.Dictionary
open DataForge.Foundation.Canonical

def EndsToken (c : Char) : Prop := c = ',' ∨ c = ']' ∨ c = '}'

instance (c : Char) : Decidable (EndsToken c) := inferInstanceAs (Decidable (_ ∨ _))

/-- A number as it is written: it starts like a number and holds no delimiter. -/
def IsNumber : Text → Prop
  | [] => False
  | c :: s => c ∈ "-0123456789NI".toList ∧ ∀ d ∈ c :: s, ¬ EndsToken d

abbrev NumberToken := { s : Text // IsNumber s }

inductive Value where
  | null
  | bool (b : Bool)
  | num (token : NumberToken)
  | str (s : Text)
  | arr (items : List Value)
  | obj (members : List (Text × Value))

def hex4 (n : Nat) : Text :=
  [hexDigit (n / 4096), hexDigit (n / 256), hexDigit (n / 16), hexDigit n]

/-- `ensure_ascii`: what is not printable ASCII is written as UTF-16 units. -/
def escapeChar (c : Char) : Text :=
  let n := c.toNat
  if c = '"' then ['\\', '"']
  else if c = '\\' then ['\\', '\\']
  else if n = 10 then ['\\', 'n']
  else if n = 13 then ['\\', 'r']
  else if n = 9 then ['\\', 't']
  else if n = 12 then ['\\', 'f']
  else if n = 8 then ['\\', 'b']
  else if 32 ≤ n ∧ n ≤ 126 then [c]
  else if n < 0x10000 then '\\' :: 'u' :: hex4 n
  else '\\' :: 'u' :: hex4 (0xd800 + (n - 0x10000) / 0x400) ++
    '\\' :: 'u' :: hex4 (0xdc00 + (n - 0x10000) % 0x400)

def quote (s : Text) : Text := '"' :: s.flatMap escapeChar ++ ['"']

mutual

/-- The compact rendering, with the members in the order in which they stand. -/
def render : Value → Text
  | .null => "null".toList
  | .bool true => "true".toList
  | .bool false => "false".toList
  | .num token => token.1
  | .str s => quote s
  | .arr [] => "[]".toList
  | .arr (v :: vs) => '[' :: render v ++ renderItems vs
  | .obj [] => "{}".toList
  | .obj (m :: ms) => '{' :: renderMember m ++ renderMembers ms
termination_by structural v => v

def renderItems : List Value → Text
  | [] => [']']
  | v :: vs => ',' :: render v ++ renderItems vs
termination_by structural vs => vs

def renderMembers : List (Text × Value) → Text
  | [] => ['}']
  | m :: ms => ',' :: renderMember m ++ renderMembers ms
termination_by structural ms => ms

def renderMember : Text × Value → Text
  | (k, v) => quote k ++ ':' :: render v
termination_by structural m => m

end

mutual

def sortKeys : Value → Value
  | .null => .null
  | .bool b => .bool b
  | .num token => .num token
  | .str s => .str s
  | .arr vs => .arr (sortKeysItems vs)
  | .obj ms => .obj (sortedItems (sortKeysMembers ms))
termination_by structural v => v

def sortKeysItems : List Value → List Value
  | [] => []
  | v :: vs => sortKeys v :: sortKeysItems vs
termination_by structural vs => vs

def sortKeysMembers : List (Text × Value) → List (Text × Value)
  | [] => []
  | m :: ms => sortKeysMember m :: sortKeysMembers ms
termination_by structural ms => ms

def sortKeysMember : Text × Value → Text × Value
  | (k, v) => (k, sortKeys v)
termination_by structural m => m

end

/-- `json.dumps` with sorted keys and compact separators. -/
def dumps (v : Value) : Text := render (sortKeys v)

/-- Read one escaped character back. -/
def hexValue (c : Char) : Nat := hexDigits.idxOf c

def readUnit : Text → Option (Nat × Text)
  | a :: b :: c :: d :: rest =>
    some (((hexValue a * 16 + hexValue b) * 16 + hexValue c) * 16 + hexValue d, rest)
  | _ => none

def readChar : Text → Option (Nat × Text)
  | '\\' :: 'u' :: rest =>
    match readUnit rest with
    | some (n, rest) =>
      if 0xd800 ≤ n ∧ n < 0xdc00 then
        match readUnit (rest.drop 2) with
        | some (m, rest) => some (0x10000 + (n - 0xd800) * 0x400 + (m - 0xdc00), rest)
        | none => none
      else some (n, rest)
    | none => none
  | '\\' :: 'n' :: rest => some (10, rest)
  | '\\' :: 'r' :: rest => some (13, rest)
  | '\\' :: 't' :: rest => some (9, rest)
  | '\\' :: 'f' :: rest => some (12, rest)
  | '\\' :: 'b' :: rest => some (8, rest)
  | '\\' :: c :: rest => some (c.toNat, rest)
  | c :: rest => some (c.toNat, rest)
  | [] => none

theorem hexValue_hexDigit : ∀ n < 16, hexValue (hexDigit n) = n := by decide

theorem hexDigit_mod (n : Nat) : hexDigit (n % 16) = hexDigit n := by simp [hexDigit]

theorem readUnit_hex4 {n : Nat} (h : n < 0x10000) (rest : Text) :
    readUnit (hex4 n ++ rest) = some (n, rest) := by
  have hv : ∀ m, hexValue (hexDigit m) = m % 16 := fun m => by
    rw [← hexDigit_mod, hexValue_hexDigit _ (Nat.mod_lt _ (by decide))]
  simp only [hex4, List.cons_append, List.nil_append, readUnit, hv, Option.some.injEq,
    Prod.mk.injEq, and_true]
  omega

theorem readChar_unicode {n : Nat} (h : n < 0x10000) (hn : ¬ (0xd800 ≤ n ∧ n < 0xdc00))
    (rest : Text) : readChar ('\\' :: 'u' :: (hex4 n ++ rest)) = some (n, rest) := by
  rw [readChar, readUnit_hex4 h]
  exact if_neg hn

theorem readChar_surrogates {n : Nat} (h : 0x10000 ≤ n) (h' : n < 0x110000) (rest : Text) :
    readChar ('\\' :: 'u' :: (hex4 (0xd800 + (n - 0x10000) / 0x400) ++
      '\\' :: 'u' :: (hex4 (0xdc00 + (n - 0x10000) % 0x400) ++ rest))) = some (n, rest) := by
  rw [readChar, readUnit_hex4 (by omega)]
  dsimp only
  rw [if_pos (by omega), List.drop_succ_cons, List.drop_succ_cons, List.drop_zero,
    readUnit_hex4 (by omega)]
  simp only [Option.some.injEq, Prod.mk.injEq, and_true]
  omega

theorem readChar_escapeChar (c : Char) (rest : Text) :
    readChar (escapeChar c ++ rest) = some (c.toNat, rest) := by
  have hvalid : c.toNat < 0xd800 ∨ 0xdfff < c.toNat ∧ c.toNat < 0x110000 := c.valid
  unfold escapeChar
  dsimp only
  split_ifs with hquote hslash hn hr ht hf hb hprint hunit
  · subst c
    rfl
  · subst c
    rfl
  · rw [hn]
    rfl
  · rw [hr]
    rfl
  · rw [ht]
    rfl
  · rw [hf]
    rfl
  · rw [hb]
    rfl
  · simp [readChar, hslash]
  · exact readChar_unicode (by omega) (by omega) rest
  · have h := readChar_surrogates (n := c.toNat) (by omega) (by omega) rest
    simpa using h

theorem escapeChar_append_inj {c d : Char} {x y : Text}
    (h : escapeChar c ++ x = escapeChar d ++ y) : c = d ∧ x = y := by
  have hc := readChar_escapeChar c x
  rw [h, readChar_escapeChar] at hc
  obtain ⟨hn, hx⟩ := by simpa using hc
  exact ⟨(Char.toNat_inj.mp hn).symm, hx.symm⟩

theorem escapeChar_ne_quote (c : Char) (x y : Text) : escapeChar c ++ x ≠ '"' :: y := by
  unfold escapeChar
  dsimp only
  split_ifs with hquote <;> simp [hquote]

/-- A quoted text ends where it says, and says which text it is. -/
theorem quote_append_inj {s t x y : Text} (h : quote s ++ x = quote t ++ y) : s = t ∧ x = y := by
  induction s generalizing t with
  | nil =>
    cases t with
    | nil => exact ⟨rfl, by simpa [quote] using h⟩
    | cons d t => exact absurd (by simpa [quote] using h.symm) (escapeChar_ne_quote d _ x)
  | cons c s ih =>
    cases t with
    | nil => exact absurd (by simpa [quote] using h) (escapeChar_ne_quote c _ y)
    | cons d t =>
      simp only [quote, List.flatMap_cons, List.cons_append, List.append_assoc, List.cons.injEq,
        true_and] at h
      obtain ⟨rfl, htail⟩ := escapeChar_append_inj h
      obtain ⟨rfl, rfl⟩ := ih (t := t) (by simpa [quote] using htail)
      exact ⟨rfl, rfl⟩

/-- What may follow a value: nothing, or the end of a token. -/
def Follows : Text → Prop
  | [] => True
  | c :: _ => EndsToken c

theorem token_append_inj {s t x y : Text} (hs : ∀ c ∈ s, ¬ EndsToken c)
    (ht : ∀ c ∈ t, ¬ EndsToken c)
    (hx : Follows x) (hy : Follows y) (h : s ++ x = t ++ y) : s = t ∧ x = y := by
  induction s generalizing t with
  | nil =>
    cases t with
    | nil => exact ⟨rfl, h⟩
    | cons d t =>
      obtain rfl : x = d :: (t ++ y) := h
      exact absurd hx (ht d (by simp))
  | cons c s ih =>
    cases t with
    | nil =>
      obtain rfl : c :: (s ++ x) = y := h
      exact absurd hy (hs c (by simp))
    | cons d t =>
      obtain ⟨rfl, htail⟩ := List.cons.inj h
      obtain ⟨rfl, rfl⟩ :=
        ih (fun c hc => hs c (by simp [hc])) (fun c hc => ht c (by simp [hc])) htail
      exact ⟨rfl, rfl⟩

/-- The constructor of a value, from the first character of its rendering. -/
def kindOf (c : Char) : Nat :=
  if c = 'n' then 0 else if c = 't' ∨ c = 'f' then 1 else if c = '"' then 2
  else if c = '[' then 3 else if c = '{' then 4 else if c = ']' then 6 else 5

def kind : Value → Nat
  | .null => 0
  | .bool _ => 1
  | .str _ => 2
  | .arr _ => 3
  | .obj _ => 4
  | .num _ => 5

theorem kindOf_render (v : Value) : ∃ c s, render v = c :: s ∧ kindOf c = kind v := by
  cases v with
  | null => exact ⟨'n', _, rfl, rfl⟩
  | bool b => cases b <;> exact ⟨_, _, rfl, rfl⟩
  | num token =>
    obtain ⟨token, htoken⟩ := token
    cases token with
    | nil => exact htoken.elim
    | cons c s =>
      refine ⟨c, s, rfl, ?_⟩
      have hall : ∀ c ∈ "-0123456789NI".toList, kindOf c = 5 := forall_mem_of_all (by decide)
      exact hall c htoken.1
  | str s => exact ⟨'"', _, rfl, rfl⟩
  | arr vs => cases vs <;> exact ⟨'[', _, rfl, rfl⟩
  | obj ms => cases ms <;> exact ⟨'{', _, rfl, rfl⟩

theorem kind_eq {v w : Value} {x y : Text} (h : render v ++ x = render w ++ y) :
    kind v = kind w := by
  obtain ⟨c, s, hv, hc⟩ := kindOf_render v
  obtain ⟨d, t, hw, hd⟩ := kindOf_render w
  rw [hv, hw] at h
  rw [← hc, ← hd, (List.cons.inj h).1]

theorem render_ne_bracket (v : Value) (x y : Text) : render v ++ x ≠ ']' :: y := by
  obtain ⟨c, s, hv, hc⟩ := kindOf_render v
  rw [hv]
  intro h
  obtain rfl := (List.cons.inj h).1
  cases v <;> simp [kindOf, kind] at hc

theorem follows_renderItems (vs : List Value) (x : Text) : Follows (renderItems vs ++ x) := by
  cases vs <;> simp [renderItems, Follows, EndsToken]

theorem follows_renderMembers (ms : List (Text × Value)) (x : Text) :
    Follows (renderMembers ms ++ x) := by
  cases ms <;> simp [renderMembers, Follows, EndsToken]

mutual

/-- A rendering ends where it says, and says which value it is. -/
theorem render_append_inj (v w : Value) (x y : Text) (hx : Follows x) (hy : Follows y)
    (h : render v ++ x = render w ++ y) : v = w ∧ x = y := by
  have hk := kind_eq h
  cases v with
  | null =>
    cases w with
    | null => exact ⟨rfl, by simpa [render] using h⟩
    | _ => simp [kind] at hk
  | bool b =>
    cases w with
    | bool b' =>
      cases b <;> cases b'
      · exact ⟨rfl, by simpa [render] using h⟩
      · simp [render] at h
      · simp [render] at h
      · exact ⟨rfl, by simpa [render] using h⟩
    | _ => simp [kind] at hk
  | num token =>
    cases w with
    | num token' =>
      have hends : ∀ token : NumberToken, ∀ c ∈ token.1, ¬ EndsToken c := by
        rintro ⟨token, htoken⟩
        cases token with
        | nil => exact htoken.elim
        | cons c s => exact htoken.2
      obtain ⟨htoken, hxy⟩ := token_append_inj (hends token) (hends token') hx hy h
      exact ⟨by rw [Subtype.ext htoken], hxy⟩
    | _ => simp [kind] at hk
  | str s =>
    cases w with
    | str t =>
      obtain ⟨rfl, hxy⟩ := quote_append_inj h
      exact ⟨rfl, hxy⟩
    | _ => simp [kind] at hk
  | arr vs =>
    cases w with
    | arr ws =>
      obtain ⟨rfl, hxy⟩ := render_arr_append_inj vs ws x y h
      exact ⟨rfl, hxy⟩
    | _ => simp [kind] at hk
  | obj ms =>
    cases w with
    | obj ns =>
      obtain ⟨rfl, hxy⟩ := render_obj_append_inj ms ns x y h
      exact ⟨rfl, hxy⟩
    | _ => simp [kind] at hk
termination_by structural v

theorem render_arr_append_inj (vs ws : List Value) (x y : Text)
    (h : render (.arr vs) ++ x = render (.arr ws) ++ y) : vs = ws ∧ x = y := by
  cases vs with
  | nil =>
    cases ws with
    | nil => exact ⟨rfl, by simpa [render] using h⟩
    | cons w ws =>
      exact absurd (by simpa [render] using h.symm) (render_ne_bracket w _ x)
  | cons v vs =>
    cases ws with
    | nil =>
      exact absurd (by simpa [render] using h) (render_ne_bracket v _ y)
    | cons w ws =>
      have h' : render v ++ (renderItems vs ++ x) = render w ++ (renderItems ws ++ y) := by
        simpa [render] using h
      obtain ⟨rfl, hrest⟩ := render_append_inj v w _ _ (follows_renderItems vs x)
        (follows_renderItems ws y) h'
      obtain ⟨rfl, hxy⟩ := renderItems_append_inj vs ws x y hrest
      exact ⟨rfl, hxy⟩
termination_by structural vs

theorem renderItems_append_inj (vs ws : List Value) (x y : Text)
    (h : renderItems vs ++ x = renderItems ws ++ y) : vs = ws ∧ x = y := by
  cases vs with
  | nil =>
    cases ws with
    | nil => exact ⟨rfl, by simpa [renderItems] using h⟩
    | cons w ws => simp [renderItems] at h
  | cons v vs =>
    cases ws with
    | nil => simp [renderItems] at h
    | cons w ws =>
      have h' : render v ++ (renderItems vs ++ x) = render w ++ (renderItems ws ++ y) := by
        simpa [renderItems] using h
      obtain ⟨rfl, hrest⟩ := render_append_inj v w _ _ (follows_renderItems vs x)
        (follows_renderItems ws y) h'
      obtain ⟨rfl, hxy⟩ := renderItems_append_inj vs ws x y hrest
      exact ⟨rfl, hxy⟩
termination_by structural vs

theorem render_obj_append_inj (ms ns : List (Text × Value)) (x y : Text)
    (h : render (.obj ms) ++ x = render (.obj ns) ++ y) : ms = ns ∧ x = y := by
  cases ms with
  | nil =>
    cases ns with
    | nil => exact ⟨rfl, by simpa [render] using h⟩
    | cons n ns =>
      obtain ⟨k, w⟩ := n
      simp [render, renderMember, quote] at h
  | cons m ms =>
    cases ns with
    | nil =>
      obtain ⟨k, w⟩ := m
      simp [render, renderMember, quote] at h
    | cons n ns =>
      have h' : renderMember m ++ (renderMembers ms ++ x) =
          renderMember n ++ (renderMembers ns ++ y) := by simpa [render] using h
      obtain ⟨rfl, hrest⟩ := renderMember_append_inj m n _ _ (follows_renderMembers ms x)
        (follows_renderMembers ns y) h'
      obtain ⟨rfl, hxy⟩ := renderMembers_append_inj ms ns x y hrest
      exact ⟨rfl, hxy⟩
termination_by structural ms

theorem renderMembers_append_inj (ms ns : List (Text × Value)) (x y : Text)
    (h : renderMembers ms ++ x = renderMembers ns ++ y) : ms = ns ∧ x = y := by
  cases ms with
  | nil =>
    cases ns with
    | nil => exact ⟨rfl, by simpa [renderMembers] using h⟩
    | cons n ns => simp [renderMembers] at h
  | cons m ms =>
    cases ns with
    | nil => simp [renderMembers] at h
    | cons n ns =>
      have h' : renderMember m ++ (renderMembers ms ++ x) =
          renderMember n ++ (renderMembers ns ++ y) := by simpa [renderMembers] using h
      obtain ⟨rfl, hrest⟩ := renderMember_append_inj m n _ _ (follows_renderMembers ms x)
        (follows_renderMembers ns y) h'
      obtain ⟨rfl, hxy⟩ := renderMembers_append_inj ms ns x y hrest
      exact ⟨rfl, hxy⟩
termination_by structural ms

theorem renderMember_append_inj (m n : Text × Value) (x y : Text) (hx : Follows x)
    (hy : Follows y) (h : renderMember m ++ x = renderMember n ++ y) : m = n ∧ x = y := by
  cases m with
  | mk k v =>
    obtain ⟨j, w⟩ := n
    have h' : quote k ++ (':' :: render v ++ x) = quote j ++ (':' :: render w ++ y) := by
      simpa [renderMember] using h
    obtain ⟨rfl, hrest⟩ := quote_append_inj h'
    obtain ⟨rfl, hxy⟩ := render_append_inj v w x y hx hy (by simpa using hrest)
    exact ⟨rfl, hxy⟩
termination_by structural m

end

theorem render_injective {v w : Value} (h : render v = render w) : v = w :=
  (render_append_inj v w [] [] trivial trivial (by rw [h])).1

/-- Two values have one canonical text exactly when they differ in the order of
members only. -/
theorem dumps_eq_iff {v w : Value} : dumps v = dumps w ↔ sortKeys v = sortKeys w :=
  ⟨render_injective, congrArg render⟩

theorem keys_sortKeysMembers (ms : List (Text × Value)) :
    (sortKeysMembers ms).map Prod.fst = ms.map Prod.fst := by
  induction ms with
  | nil => rfl
  | cons m ms ih => obtain ⟨k, v⟩ := m; simp [sortKeysMembers, sortKeysMember, ih]

theorem get?_sortKeysMembers (k : Text) (ms : List (Text × Value)) :
    get? k (sortKeysMembers ms) = (get? k ms).map sortKeys := by
  induction ms with
  | nil => rfl
  | cons m ms ih =>
    obtain ⟨j, v⟩ := m
    by_cases hk : j = k
    · simp [sortKeysMembers, sortKeysMember, get?, hk]
    · simp [sortKeysMembers, sortKeysMember, get?, hk, ih]

/-- Objects with one canonical text agree on every member. -/
theorem get?_of_sortKeys_eq (ms : List (Text × Value)) {ns : List (Text × Value)}
    (hms : (ms.map Prod.fst).Nodup) (h : sortKeys (.obj ms) = sortKeys (.obj ns)) (k : Text) :
    (get? k ms).map sortKeys = (get? k ns).map sortKeys := by
  rw [← get?_sortKeysMembers, ← get?_sortKeysMembers]
  refine get?_of_sortedItems_eq (by rwa [keys_sortKeysMembers]) ?_ k
  simpa [sortKeys] using h

theorem sortKeysItems_eq_map (vs : List Value) : sortKeysItems vs = vs.map sortKeys := by
  induction vs with
  | nil => rfl
  | cons v vs ih => simp [sortKeysItems, ih]

theorem isNumber_toDigits (n : Nat) : IsNumber (Nat.toDigits 10 n) := by
  have hdigit : ∀ c ∈ Nat.toDigits 10 n, c ∈ "0123456789".toList := by
    intro c hc
    have hc' := Nat.isDigit_of_mem_toDigits (by decide) (by decide) hc
    have hall : ∀ m < 58, 48 ≤ m → Char.ofNat m ∈ "0123456789".toList := by decide
    simp only [Char.isDigit, Bool.and_eq_true, decide_eq_true_eq, UInt32.le_iff_toNat_le] at hc'
    have hmem := hall c.toNat (Nat.lt_succ_of_le hc'.2) hc'.1
    rwa [Char.ofNat_toNat] at hmem
  cases hn : Nat.toDigits 10 n with
  | nil => exact absurd hn Nat.toDigits_ne_nil
  | cons c s =>
    rw [hn] at hdigit
    have hhead : ∀ d ∈ "0123456789".toList, d ∈ "-0123456789NI".toList :=
      forall_mem_of_all (by decide)
    have htail : ∀ d ∈ "0123456789".toList, ¬ EndsToken d := forall_mem_of_all (by decide)
    exact ⟨hhead c (hdigit c (by simp)), fun d hd => htail d (hdigit d hd)⟩

def texts (values : List Text) : Value := .arr (values.map .str)

theorem sortKeys_texts (values : List Text) : sortKeys (texts values) = texts values := by
  simp [texts, sortKeys, sortKeysItems_eq_map, Function.comp_def]

theorem texts_injective {xs ys : List Text} (h : texts xs = texts ys) : xs = ys := by
  have hinj : Function.Injective Value.str := fun _ _ he => Value.str.inj he
  exact hinj.list_map (Value.arr.inj h)

theorem str_member {x y : Text} (h : some (sortKeys (.str x)) = some (sortKeys (.str y))) :
    x = y := by
  simpa [sortKeys] using h

theorem texts_member {xs ys : List Text}
    (h : some (sortKeys (texts xs)) = some (sortKeys (texts ys))) : xs = ys := by
  rw [sortKeys_texts, sortKeys_texts] at h
  exact texts_injective (Option.some.inj h)

theorem arr_member {xs ys : List Value}
    (h : some (sortKeys (.arr xs)) = some (sortKeys (.arr ys))) :
    xs.map sortKeys = ys.map sortKeys := by
  simpa [sortKeys, sortKeysItems_eq_map] using h

def natValue (n : Nat) : Value := .num ⟨Nat.toDigits 10 n, isNumber_toDigits n⟩

theorem isNumber_neg {s : Text} (h : IsNumber s) : IsNumber ('-' :: s) := by
  cases s with
  | nil => exact h.elim
  | cons c s =>
    refine ⟨by decide, fun d hd => ?_⟩
    rcases List.mem_cons.mp hd with rfl | hd
    · decide
    · exact h.2 d hd

/-- Printable ASCII, which is all that `ensure_ascii` leaves in a text. -/
def Printable (s : Text) : Prop := ∀ c ∈ s, 32 ≤ c.toNat ∧ c.toNat ≤ 126

instance (s : Text) : Decidable (Printable s) :=
  inferInstanceAs (Decidable (∀ c ∈ s, 32 ≤ c.toNat ∧ c.toNat ≤ 126))

theorem printable_append {s t : Text} (hs : Printable s) (ht : Printable t) : Printable (s ++ t) :=
  fun c hc => (List.mem_append.mp hc).elim (hs c) (ht c)

theorem printable_hex4 (n : Nat) : Printable (hex4 n) := by
  have hdigits : Printable hexDigits := by decide
  intro c hc
  simp only [hex4, List.mem_cons, List.not_mem_nil, or_false] at hc
  obtain rfl | rfl | rfl | rfl := hc <;> exact hdigits _ (hexDigit_mem _)

theorem printable_escapeChar (c : Char) : Printable (escapeChar c) := by
  have hunit : ∀ n, Printable ('\\' :: 'u' :: hex4 n) := fun n =>
    printable_append (s := ['\\', 'u']) (by decide) (printable_hex4 n)
  unfold escapeChar
  dsimp only
  split_ifs with hquote hslash hn hr ht hf hb hprint hunicode
  · decide
  · decide
  · decide
  · decide
  · decide
  · decide
  · decide
  · intro d hd
    rw [List.mem_singleton.mp hd]
    exact hprint
  · exact hunit _
  · exact printable_append (hunit _) (hunit _)

theorem printable_quote (s : Text) : Printable (quote s) := by
  intro c hc
  simp only [quote, List.cons_append, List.mem_cons, List.mem_append, List.mem_flatMap,
    List.not_mem_nil, or_false] at hc
  obtain rfl | ⟨d, -, hc⟩ | rfl := hc
  · decide
  · exact printable_escapeChar d c hc
  · decide

theorem printable_toDigits (n : Nat) : Printable (Nat.toDigits 10 n) := by
  intro c hc
  have hdigit := Nat.isDigit_of_mem_toDigits (by decide) (by decide) hc
  simp only [Char.isDigit, Bool.and_eq_true, decide_eq_true_eq, UInt32.le_iff_toNat_le] at hdigit
  obtain ⟨hlow, hhigh⟩ := hdigit
  change 48 ≤ c.toNat at hlow
  change c.toNat ≤ 57 at hhigh
  omega

theorem printable_renderMembers {ms : List (Text × Value)} (h : ∀ m ∈ ms, Printable (render m.2)) :
    Printable (renderMembers ms) := by
  induction ms with
  | nil => decide
  | cons m ms ih =>
    have hvalue : Printable (':' :: render m.2) :=
      printable_append (s := [':']) (by decide) (h m (by simp))
    have hmember : Printable (renderMember m) := by
      rw [renderMember]
      exact printable_append (printable_quote m.1) hvalue
    exact printable_append (s := [',']) (by decide)
      (printable_append hmember (ih fun n hn => h n (by simp [hn])))

theorem printable_render_obj {ms : List (Text × Value)} (h : ∀ m ∈ ms, Printable (render m.2)) :
    Printable (render (.obj ms)) := by
  cases ms with
  | nil => decide
  | cons m ms =>
    -- the first comma of the members is a brace instead
    have htail := printable_renderMembers h
    intro c hc
    obtain rfl | hc := List.mem_cons.mp hc
    · decide
    · exact htail c (List.mem_cons_of_mem _ hc)

def intValue : Int → Value
  | .ofNat n => natValue n
  | .negSucc n => .num ⟨'-' :: Nat.toDigits 10 (n + 1), isNumber_neg (isNumber_toDigits _)⟩

example : dumps (.obj [("b".toList, .arr [.null, .str "é\n".toList]), ("a".toList, .bool true)]) =
    "\x7b\"a\":true,\"b\":[null,\"\\u00e9\\n\"]\x7d".toList := by decide

end DataForge.Foundation.Json
