import DataForge.Plugins.TextOcr.PhoneReading
import DataForge.Foundation.Lists

namespace DataForge.Plugins.TextOcr.CardSurvival

open DataForge.Foundation.Lists
open DataForge.Foundation.Strings
open DataForge.Foundation.Backtracking
open DataForge.Foundation.Backtracking.Regex
open DataForge.Domain.TextOcr
open DataForge.Plugins.TextOcr.Pii
open DataForge.Plugins.TextOcr.Patterns
open DataForge.Plugins.TextOcr.PhoneReading

section Infixes

variable {w x y text token : Text}

theorem infix_span_iff {bounds : Nat × Nat} (hne : w ≠ []) :
    w <:+: span text bounds ↔
      ∃ pre post, text = pre ++ w ++ post ∧ bounds.1 ≤ pre.length ∧
        pre.length + w.length ≤ bounds.2 := by
  rw [span, infix_drop_iff hne]
  constructor
  · rintro ⟨pre, post, h, hle⟩
    refine ⟨pre, post ++ text.drop bounds.2, ?_, hle, ?_⟩
    · rw [← List.append_assoc, ← h, List.take_append_drop]
    · have hlength := congrArg List.length h
      simp only [List.length_take, List.length_append] at hlength
      omega
  · rintro ⟨pre, post, rfl, hle, hend⟩
    refine ⟨pre, post.take (bounds.2 - (pre ++ w).length), ?_, hle⟩
    rw [List.take_append, List.take_of_length_le]
    rwa [List.length_append]

/-- Spans from left to right, from a place on. -/
def Ordered : Nat → List (Nat × Nat) → Prop
  | _, [] => True
  | lastEnd, bounds :: spans => lastEnd ≤ bounds.1 ∧ bounds.1 ≤ bounds.2 ∧ Ordered bounds.2 spans

theorem Ordered.le_of_mem {lastEnd : Nat} {spans : List (Nat × Nat)} (h : Ordered lastEnd spans)
    {bounds : Nat × Nat} (hmem : bounds ∈ spans) : lastEnd ≤ bounds.1 := by
  induction spans generalizing lastEnd with
  | nil => cases hmem
  | cons first spans ih =>
    obtain ⟨hfirst, hspan, hrest⟩ := h
    rcases List.mem_cons.mp hmem with rfl | hmem
    · exact hfirst
    · have := ih hrest hmem
      omega

/-- A text that shares no character with the token survives where it stands outside the
spans. -/
theorem infix_replaceSpans_iff (hne : w ≠ []) (htoken : token ≠ []) (hw : ∀ c ∈ token, c ∉ w)
    {lastEnd : Nat} {spans : List (Nat × Nat)} (hspans : Ordered lastEnd spans) :
    w <:+: replaceSpans text token lastEnd spans ↔
      ∃ pre post, text = pre ++ w ++ post ∧ lastEnd ≤ pre.length ∧
        ∀ bounds ∈ spans, pre.length + w.length ≤ bounds.1 ∨ bounds.2 ≤ pre.length := by
  induction spans generalizing lastEnd with
  | nil =>
    rw [replaceSpans, infix_drop_iff hne]
    simp
  | cons bounds spans ih =>
    obtain ⟨hfirst, hspan, hrest⟩ := hspans
    rw [replaceSpans, List.append_assoc, infix_append_token_iff hne htoken hw, infix_span_iff hne,
      ih hrest]
    constructor
    · rintro (⟨pre, post, h, hle, hend⟩ | ⟨pre, post, h, hle, hapart⟩)
      · refine ⟨pre, post, h, hle, fun b hb => .inl ?_⟩
        rcases List.mem_cons.mp hb with rfl | hb
        · exact hend
        · have := hrest.le_of_mem hb
          dsimp only at hend
          omega
      · refine ⟨pre, post, h, by omega, fun b hb => ?_⟩
        rcases List.mem_cons.mp hb with rfl | hb
        · exact .inr hle
        · exact hapart b hb
    · rintro ⟨pre, post, h, hle, hapart⟩
      obtain ⟨hbounds, hapart⟩ := List.forall_mem_cons.mp hapart
      rcases hbounds with hend | hstart
      · exact .inl ⟨pre, post, h, hle, hend⟩
      · exact .inr ⟨pre, post, h, hstart, hapart⟩

end Infixes

section Runs

variable (isAlnum : Char → Bool)

/-- A maximal run of ASCII digits that reads as a payment card. -/
structure CardRun (text w : Text) : Prop where
  digits : ∀ c ∈ w, isAsciiDigit c = true
  length : 13 ≤ w.length ∧ w.length ≤ 19
  luhn : luhnValid (engine isAlnum) w = true
  apart : ∃ pre post, text = pre ++ w ++ post ∧ (∀ c ∈ pre.getLast?, isWord isAlnum c = false) ∧
    ∀ c ∈ post.head?, isWord isAlnum c = false

/-- The text before the last detector, that of phone numbers. -/
def beforePhones (text : Text) : Text :=
  ((detectors.take 5).foldl (detectStep (engine isAlnum)) ([], text)).2

theorem detectStep_snd (found : List (PiiCategory × Nat) × Text) (category : PiiCategory) :
    (detectStep (engine isAlnum) found ⟨category, false⟩).2 =
      replaceSpans found.2 (redactedToken category) 0
        ((engine isAlnum).finditer category found.2) := by
  have hhits : hits (engine isAlnum) ⟨category, false⟩ found.2 =
      (engine isAlnum).finditer category found.2 := List.filter_eq_self.mpr fun _ _ => rfl
  rw [detectStep, hhits]
  dsimp only
  split
  · next hnone =>
    rw [hnone]
    rfl
  · rfl

theorem foldl_detectors {S : Type} (step : S → DetectorPattern → S) (found : S) :
    detectors.foldl step found = step ((detectors.take 5).foldl step found) ⟨.phone, false⟩ := rfl

theorem detectPii_snd (text : Text) : (detectPii (engine isAlnum) text).2 =
    replaceSpans (beforePhones isAlnum text) (redactedToken .phone) 0
      ((engine isAlnum).finditer .phone (beforePhones isAlnum text)) := by
  rw [detectPii, foldl_detectors, detectStep_snd]
  rfl

theorem mem_finditer_phone {text : Text} {bounds : Nat × Nat} :
    bounds ∈ (engine isAlnum).finditer .phone text ↔
      ∃ m ∈ phonePattern.finditer text, (m.1.place, m.2.place) = bounds :=
  List.mem_map

theorem ordered_of_pairwise {lastEnd : Nat} {ms : List (Cursor × Cursor)}
    (hstart : ∀ m ∈ ms, lastEnd ≤ m.1.place) (hspan : ∀ m ∈ ms, m.1.place ≤ m.2.place)
    (hapart : ms.Pairwise fun m m' => m.2.place ≤ m'.1.place) :
    Ordered lastEnd (ms.map fun m => (m.1.place, m.2.place)) := by
  induction ms generalizing lastEnd with
  | nil => exact trivial
  | cons m ms ih =>
    obtain ⟨hm, hms⟩ := List.pairwise_cons.mp hapart
    exact ⟨hstart m List.mem_cons_self, hspan m List.mem_cons_self,
      ih hm (fun m' hm' => hspan m' (List.mem_cons_of_mem m hm')) hms⟩

theorem ordered_finditer (category : PiiCategory) (text : Text) :
    Ordered 0 ((engine isAlnum).finditer category text) := by
  have hfound := found_scan (pattern isAlnum category) (text.length + 1) (Cursor.start text)
  refine ordered_of_pairwise (fun m _ => Nat.zero_le _) (fun m hm => ?_) hfound.apart
  obtain ⟨-, hplace, -⟩ := firstEnd_eq_some (hfound.matched m hm).1
  exact hplace.le

theorem isDigit_of_isAsciiDigit {c : Char} (h : isAsciiDigit c = true) : isDigit c = true := by
  obtain ⟨hle, hle'⟩ := Bool.and_eq_true_iff.mp h
  refine isDigit_iff.mpr ⟨48, by decide, of_decide_eq_true hle, ?_⟩
  exact Nat.lt_succ_of_le (of_decide_eq_true hle')

end Runs

section Neighbourhoods

def card : Text := "4111111111111111".toList

theorem cardRun_card (pre post : Text) (hpre : ∀ c ∈ pre.getLast?, isWord isAsciiAlnum c = false)
    (hpost : ∀ c ∈ post.head?, isWord isAsciiAlnum c = false) :
    CardRun isAsciiAlnum (pre ++ card ++ post) card :=
  ⟨by decide, by decide, by decide +kernel, pre, post, rfl, hpre, hpost⟩

end Neighbourhoods

end DataForge.Plugins.TextOcr.CardSurvival
