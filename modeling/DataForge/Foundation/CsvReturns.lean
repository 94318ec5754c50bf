import DataForge.Foundation.CsvRoundTrip
import DataForge.Foundation.Outcome

namespace DataForge.Foundation.Csv

open DataForge.Foundation.Strings
open DataForge.Foundation.Lines
open DataForge.Foundation.Outcome

variable {release : Release} {s s' r : Reader} {field rest : Text}

/-- Outside of quotes, a reader whose fields have a carriage return only where quotes brought it. -/
structure Kept (release : Release) (s : Reader) : Prop where
  mode : s.mode ≠ .inQuoted
  records : ∀ line ∈ s.records, ∀ field ∈ line, Safe release field
  fields : ∀ field ∈ s.fields, Safe release field
  field : Safe release s.field
  empty : s.mode = .startRecord ∨ s.mode = .startField ∨ s.mode = .eatNewline → s.field = []

theorem safe_nil : Safe release [] := fun h => absurd h List.not_mem_nil

theorem Kept.saveField (h : Kept release s) {mode : Mode} (hmode : mode ≠ .inQuoted) :
    Kept release (s.saveField mode) where
  mode := hmode
  records := h.records
  fields := List.forall_mem_append.mpr ⟨h.fields, List.forall_mem_singleton.mpr h.field⟩
  field := safe_nil
  empty := fun _ => rfl

theorem Kept.endRecord (h : Kept release s) (hfield : s.field = []) : Kept release s.endRecord where
  mode := nofun
  records := List.forall_mem_append.mpr ⟨h.records, List.forall_mem_singleton.mpr h.fields⟩
  fields := List.forall_mem_nil _
  field := h.field
  empty := fun _ => hfield

theorem Kept.push (h : Kept release s) {c : Char} (hc : c ≠ '\r')
    (hpush : push release s .inField c = .ok s') : Kept release s' := by
  rw [Csv.push] at hpush
  split at hpush
  · cases hpush
    have hfield : ∀ {p : Prop}, Mode.inField = .startRecord ∨ Mode.inField = .startField ∨
        Mode.inField = .eatNewline → p := by
      simp
    refine ⟨by simp, h.records, h.fields, fun hmem => ?_, hfield⟩
    rcases List.mem_append.mp hmem with hmem | hmem
    · rw [needsQuotes, List.any_append, ← needsQuotes, h.field hmem, Bool.true_or]
    · exact absurd (List.mem_singleton.mp hmem).symm hc
  · cases hpush

theorem Kept.stepField (h : Kept release s) {event : Option Char}
    (hstep : stepField release s event = .ok s') : Kept release s' := by
  cases event with
  | none =>
    cases hstep
    exact (h.saveField (by decide)).endRecord rfl
  | some c =>
    rw [Csv.stepField] at hstep
    split at hstep
    · cases hstep
      exact h.saveField (by decide)
    · next hnewline =>
      split at hstep
      · cases hstep
        exact h.saveField (by decide)
      · refine h.push ?_ hstep
        rintro rfl
        exact hnewline (by decide)

/-- Every event but a quote keeps the reader outside of quotes. -/
theorem Kept.step (h : Kept release s) {event : Option Char} (hquote : event ≠ some '"')
    (hstep : step release s event = .ok s') : Kept release s' := by
  obtain ⟨mode, records, fields, field⟩ := s
  cases mode with
  | startRecord =>
    cases event with
    | none =>
      cases hstep
      exact h.endRecord (h.empty (.inl rfl))
    | some c =>
      simp only [Csv.step, if_neg fun hc => hquote (congrArg some hc)] at hstep
      split at hstep
      · cases hstep
        exact ⟨by simp, h.records, h.fields, h.field, fun _ => h.empty (.inl rfl)⟩
      · exact h.stepField hstep
  | startField =>
    simp only [Csv.step, if_neg hquote] at hstep
    exact h.stepField hstep
  | inField => exact h.stepField hstep
  | inQuoted => exact absurd rfl h.mode
  | quoteInQuoted =>
    simp only [Csv.step, if_neg hquote] at hstep
    exact h.stepField hstep
  | eatNewline =>
    cases event with
    | none =>
      cases hstep
      exact h.endRecord (h.empty (.inr (.inr rfl)))
    | some c =>
      simp only [Csv.step] at hstep
      split at hstep
      · cases hstep
        exact h
      · cases hstep

/-- A text without quotes leaves the reader outside of quotes. -/
theorem Kept.run_append (h : Kept release s) (hquotes : '"' ∉ field) (hrest : rest ≠ [])
    (hrun : run release s (field ++ rest) = .ok r) :
    ∃ s', Kept release s' ∧ run release s' rest = .ok r := by
  induction field generalizing s with
  | nil => exact ⟨s, h, hrun⟩
  | cons c field ih =>
    obtain ⟨hc, hfield⟩ := List.ne_and_not_mem_of_not_mem_cons hquotes
    obtain ⟨stop, hstop, hevents⟩ :=
      exists_events_cons c (List.append_ne_nil_of_right_ne_nil field hrest)
    rw [List.cons_append, run, hevents, List.foldlM_cons] at hrun
    obtain ⟨s', hstep, hrun⟩ := bind_eq_ok.mp hrun
    have hs' := h.step (fun heq => hc (Option.some.inj heq).symm) hstep
    rcases hstop with rfl | rfl
    · exact ih hs' hfield hrun
    · rw [List.cons_append, List.foldlM_cons] at hrun
      obtain ⟨s'', hstop, hrun⟩ := bind_eq_ok.mp hrun
      exact ih (hs'.step (Option.some_ne_none _).symm hstop) hfield hrun

theorem Kept.run_comma (h : Kept release s) (hrest : rest ≠ [])
    (hrun : run release s (',' :: rest) = .ok r) :
    ∃ s', Kept release s' ∧ s'.mode = .startField ∧ run release s' rest = .ok r := by
  rw [run_cons (by decide) hrest] at hrun
  obtain ⟨s', hstep, hrun⟩ := bind_eq_ok.mp hrun
  refine ⟨s', h.step (by decide) hstep, ?_, hrun⟩
  obtain ⟨mode, records, fields, field⟩ := s
  cases mode with
  | inQuoted => exact absurd rfl h.mode
  | eatNewline => cases hstep
  | _ =>
    cases hstep
    rfl

theorem Kept.run_lineFeed (h : Kept release s) (hrun : run release s ('\n' :: rest) = .ok r) :
    ∃ s', Kept release s' ∧ s'.mode = .startRecord ∧ run release s' rest = .ok r := by
  rw [Csv.run_lineFeed] at hrun
  obtain ⟨s', hsteps, hrun⟩ := bind_eq_ok.mp hrun
  obtain ⟨middle, hstep, hstop⟩ := bind_eq_ok.mp hsteps
  refine ⟨s', (h.step (by decide) hstep).step (Option.some_ne_none _).symm hstop, ?_, hrun⟩
  obtain ⟨mode, records, fields, field⟩ := s
  cases mode with
  | inQuoted => exact absurd rfl h.mode
  | _ =>
    cases hstep
    cases hstop
    rfl

/-- Whatever a field has, the reader is outside of quotes after it. -/
theorem Kept.run_renderField (h : Kept release s)
    (hmode : s.mode = .startRecord ∨ s.mode = .startField)
    (hrest : rest ≠ []) (hrun : run release s (renderField release field ++ rest) = .ok r) :
    ∃ s', Kept release s' ∧ run release s' rest = .ok r := by
  by_cases hquotes : needsQuotes release field = true
  · obtain ⟨mode, records, fields, taken⟩ := s
    have hempty : taken = [] := h.empty (hmode.imp_right .inl)
    obtain ⟨mode', hmode', htaken⟩ :=
      @run_field release field mode records fields hmode fun _ => hquotes
    have hfield : field ≠ [] := by
      rintro rfl
      cases hquotes
    have hclosing :
        mode' = .inField ∨ mode' = .quoteInQuoted := hmode'.resolve_left fun h => hfield h.2
    rw [hempty, htaken rest hrest, runIf] at hrun
    split at hrun
    · refine ⟨⟨mode', records, fields, field⟩, ?_, hrun⟩
      rcases hclosing with rfl | rfl
      · exact ⟨by simp, h.records, h.fields, fun _ => hquotes, by simp⟩
      · exact ⟨by simp, h.records, h.fields, fun _ => hquotes, by simp⟩
    · cases hrun
  · have hno : '"' ∉ field := by
      intro hmem
      exact hquotes (List.any_eq_true.mpr ⟨'"', hmem, by simp⟩)
    rw [renderField, if_neg hquotes] at hrun
    exact h.run_append hno hrest hrun

theorem Kept.run_renderFields {line : List Text} (h : Kept release s)
    (hrun : run release s (renderFields release line ++ rest) = .ok r) :
    ∃ s', Kept release s' ∧ s'.mode = .startRecord ∧ run release s' rest = .ok r := by
  induction line generalizing s with
  | nil => exact h.run_lineFeed hrun
  | cons field line ih =>
    have htail : renderFields release line ++ rest ≠ [] :=
      List.append_ne_nil_of_left_ne_nil (renderFields_ne_nil line) _
    rw [renderFields, List.cons_append, List.append_assoc] at hrun
    obtain ⟨s₁, hs₁, hmode, hrun⟩ := h.run_comma (List.append_ne_nil_of_right_ne_nil _ htail) hrun
    obtain ⟨s₂, hs₂, hrun⟩ := hs₁.run_renderField (.inr hmode) htail hrun
    exact ih hs₂ hrun

theorem Kept.run_renderLine {line : List Text} (h : Kept release s) (hmode : s.mode = .startRecord)
    (hrun : run release s (renderLine release line ++ rest) = .ok r) :
    ∃ s', Kept release s' ∧ s'.mode = .startRecord ∧ run release s' rest = .ok r := by
  obtain _ | ⟨_ | ⟨c, field⟩, line⟩ := line
  · exact h.run_lineFeed hrun
  · obtain _ | ⟨field, line⟩ := line
    · have hquotes : ∃ s', Kept release s' ∧ run release s' ('\n' :: rest) = .ok r := by
        obtain ⟨mode, records, fields, taken⟩ := s
        have hempty : taken = [] := h.empty (.inl hmode)
        subst hempty hmode
        change run release _ ('"' :: '"' :: '\n' :: rest) = .ok r at hrun
        rw [run_cons (by decide) (List.cons_ne_nil _ _)] at hrun
        change run release ⟨.inQuoted, records, fields, []⟩ ('"' :: '\n' :: rest) = .ok r at hrun
        rw [run_cons (by decide) (List.cons_ne_nil _ _)] at hrun
        exact ⟨⟨.quoteInQuoted, records, fields, []⟩,
          ⟨by simp, h.records, h.fields, safe_nil, fun _ => rfl⟩, hrun⟩
      obtain ⟨s₁, hs₁, hrun⟩ := hquotes
      exact hs₁.run_lineFeed hrun
    · rw [renderLine, List.append_assoc] at hrun
      · exact h.run_renderFields hrun
      · simp
  · have htail : renderFields release line ++ rest ≠ [] :=
      List.append_ne_nil_of_left_ne_nil (renderFields_ne_nil line) _
    rw [renderLine, List.append_assoc] at hrun
    · obtain ⟨s₁, hs₁, hrun⟩ := h.run_renderField (.inl hmode) htail hrun
      exact hs₁.run_renderFields hrun
    · simp

/-- A carriage return that the writer left without quotes never comes back. -/
theorem safe_of_read_render {table records : List (List Text)}
    (hread : read release (render release table) = .ok records) :
    ∀ line ∈ records, ∀ field ∈ line, Safe release field := by
  have hrun : ∀ s r, Kept release s → s.mode = .startRecord →
      run release s (render release table) = .ok r → Kept release r := by
    clear hread
    induction table with
    | nil =>
      intro s r hs _ hrun
      cases hrun
      exact hs
    | cons line table ih =>
      intro s r hs hmode hrun
      have hline : run release s (renderLine release line ++ render release table) = .ok r := hrun
      obtain ⟨s₁, hs₁, hmode₁, hrun⟩ := hs.run_renderLine hmode hline
      exact ih s₁ r hs₁ hmode₁ hrun
  have hstart : Kept release {} :=
    ⟨nofun, List.forall_mem_nil _, List.forall_mem_nil _, safe_nil, fun _ => rfl⟩
  obtain ⟨r, hrun', hfinish⟩ := bind_eq_ok.mp hread
  have hr : Kept release r := hrun {} r hstart rfl hrun'
  rw [finish, if_neg hr.mode] at hfinish
  cases hfinish
  exact hr.records

/-- The reader gives back what was written exactly where every field is short enough and its
carriage returns stand between quotes. -/
theorem read_render_iff {table : List (List Text)} :
    read release (render release table) = .ok table ↔
      ∀ line ∈ table, ∀ field ∈ line, field.length ≤ release.fieldLimit ∧ Safe release field := by
  constructor
  · intro hread
    have hsafe := safe_of_read_render hread
    rw [read_render hsafe] at hread
    split at hread
    · next hfits =>
      exact fun line hline field hfield =>
        ⟨hfits line hline field hfield, hsafe line hline field hfield⟩
    · cases hread
  · intro hall
    have hfits : ∀ line ∈ table, Fits release line := fun line hline field hfield =>
      (hall line hline field hfield).1
    rw [read_render fun line hline field hfield => (hall line hline field hfield).2, if_pos hfits]

end DataForge.Foundation.Csv
