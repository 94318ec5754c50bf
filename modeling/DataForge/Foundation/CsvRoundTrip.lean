import DataForge.Foundation.Csv

namespace DataForge.Foundation.Csv

open DataForge.Foundation.Strings
open DataForge.Foundation.Lines

variable {release : Release} {s : Reader} {field rest : Text}

/-- The run of the reader over the events of a text. -/
def run (release : Release) (s : Reader) (text : Text) : Except CsvError Reader :=
  (events text).foldlM (step release) s

/-- The reader's run when it takes a field: it fails where the field is too long. -/
def runIf (release : Release) (fits : Prop) [Decidable fits] (s : Reader) (text : Text) :
    Except CsvError Reader :=
  if fits then run release s text else .error .fieldLimit

theorem run_cons {c : Char} (hc : isNewline c = false) {text : Text} (hne : text ≠ []) :
    run release s (c :: text) = step release s (some c) >>= fun s' => run release s' text := by
  rw [run, events_cons hc hne, List.foldlM_cons]
  rfl

theorem run_lineFeed {text : Text} : run release s ('\n' :: text) =
    (step release s (some '\n') >>= fun s' => step release s' none) >>= fun s' =>
      run release s' text := by
  rw [run, events_lineFeed, List.foldlM_cons, bind_assoc]
  rfl

theorem runIf_pos {fits : Prop} [Decidable fits] (h : fits) (text : Text) :
    runIf release fits s text = run release s text := by
  rw [runIf, if_pos h]

/-- The fields are taken together where a first part is taken and then the rest. -/
theorem runIf_append {c : Char} (mode : Mode) :
    runIf release ((s.field ++ [c]).length + field.length ≤ release.fieldLimit)
        { s with mode := mode, field := s.field ++ [c] ++ field } rest =
      runIf release (s.field.length + (c :: field).length ≤ release.fieldLimit)
        { s with mode := mode, field := s.field ++ c :: field } rest := by
  have hlength : (s.field ++ [c]).length + field.length = s.field.length + (c :: field).length := by
    rw [List.length_append, List.length_singleton, List.length_cons]
    omega
  rw [runIf, runIf, List.append_assoc, List.singleton_append, hlength]

theorem runIf_full {c : Char} {s' : Reader} (hlt : ¬ s.field.length < release.fieldLimit) :
    runIf release (s.field.length + (c :: field).length ≤ release.fieldLimit) s' rest =
      .error .fieldLimit := by
  rw [runIf, if_neg]
  rw [List.length_cons]
  omega

/-- A field without special characters is taken as it is. -/
theorem run_plain (hfield : ∀ c ∈ field, isNewline c = false ∧ c ≠ ',' ∧ c ≠ '"')
    (hmode : s.mode = .inField) (hlength : s.field.length ≤ release.fieldLimit)
    (hrest : rest ≠ []) :
    run release s (field ++ rest) =
      runIf release (s.field.length + field.length ≤ release.fieldLimit)
      { s with mode := .inField, field := s.field ++ field } rest := by
  induction field generalizing s with
  | nil =>
    rw [runIf_pos (show s.field.length + ([] : Text).length ≤ _ from hlength),
      List.append_nil, ← hmode]
    rfl
  | cons c field ih =>
    obtain ⟨⟨hc, hcomma, hquote⟩, hfield⟩ := List.forall_mem_cons.mp hfield
    have hstep : step release s (some c) = push release s .inField c := by
      simp [step, hmode, stepField, hc, hcomma]
    rw [List.cons_append, run_cons hc (List.append_ne_nil_of_right_ne_nil _ hrest), hstep, push]
    split
    · next hlt =>
      have htaken := ih (s := { s with mode := .inField, field := s.field ++ [c] }) hfield rfl
        (by rw [List.length_append, List.length_singleton]; exact hlt)
      exact htaken.trans (runIf_append .inField)
    · next hlt =>
      rw [runIf_full hlt]
      rfl

/-- The doubled text of a quoted field is taken up to its closing quote. -/
theorem run_quoted (hmode : s.mode = .inQuoted) (hlength : s.field.length ≤ release.fieldLimit)
    (hrest : rest ≠ []) : run release s (field.flatMap double ++ '"' :: rest) =
      runIf release (s.field.length + field.length ≤ release.fieldLimit)
        { s with mode := .quoteInQuoted, field := s.field ++ field } rest := by
  induction field generalizing s with
  | nil =>
    have hstep : step release s (some '"') = .ok { s with mode := .quoteInQuoted } := by
      simp [step, hmode]
    rw [runIf_pos (show s.field.length + ([] : Text).length ≤ _ from hlength), List.append_nil,
      List.flatMap_nil, List.nil_append, run_cons (by decide) hrest, hstep]
    rfl
  | cons c field ih =>
    have htail : field.flatMap double ++ '"' :: rest ≠ [] :=
      List.append_ne_nil_of_right_ne_nil _ (List.cons_ne_nil _ _)
    have hread : run release s (double c ++ (field.flatMap double ++ '"' :: rest)) =
        push release s .inQuoted c >>= fun s' =>
          run release s' (field.flatMap double ++ '"' :: rest) := by
      by_cases hc : c = '"'
      · have hfirst : step release s (some '"') = .ok { s with mode := .quoteInQuoted } := by
          simp [step, hmode]
        rw [double, if_pos hc, List.cons_append, List.cons_append,
          run_cons (by decide) (by simp), hc, hfirst]
        change run release _ ('"' :: _) = _
        rw [List.nil_append, run_cons (by decide) htail]
        rfl
      · have hstep : step release s (some c) = push release s .inQuoted c := by
          simp [step, hmode, hc]
        obtain ⟨stop, hstop, hevents⟩ := exists_events_cons c htail
        rw [double, if_neg hc, List.singleton_append, run, hevents, List.foldlM_cons, hstep, push]
        split
        · rcases hstop with rfl | rfl
          · rfl
          · rfl
        · rfl
    rw [List.flatMap_cons, List.append_assoc, hread, push]
    split
    · next hlt =>
      have htaken := ih (s := { s with mode := .inQuoted, field := s.field ++ [c] }) rfl
        (by rw [List.length_append, List.length_singleton]; exact hlt)
      exact htaken.trans (runIf_append .quoteInQuoted)
    · next hlt =>
      rw [runIf_full hlt]
      rfl

/-- Where a release leaves a field unquoted, the field has no carriage return. -/
def Safe (release : Release) (field : Text) : Prop :=
  '\r' ∈ field → needsQuotes release field = true

instance (release : Release) (field : Text) : Decidable (Safe release field) :=
  inferInstanceAs (Decidable (_ → _))

theorem forall_plain_of_not_needsQuotes (hsafe : Safe release field)
    (hquotes : needsQuotes release field = false) :
    ∀ c ∈ field, isNewline c = false ∧ c ≠ ',' ∧ c ≠ '"' := by
  intro c hc
  have hspecial := List.any_eq_false.mp hquotes c hc
  have hreturn : c ≠ '\r' := by
    rintro rfl
    rw [hsafe hc] at hquotes
    cases hquotes
  simp only [isNewline] at hspecial ⊢
  simp_all

/-- A field is taken where a record or a field starts; an empty one changes nothing. -/
theorem run_field {mode : Mode} {records : List (List Text)} {fields : List Text}
    (hmode : mode = .startRecord ∨ mode = .startField) (hsafe : Safe release field) :
    ∃ mode', (mode' = mode ∧ field = [] ∨ mode' = .inField ∨ mode' = .quoteInQuoted) ∧
      ∀ rest ≠ [], run release ⟨mode, records, fields, []⟩ (renderField release field ++ rest) =
        runIf release (field.length ≤ release.fieldLimit) ⟨mode', records, fields, field⟩ rest := by
  by_cases hquotes : needsQuotes release field = true
  · refine ⟨.quoteInQuoted, .inr (.inr rfl), fun rest hrest => ?_⟩
    have hstep : step release ⟨mode, records, fields, []⟩ (some '"') =
        .ok ⟨.inQuoted, records, fields, []⟩ := by
      rcases hmode with rfl | rfl
      · rfl
      · rfl
    have htaken :
        run release ⟨.inQuoted, records, fields, []⟩ (field.flatMap double ++ '"' :: rest) = _ :=
      run_quoted rfl (Nat.zero_le _) hrest
    rw [List.length_nil, Nat.zero_add, List.nil_append] at htaken
    rw [renderField, if_pos hquotes, List.cons_append, run_cons (by decide) (by simp), hstep,
      List.append_assoc]
    exact htaken
  · rw [Bool.not_eq_true] at hquotes
    have hplain := forall_plain_of_not_needsQuotes hsafe hquotes
    rw [renderField, hquotes, if_neg Bool.false_ne_true]
    cases field with
    | nil =>
      refine ⟨mode, .inl ⟨rfl, rfl⟩, fun rest _ => ?_⟩
      rw [runIf_pos (show ([] : Text).length ≤ _ from Nat.zero_le _)]
      rfl
    | cons c field =>
      refine ⟨.inField, .inr (.inl rfl), fun rest hrest => ?_⟩
      obtain ⟨⟨hc, hcomma, hquote⟩, hfield⟩ := List.forall_mem_cons.mp hplain
      have hstep : step release ⟨mode, records, fields, []⟩ (some c) =
          push release ⟨mode, records, fields, []⟩ .inField c := by
        rcases hmode with rfl | rfl
        · simp [step, stepField, hc, hcomma, hquote]
        · simp [step, stepField, hc, hcomma, hquote]
      rw [List.cons_append, run_cons hc (List.append_ne_nil_of_right_ne_nil _ hrest), hstep, push]
      split
      · next hlt =>
        have htaken : run release ⟨.inField, records, fields, [c]⟩ (field ++ rest) = _ :=
          run_plain hfield rfl hlt hrest
        have hall := htaken.trans (runIf_append (s := ⟨.inField, records, fields, []⟩) .inField)
        rw [List.length_nil, Nat.zero_add] at hall
        exact hall
      · next hlt =>
        have hfull : runIf release (([] : Text).length + (c :: field).length ≤ release.fieldLimit)
            ⟨.inField, records, fields, c :: field⟩ rest = .error .fieldLimit :=
          runIf_full (s := ⟨mode, records, fields, []⟩) hlt
        rw [List.length_nil, Nat.zero_add] at hfull
        rw [hfull]
        rfl

theorem run_comma {mode : Mode} {records : List (List Text)} {fields : List Text}
    (hmode : mode = .startRecord ∨ mode = .startField ∨ mode = .inField ∨ mode = .quoteInQuoted)
    (hrest : rest ≠ []) : run release ⟨mode, records, fields, field⟩ (',' :: rest) =
      run release ⟨.startField, records, fields ++ [field], []⟩ rest := by
  rw [run_cons (by decide) hrest]
  rcases hmode with rfl | rfl | rfl | rfl
  all_goals rfl

theorem run_end {mode : Mode} {records : List (List Text)} {fields : List Text}
    (hmode : mode = .startField ∨ mode = .inField ∨ mode = .quoteInQuoted) :
    run release ⟨mode, records, fields, field⟩ ('\n' :: rest) =
      run release ⟨.startRecord, records ++ [fields ++ [field]], [], []⟩ rest := by
  rw [run_lineFeed]
  rcases hmode with rfl | rfl | rfl
  all_goals rfl

theorem runIf_and {p q : Prop} [Decidable p] [Decidable q] :
    (if p then runIf release q s rest else .error .fieldLimit) = runIf release (p ∧ q) s rest := by
  rw [runIf, runIf, ite_and]

def Fits (release : Release) (line : List Text) : Prop :=
  ∀ field ∈ line, field.length ≤ release.fieldLimit

instance (release : Release) (line : List Text) : Decidable (Fits release line) :=
  inferInstanceAs (Decidable (∀ field ∈ line, _))

theorem fits_cons {line : List Text} :
    Fits release (field :: line) ↔ field.length ≤ release.fieldLimit ∧ Fits release line :=
  List.forall_mem_cons

theorem renderFields_ne_nil (line : List Text) : renderFields release line ≠ [] := by
  cases line with
  | nil => exact List.cons_ne_nil _ _
  | cons field line => exact List.cons_ne_nil _ _

theorem run_renderFields {mode : Mode} {records : List (List Text)} {fields line : List Text}
    (hmode : mode = .startRecord ∧ line ≠ [] ∨ mode = .startField ∨ mode = .inField ∨
      mode = .quoteInQuoted)
    (hsafe : ∀ field ∈ line, Safe release field) :
    run release ⟨mode, records, fields, field⟩ (renderFields release line ++ rest) =
      runIf release (Fits release line)
        ⟨.startRecord, records ++ [fields ++ field :: line], [], []⟩ rest := by
  induction line generalizing mode fields field with
  | nil =>
    rw [runIf_pos (show Fits release [] from List.forall_mem_nil _)]
    exact run_end (hmode.resolve_left fun h => h.2 rfl)
  | cons next line ih =>
    obtain ⟨hnext, hline⟩ := List.forall_mem_cons.mp hsafe
    have htail : renderFields release line ++ rest ≠ [] :=
      List.append_ne_nil_of_left_ne_nil (renderFields_ne_nil line) _
    obtain ⟨mode', hmode', htaken⟩ :=
      @run_field release next .startField records (fields ++ [field]) (.inr rfl) hnext
    have hclosing : mode' = .startField ∨ mode' = .inField ∨ mode' = .quoteInQuoted :=
      hmode'.imp_left And.left
    rw [renderFields, List.cons_append, List.append_assoc,
      run_comma (hmode.imp_left And.left) (List.append_ne_nil_of_right_ne_nil _ htail),
      htaken _ htail, runIf, ih (.inr hclosing) hline, runIf_and, List.append_assoc,
      List.singleton_append]
    simp only [runIf, fits_cons]

theorem run_renderLine {records : List (List Text)} {line : List Text}
    (hsafe : ∀ field ∈ line, Safe release field) :
    run release ⟨.startRecord, records, [], []⟩ (renderLine release line ++ rest) =
      runIf release (Fits release line) ⟨.startRecord, records ++ [line], [], []⟩ rest := by
  cases line with
  | nil =>
    rw [runIf_pos (show Fits release [] from List.forall_mem_nil _), renderLine,
      List.singleton_append, run_lineFeed]
    rfl
  | cons first line =>
    obtain ⟨hfirst, hline⟩ := List.forall_mem_cons.mp hsafe
    by_cases hempty : first = [] ∧ line = []
    · obtain ⟨rfl, rfl⟩ := hempty
      have hfits : Fits release [[]] := List.forall_mem_singleton.mpr (Nat.zero_le _)
      rw [runIf_pos hfits, renderLine]
      change run release _ ('"' :: '"' :: '\n' :: rest) = _
      rw [run_cons (by decide) (List.cons_ne_nil _ _)]
      change run release ⟨.inQuoted, records, [], []⟩ ('"' :: '\n' :: rest) = _
      rw [run_cons (by decide) (List.cons_ne_nil _ _)]
      exact run_end (.inr (.inr rfl))
    · have htail : renderFields release line ++ rest ≠ [] :=
        List.append_ne_nil_of_left_ne_nil (renderFields_ne_nil line) _
      have hrender : renderLine release (first :: line) =
          renderField release first ++ renderFields release line := by
        rw [renderLine]
        rintro rfl rfl
        exact hempty ⟨rfl, rfl⟩
      obtain ⟨mode', hmode', htaken⟩ :=
        @run_field release first .startRecord records [] (.inl rfl) hfirst
      have hopen : mode' = .startRecord ∧ line ≠ [] ∨
          mode' = .startField ∨ mode' = .inField ∨ mode' = .quoteInQuoted :=
        hmode'.imp (fun h => ⟨h.1, fun hline => hempty ⟨h.2, hline⟩⟩) .inr
      rw [hrender, List.append_assoc, htaken _ htail, runIf, run_renderFields hopen hline,
        runIf_and]
      simp only [runIf, fits_cons, List.nil_append]

/-- What the writer wrote is read as it was, or the reader refuses a field that is too long. -/
theorem read_render {table : List (List Text)}
    (hsafe : ∀ line ∈ table, ∀ field ∈ line, Safe release field) :
    read release (render release table) =
      if ∀ line ∈ table, Fits release line then .ok table else .error .fieldLimit := by
  have hrun : ∀ records, run release ⟨.startRecord, records, [], []⟩ (render release table) =
      if ∀ line ∈ table, Fits release line then .ok ⟨.startRecord, records ++ table, [], []⟩
      else .error .fieldLimit := by
    induction table with
    | nil =>
      intro records
      rw [if_pos (List.forall_mem_nil _), List.append_nil]
      rfl
    | cons line table ih =>
      intro records
      obtain ⟨hline, htable⟩ := List.forall_mem_cons.mp hsafe
      rw [render, List.flatMap_cons, run_renderLine hline, runIf]
      change (if _ then run release _ (render release table) else _) = _
      rw [ih htable, ← ite_and, List.append_assoc]
      simp only [List.forall_mem_cons, List.singleton_append]
  have hread : read release (render release table) =
      run release ⟨.startRecord, [], [], []⟩ (render release table) >>= fun s =>
        pure (finish s) := rfl
  rw [hread, hrun, List.nil_append]
  split
  · rfl
  · rfl

end DataForge.Foundation.Csv
