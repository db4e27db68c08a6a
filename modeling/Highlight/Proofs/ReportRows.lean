import Highlight.Proofs.LineByLine
import Highlight.Proofs.Rendering
import Highlight.Proofs.StackSafety

/-! # The rows of a report

What a report without colors has to say about a run, row by row: which text was tokenized with which
grammar, every line with its number, its spans and the stack at its end, and what was counted.
-/

namespace Highlight

namespace Report

/-- The two rows of the line with the number `n`: the line itself, and below it where its spans
start, with their tags, and the names of the states on the stack. -/
structure ShowsLine (g : Grammar) (n : Nat) (line : String) (t : TokenizedLine)
    (row below : String) : Prop where
  row_eq : row = "  " ++ (String.ofList (List.replicate (4 - (toString n).length) ' ') ++ toString n)
    ++ " " ++ "│" ++ " " ++ line
  below_eq : ∃ names : List String, t.stack.ids.map g.stateName? = names.map some ∧
    below = "       " ++ "└" ++ " " ++ (" ".intercalate (t.spans.map fun s =>
      toString s.start ++ ":" ++ if s.tag.isEmpty then "·" else s.tag) ++ "  ⇒ [" ++
        ", ".intercalate names ++ "]")

/-- The rows of a report on a run. Unmatched characters are counted if there are any, and statistics
are there on request. -/
structure Shows (source : String) (g : Grammar) (lines : List String) (run : Run) (stats : Bool)
    (elapsed : Elapsed) (rows : List String) : Prop where
  head : rows.take 4 = ["", "⚙  Tokenizing: " ++ source ++ " (grammar " ++ g.name ++ ")", "",
    "━━━ Lines ━━━"]
  no_lines : run.lines = [] → rows[4]? = some "  No lines"
  line : ∀ (i : Nat) (line : String) (t : TokenizedLine), lines[i]? = some line →
    run.lines[i]? = some t → ∃ row below, rows[4 + 2 * i]? = some row ∧
      rows[4 + 2 * i + 1]? = some below ∧ ShowsLine g (i + 1) line t row below
  rest : rows.drop (4 + max 1 (2 * run.lines.length)) =
    (if run.counters.fallbacks = 0 then [] else
      [ "",
        "Unmatched: " ++ (toString run.counters.fallbacks ++ " character(s) tagged '" ++
          g.defaultTag ++ "'"),
        "",
        "  Tip: RUST_LOG=fsdlex=trace shows which state each one was seen in" ]) ++
    (if stats then
      [ "",
        "━━━ Stats ━━━",
        "  " ++ "  │  ".intercalate [
          "Total: " ++ elapsed.shown,
          "Lines: " ++ toString run.counters.lines,
          "Spans: " ++ toString run.counters.spans,
          "Fallbacks: " ++ toString run.counters.fallbacks,
          "Max depth: " ++ toString run.counters.maxDepth] ] else []) ++ [""]

variable {g : Grammar}

theorem length_lineReports (g : Grammar) (colored : Bool) (n : Nat) {lines : List String}
    {ts : List TokenizedLine} (h : ts.length = lines.length) :
    (lineReports g colored n lines ts).length = 2 * ts.length := by
  induction lines generalizing n ts with
  | nil =>
    rw [List.length_eq_zero_iff.mp h]
    rfl
  | cons line lines ih =>
    cases ts with
    | nil => cases h
    | cons t ts =>
      rw [lineReports, List.length_append, ih (n + 1) (Nat.succ.inj h), List.length_cons]
      simp only [lineReport, List.length_cons, List.length_nil]
      omega

theorem exists_drop_lineReports (g : Grammar) (colored : Bool) (n : Nat) {lines : List String}
    {ts : List TokenizedLine} {i : Nat} {line : String} {t : TokenizedLine}
    (hLine : lines[i]? = some line) (ht : ts[i]? = some t) :
    ∃ later, (lineReports g colored n lines ts).drop (2 * i) =
      lineReport g colored (n + i) line t ++ later := by
  induction i generalizing n lines ts with
  | zero =>
    cases lines with
    | nil => cases hLine
    | cons first lines =>
      cases ts with
      | nil => cases ht
      | cons t' ts =>
        cases hLine
        cases ht
        exact ⟨_, rfl⟩
  | succ i ih =>
    cases lines with
    | nil => cases hLine
    | cons first lines =>
      cases ts with
      | nil => cases ht
      | cons t' ts =>
        obtain ⟨later, hLater⟩ := ih (n + 1) hLine ht
        rw [Nat.add_right_comm, Nat.add_assoc] at hLater
        exact ⟨later, hLater⟩

theorem showsLine_lineReport {t : TokenizedLine} {line : String} (n : Nat)
    (hSpans : Renders line t.spans) (hStack : g.accepts t.stack = true) :
    ∃ row below, lineReport g false n line t = [row, below] ∧ ShowsLine g n line t row below := by
  refine ⟨_, _, rfl, ⟨?_, g.stackNames t.stack, Grammar.map_stateName?_of_accepts hStack, rfl⟩⟩
  rw [hSpans.plain_eq]
  rfl

theorem exists_tokenizeLine_of_getElem? {stack : StateStack} {lines : List String} {i : Nat}
    {line : String} {t : TokenizedLine} (hLine : lines[i]? = some line)
    (ht : (g.tokenizeLines stack lines)[i]? = some t) :
    ∃ start, t = g.tokenizeLine start line := by
  induction lines generalizing stack i with
  | nil => cases hLine
  | cons first lines ih =>
    cases i with
    | zero =>
      cases hLine
      cases ht
      exact ⟨stack, rfl⟩
    | succ i => exact ih hLine ht

theorem length_lines_run (g : Grammar) (text : String) :
    (g.run text).lines.length = (Text.lines text).length := by
  rw [Grammar.run, g.lines_runLines, g.length_tokenizeLines]

theorem drop_textLines (source text : String) (g : Grammar) (run : Run) (stats : Bool)
    (elapsed : Elapsed) :
    (textLines source text g run false stats elapsed).drop 4 =
      (if run.lines.isEmpty then ["  No lines"] else []) ++
        (lineReports g false 1 (Text.lines text) run.lines ++
          (fallbackReport g false run.counters.fallbacks ++
            ((if stats then statistics false run.counters elapsed else []) ++ [""]))) := by
  simp only [textLines, List.append_assoc]
  rfl

theorem exists_rows_of_line (hg : g.WellFormed) (source : String) {text : String} (stats : Bool)
    (elapsed : Elapsed) {i : Nat} {line : String} {t : TokenizedLine}
    (hLine : (Text.lines text)[i]? = some line) (ht : (g.run text).lines[i]? = some t) :
    ∃ row below later,
      (textLines source text g (g.run text) false stats elapsed).drop (4 + 2 * i) =
        row :: below :: later ∧ ShowsLine g (i + 1) line t row below := by
  obtain ⟨hLt, -⟩ := List.getElem?_eq_some_iff.mp ht
  have hSome : (g.run text).lines.isEmpty = false :=
    List.isEmpty_eq_false_iff.mpr (List.ne_nil_of_length_pos (Nat.zero_lt_of_lt hLt))
  obtain ⟨later, hLater⟩ := exists_drop_lineReports g false 1 hLine ht
  have hLines : (g.run text).lines = g.tokenizeLines g.initial (Text.lines text) :=
    g.lines_runLines _ _ _
  rw [hLines] at ht
  obtain ⟨start, rfl⟩ := exists_tokenizeLine_of_getElem? hLine ht
  have hKeeps := hg.keeps_initial.of_mem_tokenizeLines hg _ (List.mem_of_getElem? ht)
  obtain ⟨row, below, hRows, hShows⟩ := showsLine_lineReport (i + 1)
    (g.ordered_tokenizeLine start line).renders hKeeps.accepted
  rw [Nat.add_comm 1, hRows] at hLater
  have hLe : 2 * i ≤ (lineReports g false 1 (Text.lines text) (g.run text).lines).length := by
    rw [length_lineReports g false 1 (length_lines_run g text)]
    omega
  rw [← List.drop_drop, drop_textLines, hSome, if_neg Bool.false_ne_true, List.nil_append,
    List.drop_append_of_le_length hLe, hLater]
  exact ⟨row, below, _, rfl, hShows⟩

theorem shows_textLines (hg : g.WellFormed) (source text : String) (stats : Bool)
    (elapsed : Elapsed) : Shows source g (Text.lines text) (g.run text) stats elapsed
      (textLines source text g (g.run text) false stats elapsed) where
  head := rfl
  no_lines hNone := by simp [textLines, hNone, paint]
  line i line t hLine ht := by
    obtain ⟨row, below, later, hDrop, hShows⟩ :=
      exists_rows_of_line hg source stats elapsed hLine ht
    refine ⟨row, below, ?_, ?_, hShows⟩
    · rw [← Nat.add_zero (4 + 2 * i), ← List.getElem?_drop, hDrop]
      rfl
    · rw [← List.getElem?_drop, hDrop]
      rfl
  rest := by
    have hLength := length_lineReports g false 1 (length_lines_run g text)
    rw [← List.drop_drop, drop_textLines]
    by_cases hNone : (g.run text).lines = []
    · rw [hNone] at hLength ⊢
      rw [List.length_eq_zero_iff.mp hLength]
      change fallbackReport g false _ ++ (_ ++ _) = _
      rw [← List.append_assoc]
      rfl
    · have hMax : max 1 (2 * (g.run text).lines.length) =
          (lineReports g false 1 (Text.lines text) (g.run text).lines).length := by
        have hPos := List.length_pos_iff.mpr hNone
        omega
      rw [hMax, if_neg (by simpa using hNone), List.nil_append, List.drop_left, ← List.append_assoc]
      rfl

end Report

end Highlight
