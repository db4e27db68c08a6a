import Highlight.Fsd
import Highlight.Proofs.Fading
import Highlight.Proofs.Pieces

/-! # Reports in color and without

A report is put together from texts that are shown as they are and texts that are painted, so in
color it is the report without colors, painted here and there. Where that one is plain, nothing else
is left once the color sequences are left out.
-/

namespace Highlight

open Text

namespace Elapsed

theorem plain_decimal (n places : Nat) : Plain (decimal n places) := by
  rw [decimal]
  refine plain_append (plain_toString _) ?_
  split
  · decide
  · refine plain_append (by decide) (plain_of_forall fun c hc => ne_escape_of_isDigit ?_)
    rw [String.toList_ofList, List.mem_reverse] at hc
    rcases List.mem_append.mp (List.mem_reverse.mp ((List.dropWhile_sublist _).mem hc)) with hc | hc
    · rw [List.eq_of_mem_replicate hc]
      decide
    · exact Nat.isDigit_of_mem_toDigits (by decide) (by decide) hc

theorem plain_ofNanos (n : Nat) : Plain (ofNanos n).shown := by
  simp only [ofNanos]
  split_ifs
  · exact plain_append (plain_decimal n 9) (by decide)
  · exact plain_append (plain_decimal n 6) (by decide)
  · exact plain_append (plain_decimal n 3) (by decide)
  · exact plain_append (plain_toString n) (by decide)

end Elapsed

namespace Report

theorem fades_escapeSequence {code : String} (hSome : code.toList ≠ [])
    (hDigits : code.toList.all Char.isDigit = true) : FadesTo (escapeSequence code) "" := by
  intro rest
  have hText : (escapeSequence code).toList ++ rest =
      '\x1b' :: '[' :: (code.toList ++ 'm' :: rest) := by
    simp [escapeSequence]
  have hLength : colorLength? ('\x1b' :: '[' :: (code.toList ++ 'm' :: rest)) =
      some (code.toList.length + 3) :=
    colorLength?_eq_some_iff.mpr ⟨_, rest, hSome, List.all_eq_true.mp hDigits, rfl, rfl⟩
  have hSkip := uncoloredFrom_length_append ('[' :: (code.toList ++ ['m'])) rest
  rw [hText, uncoloredFrom, hLength]
  simpa using hSkip

theorem digits_code (style : Style) :
    style.code.toList ≠ [] ∧ style.code.toList.all Char.isDigit = true := by
  cases style <;> decide

/-- The text `s` is `t` with color sequences around some parts of it. -/
inductive Painted : String → String → Prop
  | plain (s : String) : Painted s s
  | paint {s t : String} (style : Style) (h : Painted s t) : Painted (paint true style s) t
  | append {s t u v : String} (h : Painted s t) (h' : Painted u v) : Painted (s ++ u) (t ++ v)

namespace Painted

variable {s t : String} {xs ys : List String}

theorem fades (h : Painted s t) (ht : Plain t) : FadesTo s t := by
  induction h with
  | plain => exact ht.fades
  | paint style _ ih =>
    obtain ⟨hSome, hDigits⟩ := digits_code style
    have hStart := fades_escapeSequence hSome hDigits
    have hStop : FadesTo (escapeSequence "0") "" := fades_escapeSequence (by decide) (by decide)
    have hPainted := (hStart.append (ih ht)).append hStop
    rwa [String.empty_append, String.append_empty] at hPainted
  | append _ _ ih ih' =>
    obtain ⟨hs, ht⟩ := plain_append_iff.mp ht
    exact (ih hs).append (ih' ht)

theorem paintTag (tag : String) (h : Painted s t) : Painted (paintTag true tag s) t := by
  rw [Report.paintTag]
  induction tagStyles tag generalizing s with
  | nil => exact h
  | cons style styles ih => exact ih (h.paint style)

theorem join (h : List.Forall₂ Painted xs ys) : Painted (String.join xs) (String.join ys) := by
  induction h with
  | nil => exact .plain ""
  | cons hFirst _ ih =>
    rw [String.join_cons, String.join_cons]
    exact hFirst.append ih

theorem intercalate (separator : String) (h : List.Forall₂ Painted xs ys) :
    Painted (separator.intercalate xs) (separator.intercalate ys) := by
  induction h with
  | nil => exact .plain _
  | cons hFirst hRest ih =>
    cases hRest with
    | nil => simpa using hFirst
    | cons =>
      rw [String.intercalate_cons_cons, String.intercalate_cons_cons]
      exact (hFirst.append (.plain separator)).append ih

theorem unlines (h : List.Forall₂ Painted xs ys) :
    Painted (Report.unlines xs) (Report.unlines ys) := by
  refine join ?_
  rw [List.forall₂_map_left_iff, List.forall₂_map_right_iff]
  exact h.imp fun _ _ hLine => hLine.append (.plain "\n")

end Painted

variable {source text line : String} {g : Grammar} {run : Run} {spans : List Span}

theorem painted_renderLine (line : String) (spans : List Span) :
    Painted (renderLine true line spans) (renderLine false line spans) := by
  rw [renderLine_false]
  refine .join ?_
  rw [List.forall₂_map_left_iff, List.forall₂_map_right_iff, List.forall₂_same]
  exact fun p _ => .paintTag p.2 (.plain p.1)

theorem painted_lineReport (g : Grammar) (number : Nat) (line : String) (t : TokenizedLine) :
    List.Forall₂ Painted (lineReport g true number line t) (lineReport g false number line t) := by
  refine .cons ?_ (.cons ?_ .nil)
  · refine .append (.append (.append (.append (.append (.plain _) ?_) (.plain _)) ?_) (.plain _))
      (painted_renderLine line t.spans)
    · exact .paint .gray (.plain _)
    · exact .paint .dim (.plain _)
  · refine .append (.append (.append (.plain _) ?_) (.plain _)) ?_
    · exact .paint .dim (.plain _)
    · exact .paint .dim (.plain _)

theorem painted_lineReports (g : Grammar) (number : Nat) (lines : List String)
    (ts : List TokenizedLine) :
    List.Forall₂ Painted (lineReports g true number lines ts)
      (lineReports g false number lines ts) := by
  induction lines generalizing number ts with
  | nil => exact .nil
  | cons line lines ih =>
    cases ts with
    | nil => exact .nil
    | cons t ts => exact List.rel_append (painted_lineReport g number line t) (ih (number + 1) ts)

theorem painted_fallbackReport (g : Grammar) (n : Nat) :
    List.Forall₂ Painted (fallbackReport g true n) (fallbackReport g false n) := by
  rw [fallbackReport, fallbackReport]
  split
  · exact .nil
  · have hCount := Painted.append (.append (.paint .yellow (.plain "Unmatched:")) (.plain " "))
      (.paint .red (.plain (toString n ++ " character(s) tagged '" ++ g.defaultTag ++ "'")))
    exact .cons (.plain "") (.cons hCount (.cons (.plain "") (.cons (.paint .dim (.plain _)) .nil)))

theorem painted_statistics (n : Counters) (elapsed : Elapsed) :
    List.Forall₂ Painted (statistics true n elapsed) (statistics false n elapsed) := by
  have hPart (name : String) (style : Style) (value : String) :
      Painted (name ++ ": " ++ paint true style value) (name ++ ": " ++ paint false style value) :=
    .append (.plain _) (.paint style (.plain value))
  refine .cons (.plain "") (.cons (.paint .gray (.plain _)) (.cons ?_ .nil))
  refine .append (.plain _) (.intercalate _ ?_)
  exact .cons (hPart _ _ _) (.cons (hPart _ _ _) (.cons (hPart _ _ _) (.cons (hPart _ _ _)
    (.cons (hPart _ _ _) .nil))))

theorem painted_textLines (source text : String) (g : Grammar) (run : Run) (stats : Bool)
    (elapsed : Elapsed) :
    List.Forall₂ Painted (textLines source text g run true stats elapsed)
      (textLines source text g run false stats elapsed) := by
  have hTitle : Painted (paint true .bold (paint true .cyan
      ("⚙  Tokenizing: " ++ source ++ " (grammar " ++ g.name ++ ")"))) _ :=
    .paint .bold (.paint .cyan (.plain _))
  have hHead := List.Forall₂.cons (Painted.plain "") (.cons hTitle (.cons (.plain "")
    (.cons (.paint .gray (.plain "━━━ Lines ━━━")) .nil)))
  refine List.rel_append (List.rel_append (List.rel_append (List.rel_append (List.rel_append hHead
    ?_) (painted_lineReports g 1 _ _)) (painted_fallbackReport g _)) ?_) (.cons (.plain "") .nil)
  · split
    · exact .cons (.paint .dim (.plain _)) .nil
    · exact .nil
  · split
    · exact painted_statistics _ _
    · exact .nil

theorem painted_text (source text : String) (g : Grammar) (run : Run) (stats : Bool)
    (elapsed : Elapsed) :
    Painted (Report.text source text g run true stats elapsed)
      (Report.text source text g run false stats elapsed) :=
  .unlines (painted_textLines source text g run stats elapsed)

theorem plain_renderLine (h : Plain line) (spans : List Span) :
    Plain (renderLine false line spans) := by
  rw [renderLine_false]
  refine plain_join fun x hx => ?_
  obtain ⟨p, hp, rfl⟩ := List.mem_map.mp hx
  exact fun hMem => h (mem_of_mem_pieces hp _ hMem)

theorem plain_spanList (h : ∀ s ∈ spans, Plain s.tag) : Plain (spanList spans) := by
  refine plain_intercalate (by decide) fun x hx => ?_
  obtain ⟨s, hs, rfl⟩ := List.mem_map.mp hx
  refine plain_append (plain_append (plain_toString s.start) (by decide)) ?_
  split
  · decide
  · exact h s hs

theorem plain_lineNumber (n : Nat) : Plain (lineNumber n) := by
  refine plain_append (plain_of_forall fun c hc => ?_) (plain_toString n)
  rw [String.toList_ofList] at hc
  rw [List.eq_of_mem_replicate hc]
  decide

theorem mem_stateNames_of_mem_stackNames {stack : StateStack} {name : String}
    (h : name ∈ g.stackNames stack) : name ∈ g.stateNames := by
  obtain ⟨id, -, hName⟩ := List.mem_filterMap.mp h
  obtain ⟨state, hState, rfl⟩ := Option.map_eq_some_iff.mp hName
  exact List.mem_map.mpr ⟨state, List.mem_of_getElem? hState, rfl⟩

/-- Nothing that a report shows of a run has an escape character: the name of the source, the text,
the names of the grammar and its states, and the tags. -/
structure Unescaped (source text : String) (g : Grammar) (run : Run) : Prop where
  source : Plain source
  text : Plain text
  name : Plain g.name
  defaultTag : Plain g.defaultTag
  tags : ∀ t ∈ run.lines, ∀ s ∈ t.spans, Plain s.tag
  states : ∀ name ∈ g.stateNames, Plain name

namespace Unescaped

variable (h : Unescaped source text g run)

include h

theorem plain_lineReport (number : Nat) {t : TokenizedLine} (hLine : Plain line)
    (ht : t ∈ run.lines) : ∀ row ∈ lineReport g false number line t, Plain row := by
  have hStack : Plain (String.intercalate ", " (g.stackNames t.stack)) :=
    plain_intercalate (by decide) fun name hName =>
      h.states name (mem_stateNames_of_mem_stackNames hName)
  have hSpans := plain_spanList (h.tags t ht)
  simp only [lineReport, paint, Bool.false_eq_true, if_false, List.forall_mem_cons, plain_append_iff]
  exact ⟨⟨⟨⟨⟨⟨by decide, plain_lineNumber number⟩, by decide⟩, by decide⟩, by decide⟩,
    plain_renderLine hLine t.spans⟩, ⟨⟨⟨by decide, by decide⟩, by decide⟩,
    ⟨⟨⟨hSpans, by decide⟩, hStack⟩, by decide⟩⟩, fun _ hNone => absurd hNone List.not_mem_nil⟩

theorem plain_lineReports (number : Nat) {lines : List String} {ts : List TokenizedLine}
    (hLines : ∀ line ∈ lines, Plain line) (hts : ∀ t ∈ ts, t ∈ run.lines) :
    ∀ row ∈ lineReports g false number lines ts, Plain row := by
  induction lines generalizing number ts with
  | nil => exact fun _ hNone => absurd hNone List.not_mem_nil
  | cons line lines ih =>
    cases ts with
    | nil => exact fun _ hNone => absurd hNone List.not_mem_nil
    | cons t ts =>
      obtain ⟨hLine, hLines⟩ := List.forall_mem_cons.mp hLines
      obtain ⟨ht, hts⟩ := List.forall_mem_cons.mp hts
      exact List.forall_mem_append.mpr
        ⟨h.plain_lineReport number hLine ht, ih (number + 1) hLines hts⟩

theorem plain_fallbackReport (n : Nat) : ∀ row ∈ fallbackReport g false n, Plain row := by
  rw [fallbackReport]
  split
  · exact fun _ hNone => absurd hNone List.not_mem_nil
  · simp only [paint, Bool.false_eq_true, if_false, List.forall_mem_cons, plain_append_iff]
    exact ⟨by decide, ⟨⟨by decide, by decide⟩,
      ⟨⟨plain_toString n, by decide⟩, h.defaultTag⟩, by decide⟩, by decide, by decide,
      fun _ hNone => absurd hNone List.not_mem_nil⟩

omit h in
theorem plain_statistics (n : Counters) {elapsed : Elapsed} (hElapsed : Plain elapsed.shown) :
    ∀ row ∈ statistics false n elapsed, Plain row := by
  have hPart {name value : String} (hName : Plain name) (hValue : Plain value) :
      Plain (name ++ ": " ++ value) :=
    plain_append (plain_append hName (by decide)) hValue
  refine List.forall_mem_cons.mpr ⟨by decide, List.forall_mem_cons.mpr ⟨by decide,
    List.forall_mem_singleton.mpr (plain_append (by decide) (plain_intercalate (by decide) ?_))⟩⟩
  simp only [List.forall_mem_cons]
  exact ⟨hPart (by decide) hElapsed, hPart (by decide) (plain_toString _),
    hPart (by decide) (plain_toString _), hPart (by decide) (plain_toString _),
    hPart (by decide) (plain_toString _), fun _ hNone => absurd hNone List.not_mem_nil⟩

theorem plain_textLines (stats : Bool) {elapsed : Elapsed} (hElapsed : Plain elapsed.shown) :
    ∀ row ∈ textLines source text g run false stats elapsed, Plain row := by
  have hTitle := plain_append (plain_append (plain_append (plain_append
    (by decide : Plain "⚙  Tokenizing: ") h.source) (by decide : Plain " (grammar ")) h.name)
    (by decide : Plain ")")
  simp only [textLines, List.forall_mem_append, List.forall_mem_cons]
  refine ⟨⟨⟨⟨⟨⟨by decide, hTitle, by decide, by decide, ?_⟩, ?_⟩, ?_⟩, h.plain_fallbackReport _⟩,
    ?_⟩, by decide, ?_⟩
  · exact fun _ hNone => absurd hNone List.not_mem_nil
  · split
    · exact List.forall_mem_singleton.mpr (by decide)
    · exact fun _ hNone => absurd hNone List.not_mem_nil
  · exact h.plain_lineReports 1 (fun _ hLine => h.text.of_mem_lines hLine) fun _ ht => ht
  · split
    · exact plain_statistics _ hElapsed
    · exact fun _ hNone => absurd hNone List.not_mem_nil
  · exact fun _ hNone => absurd hNone List.not_mem_nil

theorem plain_text (stats : Bool) {elapsed : Elapsed} (hElapsed : Plain elapsed.shown) :
    Plain (Report.text source text g run false stats elapsed) := by
  refine plain_join fun x hx => ?_
  obtain ⟨row, hRow, rfl⟩ := List.mem_map.mp hx
  exact plain_append (h.plain_textLines stats hElapsed row hRow) (by decide)

end Unescaped

/-- A report shows the text. The spans of every line cut it into pieces that make up the line, which
is what is shown of it without colors, and the report with colors becomes the report without them
when the color sequences are left out. -/
theorem report_reproduces_text (g : Grammar) :
    (∀ stack line, Renders line (g.tokenizeLine stack line).spans) ∧
      ∀ (source text : String) (stats : Bool) (nanos : Nat),
        Unescaped source text g (g.run text) →
          uncolored (Report.text source text g (g.run text) true stats (.ofNanos nanos)) =
            Report.text source text g (g.run text) false stats (.ofNanos nanos) :=
  ⟨fun stack line => (g.ordered_tokenizeLine stack line).renders, fun _ _ stats nanos h =>
    ((painted_text _ _ g _ stats _).fades
      (h.plain_text stats (Elapsed.plain_ofNanos nanos))).uncolored_eq⟩

theorem fsd_report_reproduces_text :
    Unescaped "a.fsd" "service A \x7b é" Fsd.grammar (Fsd.grammar.run "service A \x7b é") ∧
      uncolored (Report.text "a.fsd" "service A \x7b é" Fsd.grammar
          (Fsd.grammar.run "service A \x7b é") true true (.ofNanos 1500)) =
        Report.text "a.fsd" "service A \x7b é" Fsd.grammar
          (Fsd.grammar.run "service A \x7b é") false true (.ofNanos 1500) := by
  -- One evaluation builds the grammar for all that is asked of it.
  have hShown : Plain Fsd.grammar.name ∧ Plain Fsd.grammar.defaultTag ∧
      (∀ t ∈ (Fsd.grammar.run "service A \x7b é").lines, ∀ s ∈ t.spans, Plain s.tag) ∧
      ∀ name ∈ Fsd.grammar.stateNames, Plain name := by
    decide +kernel
  obtain ⟨hName, hDefaultTag, hTags, hStates⟩ := hShown
  have h : Unescaped "a.fsd" "service A \x7b é" Fsd.grammar
      (Fsd.grammar.run "service A \x7b é") :=
    ⟨by decide, by decide, hName, hDefaultTag, hTags, hStates⟩
  exact ⟨h, (report_reproduces_text Fsd.grammar).2 _ _ true 1500 h⟩

end Report

end Highlight
